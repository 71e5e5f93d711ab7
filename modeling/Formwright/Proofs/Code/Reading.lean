import Formwright.Proofs.Code.Lexeme

/-!
# Reading code part by part

A line of code is put together from fixed texts and from texts of a document. Each part is read on
its own, in the regions that it stands in, and the lexemes of a line are those of its parts one
after the other; so are the lexemes of some lines, however far they are indented.
-/
namespace Formwright.Code

/-! ## Parts of a line -/

/-- In some regions, where no lexeme is begun, a text is read as lexemes and leads to other regions,
whatever follows it, as long as it is a character that ends what may be begun. -/
def Reads (outer : List Region) (text : String) (ends : Char → Bool) (inner : List Region)
    (tokens : List Lexeme) : Prop :=
  ∀ c rest, ends c = true → Reading.scan ⟨outer, .idle⟩ (text.toList ++ c :: rest) =
    Reading.emit tokens (Reading.scan ⟨inner, .idle⟩ (c :: rest))

section

variable {outer middle inner : List Region} {first later : String} {ends ends' : Char → Bool}
  {tokens tokens' : List Lexeme}

/-- Texts are read one after the other if the second one starts with a character that ends what the
first one may have begun. -/
theorem Reads.before (front : Reads outer first ends middle tokens)
    (back : Reads middle later ends' inner tokens')
    (starts : later.toList.head?.any ends = true) :
    Reads outer (first ++ later) ends' inner (tokens ++ tokens') := by
  intro c rest follows
  obtain ⟨lead, more, spelled⟩ : ∃ lead more, later.toList = lead :: more :=
    List.exists_cons_of_ne_nil fun none => by simp [none] at starts
  have fronts := front lead (more ++ c :: rest) (by simpa [spelled] using starts)
  have backs := back c rest follows
  rw [spelled, List.cons_append] at backs
  rw [String.toList_append, List.append_assoc, spelled, List.cons_append, fronts, backs,
    Reading.emit_emit]

/-- Texts are read one after the other if the first one leaves nothing begun. -/
theorem Reads.append (front : Reads outer first Pending.idle.endsAt middle tokens)
    (back : Reads middle later ends inner tokens') :
    Reads outer (first ++ later) ends inner (tokens ++ tokens') := by
  intro c rest follows
  have backs := back c rest follows
  cases spelled : later.toList with
  | nil =>
    rw [spelled, List.nil_append] at backs
    rw [String.toList_append, spelled, List.append_nil, front c rest rfl, backs, Reading.emit_emit]
  | cons lead more =>
    rw [spelled, List.cons_append] at backs
    rw [String.toList_append, List.append_assoc, spelled, List.cons_append, front lead _ rfl, backs,
      Reading.emit_emit]

/-- A text that leaves less begun is read before more characters. -/
theorem Reads.mono (read : Reads outer first ends inner tokens)
    (narrows : ∀ c, ends' c = true → ends c = true) : Reads outer first ends' inner tokens :=
  fun c rest follows => read c rest (narrows c follows)

end

/-- Whether a text is read as the given lexemes, with what may be begun at its end. -/
def isRead (outer : List Region) (text : String) (pending : Pending) (inner : List Region)
    (tokens : List Lexeme) : Bool :=
  let made := Reading.scan ⟨outer, .idle⟩ text.toList
  Reading.staysInside ⟨outer, .idle⟩ text.toList && made.1 == ⟨inner, pending⟩ &&
    made.2 ++ pending.ended == tokens

/-- A given text is read alike in all regions around it. -/
theorem reads_of_isRead {top inner : List Region} {text : String} {pending : Pending}
    {tokens : List Lexeme} (read : isRead top text pending inner tokens = true)
    (outer : List Region) : Reads (top ++ outer) text pending.endsAt (inner ++ outer) tokens := by
  simp only [isRead, Bool.and_eq_true, beq_iff_eq] at read
  obtain ⟨⟨inside, reached⟩, rfl⟩ := read
  intro c rest follows
  have held := Reading.scan_within inside outer
  rw [Reading.within] at held
  rw [Reading.scan_append, held, reached, Reading.within, Reading.scan_ended follows,
    Reading.emit_emit]

/-- A comma in code is read as itself. -/
theorem reads_comma (outer : List Region) :
    Reads (.code :: outer) "," Pending.idle.endsAt (.code :: outer) [.mark ','] :=
  reads_of_isRead (rfl : isRead [.code] "," .idle [.code] [.mark ','] = true) outer

/-- A colon in code is read as itself. -/
theorem reads_colon (outer : List Region) :
    Reads (.code :: outer) ":" Pending.idle.endsAt (.code :: outer) [.mark ':'] :=
  reads_of_isRead (rfl : isRead [.code] ":" .idle [.code] [.mark ':'] = true) outer

/-! ## Lines -/

namespace Line

/-- The text of a line, without its indentation. -/
def text : Line → String
  | .blank => ""
  | .plain text | .opening text | .closing text => text

/-- In some regions, at the start of a line, the line is read as lexemes and leads to other
regions. -/
def Reads (outer : List Region) (line : Line) (inner : List Region) (tokens : List Lexeme) : Prop :=
  ∀ rest, Reading.scan ⟨outer, .fresh⟩ (line.text.toList ++ '\n' :: rest) =
    Reading.emit tokens (Reading.scan ⟨inner, .fresh⟩ rest)

/-- In some regions, at the start of a line, lines are read one after the other. -/
inductive AllRead : List Region → List Line → List Region → List Lexeme → Prop where
  | nil (outer : List Region) : AllRead outer [] outer []
  | cons {outer middle inner : List Region} {line : Line} {later : List Line}
      {tokens tokens' : List Lexeme} (here : line.Reads outer middle tokens)
      (below : AllRead middle later inner tokens') :
      AllRead outer (line :: later) inner (tokens ++ tokens')

section

variable {outer middle inner : List Region} {lines later : List Line}
  {tokens tokens' : List Lexeme}

/-- Lines are read after others. -/
theorem AllRead.append (front : AllRead outer lines middle tokens)
    (back : AllRead middle later inner tokens') :
    AllRead outer (lines ++ later) inner (tokens ++ tokens') := by
  induction front with
  | nil => exact back
  | cons here _ ih =>
    rw [List.cons_append, List.append_assoc]
    exact .cons here (ih back)

/-- A line is read on its own. -/
theorem Reads.single {line : Line} (read : line.Reads outer inner tokens) :
    AllRead outer [line] inner tokens := by
  have one := AllRead.cons read (.nil inner)
  rwa [List.append_nil] at one

/-- Indentation is passed. -/
theorem scan_replicate (outer : List Region) (count : Nat) (rest : List Char) :
    Reading.scan ⟨outer, .fresh⟩ (List.replicate count ' ' ++ rest) =
      Reading.scan ⟨outer, .fresh⟩ rest := by
  induction count with
  | zero => rfl
  | succ count ih => exact ih

/-- A line is read at any depth. -/
theorem Reads.scan_indented {line : Line} (read : line.Reads outer inner tokens) (depth : Nat)
    (rest : List Char) :
    Reading.scan ⟨outer, .fresh⟩ ((indented depth line.text).toList ++ rest) =
      Reading.emit tokens (Reading.scan ⟨inner, .fresh⟩ rest) := by
  rw [indented, String.toList_append, String.toList_append, String.toList_ofList,
    List.append_assoc, List.append_assoc, scan_replicate]
  exact read rest

/-- Lines are read as they are rendered, at any depth. -/
theorem AllRead.scan_renderAt (read : AllRead outer lines inner tokens) (depth : Nat)
    (rest : List Char) :
    Reading.scan ⟨outer, .fresh⟩ ((renderAt depth lines).toList ++ rest) =
      Reading.emit tokens (Reading.scan ⟨inner, .fresh⟩ rest) := by
  induction read generalizing depth with
  | nil => simp [renderAt]
  | @cons outer _ _ line later _ _ here _ ih =>
    cases line with
    | blank =>
      rw [renderAt, String.toList_append, List.append_assoc, ← Reading.emit_emit, ← ih depth]
      exact here _
    | plain | opening | closing =>
      rw [renderAt, String.toList_append, List.append_assoc]
      exact (here.scan_indented _ _).trans (by rw [ih, Reading.emit_emit])

end

/-! ## Single lines -/

/-- A line is read as its text is, if that does not start with a blank and does not end inside a
closing tag. -/
theorem reads_of_text {line : Line} {outer inner : List Region} {region : Region}
    {ends : Char → Bool} {tokens : List Lexeme}
    (read : Code.Reads outer line.text ends (region :: inner) tokens)
    (starts : line.text.toList.head?.any (fun c => !Json.isGap c) = true)
    (follows : ends '\n' = true) (opens : region ≠ .endTag) :
    Reads outer line (region :: inner) tokens := by
  intro rest
  obtain ⟨lead, more, spelled⟩ : ∃ lead more, line.text.toList = lead :: more :=
    List.exists_cons_of_ne_nil fun none => by simp [none] at starts
  have shown : Json.isGap lead = false := by simpa [spelled] using starts
  have same : Reading.scan ⟨outer, .fresh⟩ (line.text.toList ++ '\n' :: rest) =
      Reading.scan ⟨outer, .idle⟩ (line.text.toList ++ '\n' :: rest) := by
    simp [spelled, Reading.scan, Reading.step, shown]
  rw [same, read '\n' rest follows]
  cases region with
  | endTag => contradiction
  | code | element | tag => rfl

/-- The lexemes of given lines and the regions that they lead to: none if some lexeme is not read to
the end of its line. -/
def readAll? : List Region → List Line → Option (List Region × List Lexeme)
  | outer, [] => some (outer, [])
  | outer, line :: later => do
    let text := line.text.toList ++ ['\n']
    let made := Reading.scan ⟨outer, .fresh⟩ text
    if made.1.pending = .fresh ∧ Reading.staysInside ⟨outer, .fresh⟩ text then
      let below ← readAll? made.1.regions later
      some (below.1, made.2 ++ below.2)
    else none

/-- Given lines are read alike in all regions around them. -/
theorem allRead_of_readAll? {lines : List Line} {top inner : List Region} {tokens : List Lexeme}
    (read : readAll? top lines = some (inner, tokens)) (outer : List Region) :
    AllRead (top ++ outer) lines (inner ++ outer) tokens := by
  induction lines generalizing top inner tokens with
  | nil =>
    obtain ⟨rfl, rfl⟩ := Prod.mk.inj (Option.some.inj read)
    exact .nil _
  | cons line later ih =>
    simp only [readAll?] at read
    split at read
    · next passed =>
      obtain ⟨idle, inside⟩ := passed
      obtain ⟨⟨reached, made⟩, below, same⟩ := Option.bind_eq_some_iff.mp read
      obtain ⟨rfl, rfl⟩ := Prod.mk.inj (Option.some.inj same)
      refine .cons (fun rest => ?_) (ih below)
      have held := Reading.scan_within inside outer
      rw [Reading.within] at held
      rw [List.append_cons, Reading.scan_append, held, Reading.within, idle]
    · contradiction

end Line

section

variable {outer middle inner : List Region} {region : Region} {text : String} {ends : Char → Bool}
  {tokens tokens' : List Lexeme}

/-- A text starts as its first part does. -/
theorem any_head?_append {first : String} {holds : Char → Bool}
    (starts : first.toList.head?.any holds = true) (later : String) :
    (first ++ later).toList.head?.any holds = true := by
  cases spelled : first.toList with
  | nil => simp [spelled] at starts
  | cons c rest => simpa [spelled] using starts

/-- A line of code is read as its text is. -/
theorem Reads.line {line : Line} (read : Reads outer text ends (region :: inner) tokens)
    (starts : text.toList.head?.any (fun c => !Json.isGap c) = true)
    (follows : ends '\n' = true) (opens : region ≠ .endTag) (spelled : line.text = text) :
    Line.AllRead outer [line] (region :: inner) tokens := by
  subst spelled
  exact (Line.reads_of_text read starts follows opens).single

/-- Lines that are made of parts are read part by part. -/
theorem Line.allRead_flatMap {α : Type} (parts : List α) {lines : α → List Line}
    {spelled : α → List Lexeme} (each : ∀ part, AllRead outer (lines part) outer (spelled part)) :
    AllRead outer (parts.flatMap lines) outer (parts.flatMap spelled) := by
  induction parts with
  | nil => exact .nil outer
  | cons part later ih => exact (each part).append ih

end
end Formwright.Code
