import Formwright.Proofs.Code.Spelling

/-!
# What generated code uses

From the lexemes of code it can be told which elements it opens, which fields its handler of changes
is called for, and which members of the values and of the errors of the form it reads. The block of
a field uses its control, and nothing but the name of the field.
-/
namespace Formwright.Code

/-! ## Uses -/

/-- Something that code uses. -/
inductive Use where
  /-- An element is opened. -/
  | tag (name : String)
  /-- The handler of changes is called with the name of a field. -/
  | change (field : String)
  /-- The value under the name of a field is read. -/
  | value (field : String)
  /-- The error under the name of a field is read. -/
  | error (field : String)
deriving DecidableEq, Repr

/-- What reading a member of an object uses. -/
def memberUse? (object name : String) : Option Use :=
  if object = "values" then some (.value name)
  else if object = "errors" then some (.error name)
  else none

/-- What the lexemes at the start of a list use: a tag, a call of the handler of changes, or a
member of an object, after a point or in brackets. -/
def use? : List Lexeme → Option Use
  | .opening name :: _ => some (.tag name)
  | .word word :: .mark c :: .literal name :: rest =>
    if c = '(' then if word = "handleChange" then some (.change name) else none
    else if c = '[' ∧ rest.head? = some (.mark ']') then memberUse? word name
    else none
  | .word word :: .mark c :: .word name :: _ => if c = '.' then memberUse? word name else none
  | _ => none

/-- What lexemes use, in their order. -/
def uses : List Lexeme → List Use
  | [] => []
  | token :: rest => (use? (token :: rest)).toList ++ uses rest

/-- Whether no use goes on after lexemes: they do not end in a name, in a string literal, or in a
name and what leads from it to a use. -/
def isSettled : List Lexeme → Bool
  | [] => true
  | [.word _] | [.literal _] => false
  | [.word word, .mark c] => c != '.' && c != '[' && (c != '(' || word != "handleChange")
  | _ :: rest => isSettled rest

/-- What lexemes use at their start does not depend on what follows them. -/
theorem use?_append {token : Lexeme} {later : List Lexeme}
    (settled : isSettled (token :: later) = true) (rest : List Lexeme) :
    use? (token :: later ++ rest) = use? (token :: later) := by
  cases token with
  | word word =>
    match later with
    | [] => contradiction
    | [.mark c] =>
      simp only [isSettled, Bool.and_eq_true, bne_iff_ne, ne_eq, Bool.or_eq_true] at settled
      obtain ⟨⟨point, bracket⟩, call⟩ := settled
      match rest with
      | [] => rfl
      | .literal _ :: _ =>
        have uncalled : ¬(c = '(' ∧ word = "handleChange") := fun both =>
          call.elim (· both.1) (· both.2)
        by_cases paren : c = '(' <;> simp_all [use?]
      | .word _ :: _ => simp [use?, point]
      | .mark _ :: _ | .number _ :: _ | .opening _ :: _ | .closing _ :: _ | .attribute _ :: _
        | .child _ :: _ => rfl
    | .mark _ :: third :: [] => cases third <;> first | rfl | contradiction
    | .mark _ :: third :: _ :: _ => cases third <;> rfl
    | .word _ :: _ | .number _ :: _ | .literal _ :: _ | .opening _ :: _ | .closing _ :: _
      | .attribute _ :: _ | .child _ :: _ => rfl
  | _ => rfl

/-- Before two other lexemes or more, the first one does not matter for what goes on after them. -/
theorem isSettled_cons_cons (token next last : Lexeme) (later : List Lexeme) :
    isSettled (token :: next :: last :: later) = isSettled (next :: last :: later) := by
  cases token <;> cases next <;> rfl

/-- If no use goes on after lexemes, then none does after those of them that follow the first. -/
theorem isSettled_of_cons {token : Lexeme} {later : List Lexeme}
    (settled : isSettled (token :: later) = true) : isSettled later = true := by
  match later with
  | [] => rfl
  | [next] => cases token <;> cases next <;> first | rfl | exact settled
  | next :: last :: later => rwa [isSettled_cons_cons] at settled

/-- What lexemes use does not depend on what follows them. -/
theorem uses_append {tokens : List Lexeme} (settled : isSettled tokens = true)
    (rest : List Lexeme) : uses (tokens ++ rest) = uses tokens ++ uses rest := by
  induction tokens with
  | nil => rfl
  | cons token later ih =>
    have here := use?_append settled rest
    rw [List.cons_append] at here
    rw [List.cons_append, uses, here, ih (isSettled_of_cons settled), uses, List.append_assoc]

/-- No use goes on after lexemes that follow others if none goes on after either. -/
theorem isSettled_append {tokens rest : List Lexeme} (front : isSettled tokens = true)
    (back : isSettled rest = true) : isSettled (tokens ++ rest) = true := by
  induction tokens with
  | nil => exact back
  | cons token later ih =>
    have below := ih (isSettled_of_cons front)
    match later, rest with
    | [], [] => exact front
    | [], next :: _ => cases token <;> first | exact below | contradiction
    | [_], [] | _ :: _ :: _, [] => rwa [List.append_nil]
    | [_], _ :: _ | _ :: _ :: _, _ :: _ =>
      exact (isSettled_cons_cons ..).trans below

/-- Whether there are lexemes and no use goes on with the first of them. -/
def startsApart : List Lexeme → Bool
  | [] => false
  | .mark c :: _ => c ∉ ['(', '.', '[']
  | _ => true

/-- A word that stands apart from what follows it uses nothing. -/
theorem uses_word_cons (word : String) {rest : List Lexeme} (apart : startsApart rest = true) :
    uses (.word word :: rest) = uses rest := by
  have last : use? (.word word :: rest) = none := by
    match rest with
    | .mark c :: [] => rfl
    | .mark c :: next :: _ =>
      have other : c ≠ '(' ∧ c ≠ '.' ∧ c ≠ '[' := by simpa [startsApart] using apart
      cases next <;> simp [use?, other]
    | .word _ :: _ | .number _ :: _ | .literal _ :: _ | .opening _ :: _ | .closing _ :: _
      | .attribute _ :: _ | .child _ :: _ => rfl
  rw [uses, last]
  rfl

/-- No use goes on after lexemes that follow any others if none goes on with them or after them. -/
theorem isSettled_append_of_startsApart (tokens : List Lexeme) {rest : List Lexeme}
    (apart : startsApart rest = true) (settled : isSettled rest = true) :
    isSettled (tokens ++ rest) = true := by
  induction tokens with
  | nil => exact settled
  | cons token later ih =>
    match later, rest with
    | [], [next] =>
      cases token <;> cases next <;> simp_all [isSettled, startsApart]
    | [], _ :: _ :: _ | [_], _ :: _ | _ :: _ :: _, _ => 
      exact (isSettled_cons_cons ..).trans ih

/-- Lexemes use nothing, and no use goes on after them. -/
def IsQuiet (tokens : List Lexeme) : Prop := isSettled tokens = true ∧ uses tokens = []

/-- Lexemes that use nothing can stand one after the other. -/
theorem IsQuiet.append {tokens rest : List Lexeme} (front : IsQuiet tokens) (back : IsQuiet rest) :
    IsQuiet (tokens ++ rest) :=
  ⟨isSettled_append front.1 back.1, by rw [uses_append front.1, front.2, back.2]; rfl⟩

/-- Lexemes of parts that use nothing use nothing. -/
theorem isQuiet_flatMap {α : Type} (parts : List α) {tokens : α → List Lexeme}
    (each : ∀ part, IsQuiet (tokens part)) : IsQuiet (parts.flatMap tokens) := by
  induction parts with
  | nil => exact ⟨rfl, rfl⟩
  | cons part later ih => exact (each part).append ih

/-! ## Parts and lines -/

/-- A text is read as lexemes that use the given things, and no use goes on after it. -/
def Shows (outer : List Region) (text : String) (ends : Char → Bool) (inner : List Region)
    (found : List Use) : Prop :=
  ∃ tokens, Reads outer text ends inner tokens ∧ isSettled tokens = true ∧ uses tokens = found

/-- Lines are read as lexemes that use the given things, and no use goes on after them. -/
def Line.Show (outer : List Region) (lines : List Line) (inner : List Region) (found : List Use) :
    Prop :=
  ∃ tokens, AllRead outer lines inner tokens ∧ isSettled tokens = true ∧ uses tokens = found

section

variable {outer middle inner : List Region} {ends ends' : Char → Bool} {found found' : List Use}

/-- What a text uses stands before what a text after it uses. -/
theorem Shows.append {first later : String}
    (front : Shows outer first Pending.idle.endsAt middle found)
    (back : Shows middle later ends inner found') :
    Shows outer (first ++ later) ends inner (found ++ found') := by
  obtain ⟨tokens, read, settled, rfl⟩ := front
  obtain ⟨tokens', read', settled', rfl⟩ := back
  exact ⟨tokens ++ tokens', read.append read', isSettled_append settled settled',
    uses_append settled tokens'⟩

/-- What a text uses stands before what a text after it uses that ends what the first one may have
begun. -/
theorem Shows.before {first later : String} (front : Shows outer first ends middle found)
    (back : Shows middle later ends' inner found') (starts : later.toList.head?.any ends = true) :
    Shows outer (first ++ later) ends' inner (found ++ found') := by
  obtain ⟨tokens, read, settled, rfl⟩ := front
  obtain ⟨tokens', read', settled', rfl⟩ := back
  exact ⟨tokens ++ tokens', read.before read' starts, isSettled_append settled settled',
    uses_append settled tokens'⟩

/-- What lines use stands before what lines after them use. -/
theorem Line.Show.append {lines later : List Line} (front : Line.Show outer lines middle found)
    (back : Line.Show middle later inner found') :
    Line.Show outer (lines ++ later) inner (found ++ found') := by
  obtain ⟨tokens, read, settled, rfl⟩ := front
  obtain ⟨tokens', read', settled', rfl⟩ := back
  exact ⟨tokens ++ tokens', read.append read', isSettled_append settled settled',
    uses_append settled tokens'⟩

/-- A construct uses what its first line and its body use. -/
theorem Line.Show.block {first last : String} {body : List Line}
    (opened : Line.Show outer [.opening first] middle found)
    (inside : Line.Show middle body middle found')
    (closed : Line.Show middle [.closing last] inner []) :
    Line.Show outer (Line.block first body last) inner (found ++ found') := by
  have whole := (opened.append inside).append closed
  rwa [List.append_nil] at whole

/-- No lines use nothing. -/
theorem Line.show_nil (outer : List Region) : Line.Show outer [] outer [] :=
  ⟨[], .nil outer, rfl, rfl⟩

/-- Lines that are made of parts use what each part uses. -/
theorem Line.show_flatMap {α : Type} (parts : List α) {lines : α → List Line}
    {found : α → List Use} (each : ∀ part, Line.Show outer (lines part) outer (found part)) :
    Line.Show outer (parts.flatMap lines) outer (parts.flatMap found) := by
  induction parts with
  | nil => exact show_nil outer
  | cons part later ih => exact (each part).append ih

/-- A line uses what its text uses. -/
theorem Shows.line {line : Line} {text : String} {region : Region}
    (shown : Shows outer text ends (region :: inner) found)
    (starts : text.toList.head?.any (fun c => !Json.isGap c) = true)
    (follows : ends '\n' = true) (opens : region ≠ .endTag) (spelled : line.text = text) :
    Line.Show outer [line] (region :: inner) found := by
  obtain ⟨tokens, read, settled, used⟩ := shown
  exact ⟨tokens, read.line starts follows opens spelled, settled, used⟩

end

/-- What a given text uses, and the regions that it leads to. -/
def textUses? (outer : List Region) (text : String) : Option (List Region × List Use) :=
  let made := Reading.scan ⟨outer, .idle⟩ text.toList
  if Reading.staysInside ⟨outer, .idle⟩ text.toList ∧ made.1.pending = .idle ∧ isSettled made.2 then
    some (made.1.regions, uses made.2)
  else none

/-- A given text uses the same in all regions around it. -/
theorem shows_of_textUses? {top inner : List Region} {text : String} {found : List Use}
    (used : textUses? top text = some (inner, found)) (outer : List Region) :
    Shows (top ++ outer) text Pending.idle.endsAt (inner ++ outer) found := by
  simp only [textUses?] at used
  split at used
  · next held =>
    obtain ⟨inside, idle, settled⟩ := held
    obtain ⟨rfl, rfl⟩ := Prod.mk.inj (Option.some.inj used)
    refine ⟨_, reads_of_isRead ?_ outer, settled, rfl⟩
    rw [isRead, inside]
    generalize Reading.scan ⟨top, .idle⟩ text.toList = made at idle
    obtain ⟨⟨regions, pending⟩, tokens⟩ := made
    obtain rfl : pending = .idle := idle
    simp [Pending.ended]
  · contradiction

/-- What given lines use, and the regions that they lead to. -/
def Line.linesUses? (outer : List Region) (lines : List Line) :
    Option (List Region × List Use) := do
  let made ← readAll? outer lines
  if isSettled made.2 then some (made.1, uses made.2) else none

/-- Given lines use the same in all regions around them. -/
theorem Line.show_of_linesUses? {top inner : List Region} {lines : List Line} {found : List Use}
    (used : linesUses? top lines = some (inner, found)) (outer : List Region) :
    Show (top ++ outer) lines (inner ++ outer) found := by
  obtain ⟨made, read, kept⟩ := Option.bind_eq_some_iff.mp used
  split at kept
  · next settled =>
    obtain ⟨rfl, rfl⟩ := Prod.mk.inj (Option.some.inj kept)
    exact ⟨made.2, allRead_of_readAll? read outer, settled, rfl⟩
  · contradiction

end Formwright.Code
