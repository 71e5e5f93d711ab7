import Formwright.Proofs.Prompt.NamedImport

/-!
# Bare code in two layouts

Bare code starts with a declaration. In a tighter layout it starts where it did before, unless the
first declaration is an import without names.
-/
namespace Formwright
open Pattern Text

/-! ## Declarations -/

/-- The declarations that bare code starts with. -/
def declarations : List Pattern := [
  exactText "import" ++ space ++ oneOf "\"'",
  namedImport,
  exactText "export" ++ space ++ maybe (exactText "default" ++ space)
    ++ anyOf [exactText "function", exactText "const", exactText "class"] ++ wordEdge,
  exactText "function" ++ space ++ oneOrMore (.one isWord) ++ gap ++ exactly '(',
  exactText "const" ++ space ++ oneOrMore (.one isWord) ++ gap ++ exactly '=' ++ gap
    ++ exactly '(']

/-- A pattern at the start of a line or after white space. -/
def ledIn (pattern : Pattern) : Pattern := anyOf [lineStart, .one isBlank] ++ pattern

/-- Bare code starts with a declaration at the start of a line or after white space. -/
theorem codeStart_eq : codeStart = ledIn (anyOf declarations) := rfl

/-- All declarations but imports by names match alike. -/
theorem matchesAlike_of_mem_declarations {pattern : Pattern} (listed : pattern ∈ declarations)
    (other : pattern ≠ namedImport) : MatchesAlike pattern := by
  have word (wanted : String) (solid : IsSolid wanted) : Phrase (exactText wanted) :=
    .ofExactText wanted solid
  have name : Phrase (oneOrMore (.one isWord)) := .ofOneOrMore fun _ => isWord_of_isBlank
  have opened : Phrase (exactly '(') := .ofExactly '(' (by decide)
  simp only [declarations, List.mem_cons, List.not_mem_nil, or_false] at listed
  rcases listed with rfl | rfl | rfl | rfl | rfl
  · have quote : Phrase (oneOf "\"'") := .ofOneOf "\"'" (by decide)
    exact ((word "import" (by decide)).spaced quote).matchesAlike
  · exact absurd rfl other
  · have kinds : Phrase (anyOf [exactText "function", exactText "const", exactText "class"]) :=
      .ofExactTexts ["function", "const", "class"] (by decide)
    have default := word "default" (by decide)
    have exported := (word "export" (by decide)).spacedMaybe default kinds
    exact exported.edge.matchesAlike
  · exact (((word "function" (by decide)).spaced name).apart opened).matchesAlike
  · have named := (word "const" (by decide)).spaced name
    exact ((named.apart (.ofExactly '=' (by decide))).apart opened).matchesAlike

/-- Whether a declaration starts at a place. -/
def declares (place : Place) : Bool := (anyOf declarations).admits place fun _ => true

/-- Whether an import without names starts at a place. -/
def importsNothing (place : Place) : Bool := namelessImport.admits place fun _ => true

section

variable {loose tight place : Place}

/-- From aligned places imports go on after their first word at aligned places, if at all. -/
theorem imports_aligned (aligned : loose.Aligned tight) :
    ((namedImport.admits loose fun _ => true) = false ∧
      (namedImport.admits tight fun _ => true) = false) ∨
    ∃ later laterToo : Place, later.Aligned laterToo ∧
      (namedImport.admits loose fun _ => true) = (importTail.admits later fun _ => true) ∧
      (namedImport.admits tight fun _ => true) = (importTail.admits laterToo fun _ => true) ∧
      importsNothing loose = (namelessTail.admits later fun _ => true) := by
  have named (place : Place) : namedImport.matchAt place =
      (exactText "import").run ⟨place, none⟩ (importTail.run · some) := rfl
  have nameless (place : Place) : namelessImport.matchAt place =
      (exactText "import").run ⟨place, none⟩ (namelessTail.run · some) := rfl
  have told (pattern : Pattern) (point : Point) :
      (pattern.run point some).isSome = pattern.admits point.toPlace fun _ => true :=
    isSome_run pattern point some (fun _ => true) fun _ => rfl
  have solid : IsSolid "import" := by decide
  rw [importsNothing]
  simp only [← isSome_matchAt, named, nameless]
  have moves : MovesAlike (exactText "import") ⟨loose, none⟩ ⟨tight, none⟩ :=
    movesAlike_exactText solid aligned
  rcases moves with none | ⟨later, laterToo, further, goesOn⟩
  · exact .inl ⟨by rw [(none _).1]; rfl, by rw [(none _).2]; rfl⟩
  · refine .inr ⟨later.toPlace, laterToo.toPlace, further, ?_⟩
    rw [(goesOn _).1, (goesOn _).2, (goesOn _).1]
    simp only [told, isSome_matchAt, and_self]

/-- A declaration that starts in a tighter layout started there before. -/
theorem declares_of_tight (aligned : loose.Aligned tight) (told : declares tight = true) :
    declares loose = true := by
  obtain ⟨pattern, listed, found⟩ := (admits_anyOf_iff declarations tight _).mp told
  refine (admits_anyOf_iff declarations loose _).mpr ⟨pattern, listed, ?_⟩
  by_cases named : pattern = namedImport
  · subst named
    rcases imports_aligned aligned with ⟨-, none⟩ | ⟨later, laterToo, further, before, after, -⟩
    · rw [none] at found
      cases found
    · rw [after] at found
      rw [before]
      exact admits_importTail_of_tight further found
  · exact ((matchesAlike_of_mem_declarations listed named).admits_eq aligned).trans found

/-- A declaration starts in a tighter layout too, unless it is an import without names. -/
theorem declares_or (aligned : loose.Aligned tight) (told : declares loose = true) :
    declares tight = true ∨ importsNothing loose = true := by
  obtain ⟨pattern, listed, found⟩ := (admits_anyOf_iff declarations loose _).mp told
  have still (found : (pattern.admits tight fun _ => true) = true) : declares tight = true :=
    (admits_anyOf_iff declarations tight _).mpr ⟨pattern, listed, found⟩
  by_cases named : pattern = namedImport
  · subst named
    rcases imports_aligned aligned with
      ⟨none, -⟩ | ⟨later, laterToo, further, before, after, nameless⟩
    · rw [none] at found
      cases found
    · rw [before] at found
      rcases admits_importTail_or further found with goesOn | without
      · exact .inl (still (after.trans goesOn))
      · exact .inr (nameless.trans without)
  · have alike := matchesAlike_of_mem_declarations listed named
    exact .inl (still ((alike.admits_eq aligned).symm.trans found))

/-- A declaration starts with a character of a word. -/
theorem declares_eq_false (outside : ¬place.AtWord) : declares place = false := by
  rw [Bool.eq_false_iff]
  intro told
  obtain ⟨pattern, listed, found⟩ := (admits_anyOf_iff declarations place _).mp told
  by_cases named : pattern = namedImport
  · have starts : Starts (namedImport.run · some) :=
      (Phrase.ofExactText "import" (by decide)).starts (importTail.run · some)
        (ignoresLayout_some.onward.run importTail)
    rw [named, ← isSome_matchAt, matchAt, starts.eq_none ⟨place, none⟩ outside] at found
    cases found
  · rw [(matchesAlike_of_mem_declarations listed named).admits_eq_false outside] at found
    cases found

end

/-! ## Where bare code starts -/

/-- Whether bare code starts at a place: a declaration at the start or after white space. -/
def startsCode (place : Place) : Bool := place.before.all isBlank && declares place

/-- The text from a place up to where bare code starts, and that place; the text after the first
place is given. -/
def beforeCode : List Char → Place → Option (List Char × Place)
  | [], place => if startsCode place then some ([], place) else none
  | c :: rest, place =>
    if startsCode place then some ([], place)
    else (beforeCode rest (place.advance c rest)).map fun found => (c :: found.1, found.2)

/-- Where no word goes on, no bare code starts. -/
theorem startsCode_eq_false {place : Place} (outside : ¬place.AtWord) :
    startsCode place = false := by
  rw [startsCode, declares_eq_false outside, Bool.and_false]

/-- Nothing is before the code where it starts. -/
theorem beforeCode_of_starts {place : Place} (starts : startsCode place = true)
    (text : List Char) : beforeCode text place = some ([], place) := by
  cases text <;> rw [beforeCode, if_pos starts]

/-- Before a character from which no code starts, the code starts after it. -/
theorem beforeCode_cons {place : Place} (none : startsCode place = false) (c : Char)
    (rest : List Char) : beforeCode (c :: rest) place =
      (beforeCode rest (place.advance c rest)).map fun found => (c :: found.1, found.2) := by
  rw [beforeCode, none]
  rfl

/-- From a place at the end no code starts. -/
theorem beforeCode_nil {place : Place} (atEnd : place.rest = []) : beforeCode [] place = none := by
  rw [beforeCode, startsCode_eq_false (Place.not_atWord_of_nil atEnd)]
  rfl

/-- What is found is related after a change on both sides if the change keeps the relation. -/
theorem rel_map {α β : Type} {related : α → α → Prop} {relatedToo : β → β → Prop} {f g : α → β}
    {one two : Option α} (both : Option.Rel related one two)
    (keeps : ∀ {found foundToo}, related found foundToo → relatedToo (f found) (g foundToo)) :
    Option.Rel relatedToo (one.map f) (two.map g) := by
  cases both with
  | some related => exact .some (keeps related)
  | none => exact .none

/-- Where code starts in one of two layouts it starts in the other, unless it starts with an import
without names. -/
theorem startsCode_eq {loose tight : Place} (aligned : loose.Aligned tight)
    (named : startsCode loose = true → importsNothing loose = false) :
    startsCode loose = startsCode tight := by
  have start : startsCode loose = (loose.before.all isBlank && declares loose) := rfl
  have startToo : startsCode tight = (loose.before.all isBlank && declares tight) := by
    rw [startsCode, aligned.before.2]
  rw [Bool.eq_iff_iff]
  constructor
  · intro starts
    obtain ⟨spaced, told⟩ := Bool.and_eq_true_iff.mp (start.symm.trans starts)
    rcases declares_or aligned told with toldToo | without
    · rw [startToo, spaced, toldToo]
      rfl
    · cases (named starts).symm.trans without
  · intro starts
    obtain ⟨spaced, told⟩ := Bool.and_eq_true_iff.mp (startToo.symm.trans starts)
    rw [start, spaced, declares_of_tight aligned told]
    rfl

/-- Code starts alike in both layouts, unless it starts with an import without names. -/
theorem rel_beforeCode {loose tight : Place} (alike : loose.Alike tight)
    (named : ∀ found ∈ beforeCode loose.rest loose, importsNothing found.2 = false) :
    Option.Rel (fun found foundToo => Tightens found.1 foundToo.1) (beforeCode loose.rest loose)
      (beforeCode tight.rest tight) := by
  have onward {place : Place} {c : Char} {rest : List Char} (none : startsCode place = false)
      (named : ∀ found ∈ beforeCode (c :: rest) place, importsNothing found.2 = false) :
      ∀ found ∈ beforeCode rest (place.advance c rest), importsNothing found.2 = false := by
    rw [beforeCode_cons none] at named
    exact fun found listed => named (c :: found.1, found.2) (Option.mem_map_of_mem _ listed)
  induction alike using Place.Alike.induct with
  | nil _ atEnd atEndToo =>
    rw [atEnd, atEndToo, beforeCode_nil atEnd, beforeCode_nil atEndToo]
    exact .none
  | @char loose tight c rest later aligned _ split splitToo kind ih =>
    rw [split] at named ⊢
    rw [splitToo]
    have same := startsCode_eq aligned fun starts =>
      named _ (Option.mem_def.mpr (beforeCode_of_starts starts _))
    cases starts : startsCode loose with
    | true =>
      rw [beforeCode_of_starts starts, beforeCode_of_starts (same.symm.trans starts)]
      exact .some .nil
    | false =>
      rw [beforeCode_cons starts, beforeCode_cons (same.symm.trans starts)]
      exact rel_map (ih (onward starts named)) fun tightens => .char kind tightens
  | blank alike _ split splitToo kind kindToo ih =>
    have outside := startsCode_eq_false (Place.not_atWord_of_blank split kind)
    have outsideToo := startsCode_eq_false (Place.not_atWord_of_blank splitToo kindToo)
    rw [split] at named ⊢
    rw [splitToo, beforeCode_cons outside, beforeCode_cons outsideToo]
    exact rel_map (ih (onward outside named)) fun tightens => .blank kind kindToo tightens
  | @surplus loose tight b d rest alike _ split kind next ih =>
    have outside := startsCode_eq_false (Place.not_atWord_of_blank split kind)
    have nowhere : startsCode (loose.advance b (d :: rest)) = false :=
      startsCode_eq_false (Place.not_atWord_of_blank rfl next)
    rw [split] at named ⊢
    have both := ih (onward outside named)
    rw [beforeCode_cons outside]
    change Option.Rel _ (beforeCode (d :: rest) _) _ at both
    rw [beforeCode_cons nowhere] at both ⊢
    generalize beforeCode rest _ = found at both ⊢
    generalize beforeCode tight.rest tight = foundToo at both ⊢
    cases found with
    | none => exact both
    | some found =>
      cases both with
      | some tightens => exact .some (.surplus kind next tightens)
  | trailing _ split kind atEnd =>
    have outside := startsCode_eq_false (Place.not_atWord_of_blank split kind)
    rw [split, atEnd, beforeCode_cons outside, beforeCode_nil rfl, beforeCode_nil atEnd]
    exact .none

/-- White space at the start is before the code. -/
theorem exists_beforeCode_blanks {blanks : List Char} (blank : ∀ b ∈ blanks, isBlank b = true)
    {rest : List Char} {place : Place} (split : place.rest = blanks ++ rest)
    (spaced : place.before.all isBlank = true) :
    ∃ later : Place, later.rest = rest ∧ later.before.all isBlank = true ∧
      beforeCode (blanks ++ rest) place =
        (beforeCode rest later).map fun found => (blanks ++ found.1, found.2) := by
  induction blanks generalizing place with
  | nil => exact ⟨place, split, spaced, by simp⟩
  | cons b blanks ih =>
    rw [List.forall_mem_cons] at blank
    have spacedToo : (place.advance b (blanks ++ rest)).before.all isBlank = true := blank.1
    obtain ⟨later, splitToo, spaced, same⟩ := ih blank.2 rfl spacedToo
    refine ⟨later, splitToo, spaced, ?_⟩
    have outside := startsCode_eq_false (Place.not_atWord_of_blank split blank.1)
    rw [List.cons_append, beforeCode_cons outside, same, Option.map_map]
    rfl

/-! ## The first match -/

/-- A pattern is led in where it matches at the start of a line, or after white space. -/
theorem isSome_matchAt_ledIn (pattern : Pattern) (place : Place) :
    ((ledIn pattern).matchAt place).isSome =
      ((place.isLineStart && pattern.admits place fun _ => true) ||
        (one isBlank).admits place fun later => pattern.admits later fun _ => true) := by
  rw [isSome_matchAt]
  rfl

/-- A line starts after white space, if not at the start. -/
theorem spaced_of_isLineStart {place : Place} (starts : place.isLineStart = true) :
    place.before.all isBlank = true := by
  rw [Place.isLineStart] at starts
  cases before : place.before with
  | none => rfl
  | some c =>
    rw [before, Option.all_some, beq_iff_eq] at starts
    subst starts
    decide

/-- The first match at the start of a line or after white space is where bare code starts, or right
before the white space in front of it. -/
theorem rel_find_codeStart {text : List Char} {place : Place} (split : place.rest = text)
    (fresh : startsCode place = true → place.isLineStart = true) :
    Option.Rel (fun first found =>
        (∃ blanks, (∀ b ∈ blanks, isBlank b = true) ∧
          found.1 = place.between first ++ blanks) ∧
        (importsNothing found.2 = true → ((ledIn namelessImport).matchAt first).isSome = true))
      ((place.onward text).find? fun later => (codeStart.matchAt later).isSome)
      (beforeCode text place) := by
  have told (place : Place) : (codeStart.matchAt place).isSome =
      ((place.isLineStart && declares place) || (one isBlank).admits place declares) := by
    rw [codeStart_eq, isSome_matchAt_ledIn]
    rfl
  have toldToo (place : Place) : ((ledIn namelessImport).matchAt place).isSome =
      ((place.isLineStart && importsNothing place) ||
        (one isBlank).admits place importsNothing) :=
    isSome_matchAt_ledIn _ place
  induction text generalizing place with
  | nil =>
    rw [beforeCode_nil split, Place.onward, List.find?_singleton, told,
      declares_eq_false (Place.not_atWord_of_nil split), admits_one_of_nil split, Bool.and_false]
    exact .none
  | cons c rest ih =>
    have next : startsCode (place.advance c rest) =
        (isBlank c && declares (place.advance c rest)) := rfl
    rw [Place.onward, List.find?_cons, told, admits_one split, ← next]
    cases starts : startsCode place with
    | true =>
      have line := fresh starts
      obtain ⟨-, declared⟩ := Bool.and_eq_true_iff.mp starts
      rw [line, declared, beforeCode_of_starts starts]
      refine .some ⟨⟨[], List.forall_mem_nil _, ?_⟩, fun nameless => ?_⟩
      · rw [Place.between_self, List.nil_append]
      · rw [toldToo, line, nameless]
        rfl
    | false =>
      have notHere : (place.isLineStart && declares place) = false := by
        rw [Bool.eq_false_iff, ne_eq, Bool.and_eq_true]
        rintro ⟨line, declared⟩
        rw [startsCode, spaced_of_isLineStart line, declared] at starts
        cases starts
      rw [notHere, Bool.false_or, beforeCode_cons starts]
      cases startsNext : startsCode (place.advance c rest) with
      | true =>
        obtain ⟨blank, -⟩ := Bool.and_eq_true_iff.mp (next.symm.trans startsNext)
        rw [beforeCode_of_starts startsNext]
        refine .some ⟨⟨[c], List.forall_mem_singleton.mpr blank, ?_⟩, fun nameless => ?_⟩
        · rw [Place.between_self, List.nil_append]
        · rw [toldToo, admits_one split, blank, nameless, Bool.and_self, Bool.or_true]
      | false =>
        have later := ih rfl fun startsToo => by
          rw [startsNext] at startsToo
          cases startsToo
        cases found : ((place.advance c rest).onward rest).find? fun later =>
            (codeStart.matchAt later).isSome with
        | none =>
          rw [found] at later
          generalize beforeCode rest (place.advance c rest) = ahead at later
          cases later
          exact .none
        | some first =>
          have listed := List.mem_of_find?_eq_some found
          have passes : (place.advance c rest).Passes first :=
            Place.passes_of_mem_onward rfl listed
          rw [found] at later
          generalize beforeCode rest (place.advance c rest) = ahead at later
          cases later with
          | some both =>
            obtain ⟨⟨blanks, blank, same⟩, nameless⟩ := both
            refine .some ⟨⟨blanks, blank, ?_⟩, nameless⟩
            rw [passes.between_eq_cons split, List.cons_append, ← same]

/-- Whether the bare code of a text, if any, starts with an import without names. -/
def startsNameless (text : List Char) : Bool :=
  (codeStart.places text).head?.any fun place => ((ledIn namelessImport).matchAt place).isSome

/-- Two texts that are cut into the same pieces wherever white space cuts them, apart from empty
pieces. -/
def SamePieces (text other : List Char) : Prop :=
  ∀ separates : Char → Bool, (∀ b, isBlank b = true → separates b = true) →
    wordsBy separates text = wordsBy separates other

/-- Up to the first match of its start and up to bare code itself there are the same pieces. -/
theorem rel_search_beforeCode (text : List Char) :
    Option.Rel (fun before found => SamePieces before found.1 ∧
        (importsNothing found.2 = true → startsNameless text = true))
      ((codeStart.search text).map (·.before)) (beforeCode text (.start text)) := by
  have found := rel_find_codeStart (rfl : (Place.start text).rest = text) fun _ => rfl
  rw [map_before_search, startsNameless, places_eq_filter, List.head?_filter]
  change Option.Rel _ ((Place.all text).find? _) (beforeCode text _) at found
  generalize (Place.all text).find? (fun place => (codeStart.matchAt place).isSome) = first
    at found ⊢
  generalize beforeCode text (.start text) = start at found ⊢
  cases found with
  | none => exact .none
  | some both =>
    obtain ⟨⟨blanks, blank, same⟩, nameless⟩ := both
    refine .some ⟨fun separates cuts => ?_, nameless⟩
    rw [same, (tightens_append_blanks blank _).wordsBy_eq cuts]

/-- Bare code is found in both layouts or in neither, with the same pieces before it, unless it
starts with an import without names. -/
theorem rel_search_codeStart {loose tight : List Char} (tidies : Tidies loose tight)
    (named : startsNameless loose = false) :
    Option.Rel SamePieces ((codeStart.search loose).map (·.before))
      ((codeStart.search tight).map (·.before)) := by
  have found := rel_search_beforeCode loose
  have foundToo := rel_search_beforeCode tight
  obtain ⟨blanks, rest, blank, rfl, tightens⟩ := tidies
  obtain ⟨later, rfl, spaced, code⟩ :=
    exists_beforeCode_blanks blank (rfl : (Place.start (blanks ++ rest)).rest = blanks ++ rest) rfl
  have aligned : later.Aligned (.start tight) := Place.aligned_of_spaced tightens spaced rfl
  rw [code, named] at found
  generalize (codeStart.search (blanks ++ later.rest)).map (·.before) = before at found ⊢
  generalize (codeStart.search tight).map (·.before) = beforeToo at foundToo ⊢
  have both := rel_beforeCode aligned.alike fun start listed => by
    rw [Option.mem_def.mp listed] at found
    cases found with
    | some met => exact Bool.eq_false_iff.mpr fun nameless => Bool.false_ne_true (met.2 nameless)
  change Option.Rel _ (beforeCode later.rest later) (beforeCode tight (.start tight)) at both
  generalize beforeCode later.rest later = start at found both
  generalize beforeCode tight (.start tight) = startToo at foundToo both
  cases both with
  | none =>
    cases found
    cases foundToo
    exact .none
  | some tightens =>
    cases found with
    | some met =>
      cases foundToo with
      | some metToo =>
        refine .some fun separates cuts => ?_
        rw [met.1 separates cuts, metToo.1 separates cuts]
        exact Tidies.wordsBy_eq cuts ⟨_, _, blank, rfl, tightens⟩

end Formwright
