import Formwright.Pattern.Lemmas
import Formwright.Pattern.Search
import Mathlib.Data.List.Infix

/-!
# Where patterns match

A match ends at a place that one passes going on from the place where it starts. A pattern matches
in a text if it does from some place, and a choice of patterns where one of them does.
-/
namespace Formwright

/-! ## Places on the way -/

/-- Going on from a place one passes another one, which may be the place itself. -/
inductive Place.Passes : Place → Place → Prop
  | here (place : Place) : Passes place place
  | ahead {place later : Place} {c : Char} {rest : List Char} (split : place.rest = c :: rest)
      (onward : Passes (place.advance c rest) later) : Passes place later

namespace Place

variable {place middle later : Place}

/-- What is passed from a place that is passed is passed. -/
theorem Passes.trans (one : place.Passes middle) (two : middle.Passes later) :
    place.Passes later := by
  induction one with
  | here => exact two
  | ahead split _ ih => exact .ahead split (ih two)

/-- No place that is passed has a smaller index. -/
theorem Passes.index_le (onward : place.Passes later) : place.index ≤ later.index := by
  induction onward with
  | here => exact Nat.le_refl _
  | ahead split _ ih => exact Nat.le_trans (Nat.le_succ _) ih

/-- The text after a place that is passed ends the text after the place. -/
theorem Passes.suffix (onward : place.Passes later) : later.rest <:+ place.rest := by
  induction onward with
  | here => exact List.suffix_rfl
  | ahead split _ ih =>
    rw [split]
    exact ih.trans (List.suffix_cons _ _)

/-- A place that is not the place itself comes after the next character. -/
theorem Passes.exists_advance (onward : place.Passes later) (moved : later.index ≠ place.index) :
    ∃ c rest, place.rest = c :: rest ∧ (place.advance c rest).Passes later := by
  cases onward with
  | here => exact absurd rfl moved
  | ahead split onward => exact ⟨_, _, split, onward⟩

/-- No text is between a place and itself. -/
theorem between_self (place : Place) : place.between place = [] := by
  rw [between, Nat.sub_self, List.take_zero]

/-- The text between a place and a later one ends where the text after the later one starts. -/
theorem Passes.between_append (onward : place.Passes later) :
    place.between later ++ later.rest = place.rest := by
  induction onward with
  | here place => rw [between_self, List.nil_append]
  | @ahead place later c rest split onward ih =>
    have after := onward.index_le
    simp only [advance] at after
    have count : later.index - place.index = later.index - (place.index + 1) + 1 := by omega
    rw [between, split, count, List.take_succ_cons, List.cons_append]
    exact congrArg (c :: ·) ih

/-- What lies between a place and one that the next place passes. -/
theorem Passes.between_eq_cons {c : Char} {rest : List Char} (split : place.rest = c :: rest)
    (onward : (place.advance c rest).Passes later) :
    place.between later = c :: (place.advance c rest).between later := by
  refine List.append_cancel_right (?_ : _ ++ later.rest = _ ++ later.rest)
  rw [(Passes.ahead split onward).between_append, List.cons_append, onward.between_append, split]
  rfl

/-- A place passes the places from it on. -/
theorem passes_of_mem_onward {text : List Char} (split : place.rest = text)
    (listed : later ∈ place.onward text) : place.Passes later := by
  induction text generalizing place with
  | nil =>
    obtain rfl := List.mem_singleton.mp listed
    exact .here _
  | cons c rest ih =>
    rcases List.mem_cons.mp listed with rfl | listed
    · exact .here _
    · exact .ahead split (ih rfl listed)

/-- One more character lies between a place and the next one after a place that it passes. -/
theorem Passes.between_advance (onward : place.Passes later) {c : Char} {rest : List Char}
    (split : later.rest = c :: rest) :
    place.between (later.advance c rest) = place.between later ++ [c] := by
  have next : place.Passes (later.advance c rest) := onward.trans (.ahead split (.here _))
  refine List.append_cancel_right (?_ : _ ++ rest = _ ++ rest)
  rw [List.append_assoc, List.singleton_append, ← split, onward.between_append]
  exact next.between_append

end Place

namespace Pattern

/-! ## Where a match ends -/

/-- Rounds of a body that goes on from places that are passed go on from such a place. -/
theorem exists_of_repeatBody {body : Point → Continuation → Option Point}
    (passes : ∀ {point next stop}, body point next = some stop →
      ∃ middle : Point, point.Passes middle.toPlace ∧ next middle = some stop)
    {greedy : Bool} {rounds : List Char} {point stop : Point} {next : Continuation}
    (found : repeatBody body greedy rounds point next = some stop) :
    ∃ middle : Point, point.Passes middle.toPlace ∧ next middle = some stop := by
  induction rounds generalizing point stop with
  | nil => exact ⟨point, .here _, found⟩
  | cons _ rounds ih =>
    have again {other : Point} (taken : body point (fun later =>
        if later.index = point.index then none else repeatBody body greedy rounds later next)
          = some other) :
        ∃ middle : Point, point.Passes middle.toPlace ∧ next middle = some other := by
      obtain ⟨first, onward, goesOn⟩ := passes taken
      obtain ⟨-, goesOn⟩ := Option.ite_none_left_eq_some.mp goesOn
      obtain ⟨middle, further, found⟩ := ih goesOn
      exact ⟨middle, onward.trans further, found⟩
    rw [repeatBody] at found
    split at found
    · split at found
      · next other taken =>
        cases found
        exact again taken
      · exact ⟨point, .here _, found⟩
    · split at found
      · next other taken =>
        cases found
        exact ⟨point, .here _, taken⟩
      · exact again found

/-- A match goes on from a place that is passed on the way. -/
theorem exists_of_run (pattern : Pattern) {point stop : Point} {next : Continuation}
    (found : pattern.run point next = some stop) :
    ∃ middle : Point, point.Passes middle.toPlace ∧ next middle = some stop := by
  induction pattern generalizing point stop next with
  | empty => exact ⟨point, .here _, found⟩
  | one accepts =>
    rw [run] at found
    split at found
    · contradiction
    · next c rest split =>
      obtain ⟨-, found⟩ := Option.ite_none_right_eq_some.mp found
      exact ⟨_, .ahead split (.here _), found⟩
  | sequence first second firstPasses secondPasses =>
    obtain ⟨middle, onward, found⟩ := firstPasses found
    obtain ⟨later, further, found⟩ := secondPasses found
    exact ⟨later, onward.trans further, found⟩
  | choice first second firstPasses secondPasses =>
    rw [run] at found
    split at found
    · next other taken =>
      cases found
      exact firstPasses taken
    · exact secondPasses found
  | repetition greedy body passes => exact exists_of_repeatBody passes found
  | capture body passes =>
    obtain ⟨middle, onward, found⟩ := passes found
    exact ⟨⟨middle.toPlace, some (point.between middle.toPlace)⟩, onward, found⟩
  | wordEdge | textStart | lineStart | textEnd =>
    obtain ⟨-, found⟩ := Option.ite_none_right_eq_some.mp found
    exact ⟨point, .here _, found⟩

/-- A match ends at a place that is passed on the way. -/
theorem passes_of_matchAt {pattern : Pattern} {place : Place} {stop : Point}
    (matched : pattern.matchAt place = some stop) : place.Passes stop.toPlace := by
  obtain ⟨middle, onward, ⟨rfl⟩⟩ := exists_of_run pattern matched
  exact onward

/-- Where a text is matched as it is, it stands. -/
theorem prefix_of_run_exactText {wanted : String} {point stop : Point} {next : Continuation}
    (matched : (exactText wanted).run point next = some stop) : wanted.toList <+: point.rest := by
  rw [exactText] at matched
  generalize wanted.toList = chars at matched
  induction chars generalizing point with
  | nil => exact List.nil_prefix
  | cons c chars ih =>
    have starts {goesOn : Continuation} (matched : (exactly c).run point goesOn = some stop) :
        ∃ rest, point.rest = c :: rest ∧
          goesOn ⟨point.advance c rest, point.captured⟩ = some stop := by
      rw [exactly, run] at matched
      split at matched
      · contradiction
      · next d rest split =>
        obtain ⟨same, goesOn⟩ := Option.ite_none_right_eq_some.mp matched
        obtain rfl := eq_of_beq same
        exact ⟨rest, split, goesOn⟩
    cases chars with
    | nil =>
      obtain ⟨rest, split, -⟩ := starts matched
      exact split ▸ List.cons_prefix_cons.mpr ⟨rfl, List.nil_prefix⟩
    | cons d chars =>
      have inTurn : (exactly c).run point (fun middle =>
          (all ((d :: chars).map exactly)).run middle next) = some stop := matched
      obtain ⟨rest, split, goesOn⟩ := starts inTurn
      rw [split]
      exact List.cons_prefix_cons.mpr ⟨rfl, ih goesOn⟩

/-! ## Single characters -/

/-- A character is matched where it is accepted. -/
theorem run_one {accepts : Char → Bool} {point : Point} {c : Char} {rest : List Char}
    (split : point.rest = c :: rest) (next : Continuation) :
    (one accepts).run point next =
      if accepts c then next ⟨point.advance c rest, point.captured⟩ else none := by
  simp only [run, split]

/-- No character is matched at the end. -/
theorem run_one_of_nil {accepts : Char → Bool} {point : Point} (atEnd : point.rest = [])
    (next : Continuation) : (one accepts).run point next = none := by
  simp only [run, atEnd]

/-- Characters are matched as long as they are accepted, as far as what follows matches. -/
theorem run_many_one {accepts : Char → Bool} {point : Point} {c : Char} {rest : List Char}
    (split : point.rest = c :: rest) (next : Continuation) :
    (many (one accepts)).run point next =
      match if accepts c then (many (one accepts)).run ⟨point.advance c rest, point.captured⟩ next
        else none with
      | some stop => some stop
      | none => next point := by
  have rounds (point : Point) : (many (one accepts)).run point next =
    repeatBody (run (one accepts)) true point.rest point next := rfl
  have moved : (point.advance c rest).index ≠ point.index := Nat.succ_ne_self _
  rw [rounds, rounds, split, repeatBody]
  simp only [if_true, run_one split, if_neg moved]
  rfl

/-- At the end no character is matched. -/
theorem run_many_one_of_nil {accepts : Char → Bool} {point : Point} (atEnd : point.rest = [])
    (next : Continuation) : (many (one accepts)).run point next = next point := by
  have rounds : (many (one accepts)).run point next =
    repeatBody (run (one accepts)) true point.rest point next := rfl
  rw [rounds, atEnd, repeatBody]

/-- A character is admitted where it is accepted. -/
theorem admits_one {accepts : Char → Bool} {place : Place} {c : Char} {rest : List Char}
    (split : place.rest = c :: rest) (wanted : Place → Bool) :
    (one accepts).admits place wanted = (accepts c && wanted (place.advance c rest)) := by
  simp only [admits, split]

/-- At the end no character is admitted. -/
theorem admits_one_of_nil {accepts : Char → Bool} {place : Place} (atEnd : place.rest = [])
    (wanted : Place → Bool) : (one accepts).admits place wanted = false := by
  simp only [admits, atEnd]

/-- A repetition of a character ends at once or goes on with a character that is accepted. -/
theorem admits_repetition_one {greedy : Bool} {accepts : Char → Bool} {place : Place} {c : Char}
    {rest : List Char} (split : place.rest = c :: rest) (wanted : Place → Bool) :
    (repetition greedy (one accepts)).admits place wanted = (wanted place ||
      (accepts c && (repetition greedy (one accepts)).admits (place.advance c rest) wanted)) := by
  have moved : ((place.advance c rest).index != place.index) = true :=
    bne_iff_ne.mpr (Nat.succ_ne_self _)
  rw [admits_repetition, admits_one split, moved, Bool.true_and]

/-- At the end a repetition of a character ends. -/
theorem admits_repetition_one_of_nil {greedy : Bool} {accepts : Char → Bool} {place : Place}
    (atEnd : place.rest = []) (wanted : Place → Bool) :
    (repetition greedy (one accepts)).admits place wanted = wanted place := by
  rw [admits_repetition]
  simp [admits, atEnd]

/-! ## Texts in which a pattern matches -/

/-- A pattern matches from a place if some way of matching it starts there. -/
theorem isSome_matchAt (pattern : Pattern) (place : Place) :
    (pattern.matchAt place).isSome = pattern.admits place fun _ => true :=
  isSome_run pattern ⟨place, none⟩ some (fun _ => true) fun _ => rfl

/-- A search finds the first place of a text from which the pattern matches. -/
theorem map_before_search (pattern : Pattern) (text : List Char) :
    (pattern.search text).map (·.before) =
      ((Place.all text).find? fun place => (pattern.matchAt place).isSome).map
        fun place => (Place.start text).between place := by
  rw [search, places_eq_filter, List.head?_filter]
  cases found : (Place.all text).find? fun place => (pattern.matchAt place).isSome with
  | none => rfl
  | some place =>
    have some : (pattern.matchAt place).isSome = true :=
      List.find?_some (p := fun place => (pattern.matchAt place).isSome) found
    obtain ⟨stop, matched⟩ := Option.isSome_iff_exists.mp some
    simp [matched, Place.between, Place.start]

/-- A pattern matches in a text if some way of matching it starts at some place. -/
theorem matchesIn_iff (pattern : Pattern) (text : List Char) : pattern.matchesIn text = true ↔
    ∃ place ∈ Place.all text, pattern.admits place (fun _ => true) = true := by
  rw [matchesIn, places_eq_filter, Bool.not_eq_true', Bool.eq_false_iff, ne_eq, List.isEmpty_iff,
    List.filter_eq_nil_iff]
  simp only [isSome_matchAt]
  simp

/-- One of some patterns matches where one of them does. -/
theorem admits_anyOf_iff (patterns : List Pattern) (place : Place) (wanted : Place → Bool) :
    (anyOf patterns).admits place wanted = true ↔
      ∃ pattern ∈ patterns, pattern.admits place wanted = true := by
  induction patterns with
  | nil =>
    rw [anyOf, admits]
    cases place.rest <;> simp
  | cons pattern later ih =>
    cases later with
    | nil => simp [anyOf]
    | cons next later =>
      have split : (anyOf (pattern :: next :: later)).admits place wanted =
          (pattern.admits place wanted || (anyOf (next :: later)).admits place wanted) := rfl
      rw [split, Bool.or_eq_true, ih]
      simp only [List.mem_cons, exists_eq_or_imp]

/-- One of some patterns matches in a text in which one of them does. -/
theorem matchesIn_anyOf_iff (patterns : List Pattern) (text : List Char) :
    (anyOf patterns).matchesIn text = true ↔
      ∃ pattern ∈ patterns, pattern.matchesIn text = true := by
  simp only [matchesIn_iff, admits_anyOf_iff]
  constructor
  · rintro ⟨place, listed, pattern, member, admitted⟩
    exact ⟨pattern, member, place, listed, admitted⟩
  · rintro ⟨pattern, member, place, listed, admitted⟩
    exact ⟨place, listed, pattern, member, admitted⟩

end Pattern
end Formwright
