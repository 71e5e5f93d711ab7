import Formwright.Proofs.Pattern.Matching

/-!
# Texts with their matches replaced

Replacing all matches of a pattern goes through the text once, from left to right: what no match
starts from is kept, and a match gives way to the replacement, after which it goes on where the
match ends (`rewrites_replaceAll`). With a blank for every match no other text comes about than
parts of the text that was there.
-/
namespace Formwright

namespace Pattern

/-! ## Replacing from left to right -/

/-- What the text after a place becomes when a replacement is put for the matches of a pattern that
start there. -/
inductive Rewrites (pattern : Pattern) (replacement : List Char) : Place → List Char → Prop
  | done {place : Place} (atEnd : place.rest = []) : Rewrites pattern replacement place []
  | keep {place : Place} {c : Char} {rest result : List Char} (split : place.rest = c :: rest)
      (unmatched : ∀ stop, pattern.matchAt place = some stop → stop.index = place.index)
      (later : Rewrites pattern replacement (place.advance c rest) result) :
      Rewrites pattern replacement place (c :: result)
  | swap {place : Place} {stop : Point} {result : List Char}
      (matched : pattern.matchAt place = some stop) (moved : stop.index ≠ place.index)
      (later : Rewrites pattern replacement stop.toPlace result) :
      Rewrites pattern replacement place (replacement ++ result)

/-- A cut text with a replacement at every cut. -/
def Cut.fill (replacement : List Char) (pieces : Cut) : List Char :=
  pieces.found.flatMap (fun piece => piece.1 ++ replacement) ++ pieces.last

variable {pattern : Pattern} {replacement : List Char}

/-- The places after a place from which the pattern matches. -/
def matchesAfter (pattern : Pattern) (place : Place) : List Place :=
  (place.onward place.rest).filter fun later => (pattern.matchAt later).isSome

/-- The places after a place from which a pattern matches are the place itself, if it is one of
them, and those after the next character. -/
theorem matchesAfter_of_split {place : Place} {c : Char} {rest : List Char}
    (split : place.rest = c :: rest) : pattern.matchesAfter place =
      if (pattern.matchAt place).isSome then
        place :: pattern.matchesAfter (place.advance c rest)
      else pattern.matchesAfter (place.advance c rest) := by
  rw [matchesAfter, split, Place.onward, List.filter_cons]
  rfl

/-- Matches from places before the one where a text is cut on do not count. -/
theorem cutFrom_matchesAfter_of_passes {place start : Place} (onward : place.Passes start) :
    pattern.cutFrom (pattern.matchesAfter place) start =
      pattern.cutFrom (pattern.matchesAfter start) start := by
  induction onward with
  | here => rfl
  | ahead split onward ih =>
    have before := onward.index_le
    rw [matchesAfter_of_split split]
    split
    · rw [cutFrom, if_pos (Nat.lt_of_succ_le before), ih]
    · exact ih

/-- A place from which nothing but nothing at all is matched cuts nothing. -/
theorem cutFrom_cons_of_unmatched {place start : Place}
    (unmatched : ∀ stop, pattern.matchAt place = some stop → stop.index = place.index)
    (later : List Place) :
    pattern.cutFrom (place :: later) start = pattern.cutFrom later start := by
  rw [cutFrom]
  split
  · rfl
  · split
    · rfl
    · next stop matched => exact if_pos (unmatched stop matched)

/-- A text that is cut from a place on is kept as it is up to a later place, if no match starts
between them, and rewritten from there. -/
theorem exists_rewrites_fill {start place : Place} (onward : start.Passes place) :
    ∃ result, Rewrites pattern replacement place result ∧
      (pattern.cutFrom (pattern.matchesAfter place) start).fill replacement =
        start.between place ++ result := by
  induction size : place.rest.length using Nat.strong_induction_on generalizing start place with
  | _ size ih =>
    subst size
    cases split : place.rest with
    | nil =>
      have unmatched (stop : Point) (matched : pattern.matchAt place = some stop) :
          stop.index = place.index := by
        by_contra moved
        obtain ⟨c, rest, filled, -⟩ := (passes_of_matchAt matched).exists_advance moved
        cases split.symm.trans filled
      have whole : start.between place = start.rest := by
        simpa [split] using onward.between_append
      refine ⟨[], .done split, ?_⟩
      have cuts : pattern.cutFrom (pattern.matchesAfter place) start = ⟨[], start.rest⟩ := by
        rw [matchesAfter, split, Place.onward, List.filter_cons, List.filter_nil]
        split
        · exact cutFrom_cons_of_unmatched unmatched []
        · rfl
      rw [cuts, whole, Cut.fill, List.flatMap_nil, List.nil_append, List.append_nil]
    | cons c rest =>
      by_cases unmatched : ∀ stop, pattern.matchAt place = some stop → stop.index = place.index
      · obtain ⟨result, rewritten, filled⟩ := ih _ (by simp [split, Place.advance])
          (onward.trans (.ahead split (.here _))) rfl
        refine ⟨c :: result, .keep split unmatched rewritten, ?_⟩
        have same : pattern.cutFrom (pattern.matchesAfter place) start =
            pattern.cutFrom (pattern.matchesAfter (place.advance c rest)) start := by
          rw [matchesAfter_of_split split]
          split
          · exact cutFrom_cons_of_unmatched unmatched _
          · rfl
        rw [same, filled, onward.between_advance split, List.append_assoc, List.singleton_append]
      · simp only [Classical.not_forall] at unmatched
        obtain ⟨stop, matched, moved⟩ := unmatched
        have passes := passes_of_matchAt matched
        obtain ⟨d, more, splitToo, further⟩ := passes.exists_advance moved
        obtain ⟨rfl, rfl⟩ : c = d ∧ rest = more := by simpa [split] using splitToo
        have shorter : stop.rest.length < place.rest.length := by
          rw [split]
          exact Nat.lt_succ_of_le further.suffix.length_le
        obtain ⟨result, rewritten, filled⟩ := ih _ shorter (.here stop.toPlace) rfl
        refine ⟨replacement ++ result, .swap matched moved rewritten, ?_⟩
        have notBefore : ¬place.index < start.index := Nat.not_lt.mpr onward.index_le
        rw [Place.between_self, List.nil_append] at filled
        rw [matchesAfter_of_split split, matched, Option.isSome_some, if_pos rfl, cutFrom,
          if_neg notBefore, matched]
        simp only [moved, if_false, cutFrom_matchesAfter_of_passes further]
        rw [← filled, Cut.fill, Cut.fill]
        simp only [List.flatMap_cons, List.append_assoc]

/-- A text with a replacement for every match of a pattern is the text rewritten from its start. -/
theorem rewrites_replaceAll (pattern : Pattern) (replacement text : List Char) :
    Rewrites pattern replacement (.start text) (pattern.replaceAll replacement text) := by
  obtain ⟨result, rewritten, filled⟩ :=
    @exists_rewrites_fill pattern replacement _ _ (.here (.start text))
  rw [Place.between_self, List.nil_append] at filled
  rw [replaceAll, cut, places_eq_filter]
  exact (filled.symm ▸ rewritten :)

namespace Rewrites

variable {place : Place} {result : List Char}

/-- At the end of a text nothing is left to rewrite. -/
theorem eq_nil (rewritten : Rewrites pattern replacement place result) (atEnd : place.rest = []) :
    result = [] := by
  cases rewritten with
  | done => rfl
  | keep split => cases atEnd.symm.trans split
  | swap matched moved =>
    obtain ⟨c, rest, split, -⟩ := (passes_of_matchAt matched).exists_advance moved
    cases atEnd.symm.trans split

/-- A character is kept where nothing matches. -/
theorem exists_of_unmatched (rewritten : Rewrites pattern replacement place result) {c : Char}
    {rest : List Char} (split : place.rest = c :: rest) (unmatched : pattern.matchAt place = none) :
    ∃ later, result = c :: later ∧
      Rewrites pattern replacement (place.advance c rest) later := by
  cases rewritten with
  | done atEnd => cases atEnd.symm.trans split
  | keep splitToo _ later =>
    obtain ⟨rfl, rfl⟩ := List.cons.inj (split.symm.trans splitToo)
    exact ⟨_, rfl, later⟩
  | swap matched => cases unmatched.symm.trans matched

/-- A match gives way to the replacement. -/
theorem exists_of_matched (rewritten : Rewrites pattern replacement place result) {stop : Point}
    (matched : pattern.matchAt place = some stop) (moved : stop.index ≠ place.index) :
    ∃ later, result = replacement ++ later ∧
      Rewrites pattern replacement stop.toPlace later := by
  cases rewritten with
  | done atEnd =>
    obtain ⟨c, rest, split, -⟩ := (passes_of_matchAt matched).exists_advance moved
    cases atEnd.symm.trans split
  | keep _ unmatched => exact absurd (unmatched stop matched) moved
  | swap found _ later =>
    obtain rfl := Option.some.inj (matched.symm.trans found)
    exact ⟨_, rfl, later⟩

end Rewrites

/-! ## Blanks for matches -/

/-- What a text starts with that is rewritten with blanks and has none itself was there before. -/
theorem Rewrites.starts_before {place : Place} {needle result : List Char}
    (rewritten : Rewrites pattern [' '] place result) (unspaced : ' ' ∉ needle)
    (starts : needle <+: result) : needle <+: place.rest := by
  induction rewritten generalizing needle with
  | done atEnd => rwa [atEnd]
  | keep split unmatched later ih =>
    cases needle with
    | nil => exact List.nil_prefix
    | cons d needle =>
      obtain ⟨rfl, goesOn⟩ := List.cons_prefix_cons.mp starts
      rw [split]
      exact List.cons_prefix_cons.mpr ⟨rfl, ih (List.not_mem_of_not_mem_cons unspaced) goesOn⟩
  | swap =>
    cases needle with
    | nil => exact List.nil_prefix
    | cons d needle =>
      obtain ⟨rfl, -⟩ := List.cons_prefix_cons.mp starts
      exact absurd List.mem_cons_self unspaced

/-- What a text holds that is rewritten with blanks and has none itself was there before. -/
theorem Rewrites.held_before {place : Place} {needle result : List Char}
    (rewritten : Rewrites pattern [' '] place result) (unspaced : ' ' ∉ needle)
    (held : needle <:+: result) : needle <:+: place.rest := by
  induction rewritten with
  | done atEnd => rwa [atEnd]
  | keep split unmatched later ih =>
    rcases List.infix_cons_iff.mp held with starts | held
    · exact ((Rewrites.keep split unmatched later).starts_before unspaced starts).isInfix
    · rw [split]
      exact (ih held).trans (List.suffix_cons _ _).isInfix
  | swap matched moved later ih =>
    rcases List.infix_cons_iff.mp held with starts | held
    · exact ((Rewrites.swap matched moved later).starts_before unspaced starts).isInfix
    · exact (ih held).trans (passes_of_matchAt matched).suffix.isInfix

/-- A text in which all matches give way to blanks holds nothing without blanks that it did not hold
before. -/
theorem held_of_replaceAll {text needle : List Char} (unspaced : ' ' ∉ needle)
    (held : needle <:+: pattern.replaceAll [' '] text) : needle <:+: text :=
  (rewrites_replaceAll pattern [' '] text).held_before unspaced held

end Pattern
end Formwright
