import Formwright.Proofs.Pattern.Layout

/-!
# Patterns that are blind to layout

A phrase is a pattern that starts with a character of a word and tells nothing of white space but
whether there is some. A phrase matches alike in two layouts of a text, wherever it starts, and so a
text with all matches of a phrase replaced is the same in both layouts, apart from the layout
(`MatchesAlike.tidies_replaceAll`).
-/
namespace Formwright.Pattern
open Text

/-- A pattern that starts with a character of a word and is blind to layout. -/
structure Phrase (pattern : Pattern) : Prop where
  blind : ∀ next, IgnoresLayout next → IgnoresLayout (pattern.run · next)
  starts : ∀ next, Onward next → Starts (pattern.run · next)

variable {next : Continuation} {pattern first second third : Pattern}

/-! ## Texts without white space -/

/-- A text with characters and without white space, in either case. -/
def IsSolid (text : String) : Prop :=
  text.toList ≠ [] ∧ ∀ c ∈ text.toList, isBlank (foldCase c) = false

instance (text : String) : Decidable (IsSolid text) :=
  -- The characters of the text are looked at, and not all that there are.
  @instDecidableAnd _ _ _
    (List.decidableBAll (fun c => isBlank (foldCase c) = false) text.toList)

/-- White space has no other case. -/
theorem foldCase_of_isBlank {b : Char} (blank : isBlank b = true) : foldCase b = b :=
  @forall_blank (fun b => foldCase b = b) (by decide) b blank

/-- There is no white space in such a text. -/
theorem IsSolid.isBlank_eq {text : String} (solid : IsSolid text) {c : Char}
    (member : c ∈ text.toList) : isBlank c = false := by
  rw [Bool.eq_false_iff]
  intro blank
  have folded := solid.2 c member
  rw [foldCase_of_isBlank blank, blank] at folded
  cases folded

/-- White space is not a character of a word. -/
theorem beq_eq_false_of_isBlank {c : Char} (inside : isBlank c = false) (b : Char)
    (blank : isBlank b = true) : (b == c) = false := by
  rw [beq_eq_false_iff_ne]
  rintro rfl
  rw [inside] at blank
  cases blank

/-! ## Phrases -/

namespace Phrase

/-- A phrase after which a word must start or end. -/
theorem edge (phrase : Phrase pattern) : Phrase (pattern ++ wordEdge) where
  blind _ ignores := phrase.blind _ ignores.edge
  starts _ onward := phrase.starts _ (onward.run wordEdge)

/-- A phrase before which a word must start or end. -/
theorem ofEdge (phrase : Phrase pattern) : Phrase (wordEdge ++ pattern) where
  blind next ignores := (phrase.blind next ignores).edge
  starts next onward point stop matched :=
    phrase.starts next onward point stop (Option.ite_none_right_eq_some.mp matched).2

/-- One phrase after another. -/
theorem append (one : Phrase first) (two : Phrase second) : Phrase (first ++ second) where
  blind next ignores := one.blind _ (two.blind next ignores)
  starts _ onward := one.starts _ (onward.run second)

/-- One phrase after another with white space between them. -/
theorem spaced (one : Phrase first) (two : Phrase second) :
    Phrase (first ++ space ++ second) where
  blind next ignores :=
    one.blind _ ((two.blind next ignores).space (two.starts next ignores.onward))
  starts _ onward := one.starts _ ((onward.run second).run space)

/-- One phrase after another with or without white space between them. -/
theorem apart (one : Phrase first) (two : Phrase second) : Phrase (first ++ gap ++ second) where
  blind next ignores :=
    one.blind _ ((two.blind next ignores).gap (two.starts next ignores.onward))
  starts _ onward := one.starts _ ((onward.run second).run Pattern.gap)

/-- One phrase, or else another one. -/
theorem choice (one : Phrase first) (two : Phrase second) : Phrase (.choice first second) where
  blind next ignores := (one.blind next ignores).orElse (two.blind next ignores)
  starts next onward := (one.starts next onward).orElse (two.starts next onward)

/-- A phrase with or without another one set before it. -/
theorem afterMaybe (one : Phrase first) (two : Phrase second) :
    Phrase (maybe (first ++ space) ++ second) where
  blind next ignores := ((one.spaced two).choice two).blind next ignores
  starts next onward := ((one.spaced two).choice two).starts next onward

/-- One phrase after another with white space between them, and with or without a further one set
before the second. -/
theorem spacedMaybe (one : Phrase first) (two : Phrase second) (three : Phrase third) :
    Phrase (first ++ space ++ maybe (second ++ space) ++ third) where
  blind next ignores := (one.spaced (two.afterMaybe three)).blind next ignores
  starts next onward := (one.spaced (two.afterMaybe three)).starts next onward

/-- A character that is accepted, if no white space is. -/
theorem ofOne {accepts : Char → Bool} (solid : ∀ b, isBlank b = true → accepts b = false) :
    Phrase (one accepts) where
  blind next ignores := {
    onward := ignores.onward.run _
    alike := fun point other aligned => by
      rcases aligned.cases with
        ⟨c, rest, later, split, splitToo, -, further⟩ | ⟨outside, outsideToo⟩
      · rw [run_one split, run_one splitToo]
        split
        · exact ignores.alike _ _ further
        · exact .none
      · rw [run_one_of_not_atWord solid outside, run_one_of_not_atWord solid outsideToo]
        exact .none }
  starts next onward point stop matched := by
    by_cases atWord : point.AtWord
    · obtain ⟨c, rest, split, inside⟩ := atWord
      have found := (run_one split next).symm.trans matched
      exact ⟨c, rest, split, inside, onward _ stop (Option.ite_none_right_eq_some.mp found).2⟩
    · cases (run_one_of_not_atWord solid atWord next).symm.trans matched

/-- One of some phrases. -/
theorem ofAny {patterns : List Pattern} (phrases : ∀ pattern ∈ patterns, Phrase pattern) :
    Phrase (anyOf patterns) := by
  induction patterns with
  | nil => exact ofOne fun _ _ => rfl
  | cons pattern later ih =>
    rw [List.forall_mem_cons] at phrases
    cases later with
    | nil => exact phrases.1
    | cons other later => exact phrases.1.choice (ih phrases.2)

/-- Some phrases in a row. -/
theorem ofAll {patterns : List Pattern} (some : patterns ≠ [])
    (phrases : ∀ pattern ∈ patterns, Phrase pattern) : Phrase (all patterns) := by
  induction patterns with
  | nil => exact absurd rfl some
  | cons pattern later ih =>
    rw [List.forall_mem_cons] at phrases
    cases later with
    | nil => exact phrases.1
    | cons other later => exact phrases.1.append (ih (List.cons_ne_nil _ _) phrases.2)

/-- A character as it is, if it is no white space. -/
theorem ofExactly (c : Char) (solid : isBlank c = false) : Phrase (exactly c) :=
  ofOne (beq_eq_false_of_isBlank solid)

/-- A text as it is, if it has no white space. -/
theorem ofExactText (wanted : String) (solid : IsSolid wanted) : Phrase (exactText wanted) :=
  ofAll (by simpa using solid.1)
    (List.forall_mem_map.mpr fun c member => ofExactly c (solid.isBlank_eq member))

/-- A text in any mixture of cases, if it has no white space. -/
theorem ofText (wanted : String) (solid : IsSolid wanted) : Phrase (text wanted) := by
  refine ofAll (by simpa using solid.1) (List.forall_mem_map.mpr fun c member => ofOne ?_)
  intro b blank
  rw [beq_eq_false_iff_ne, foldCase_of_isBlank blank]
  rintro rfl
  rw [solid.2 c member] at blank
  cases blank

/-- One of some texts in any mixture of cases, if they have no white space. -/
theorem ofTexts (wanted : List String) (solid : ∀ word ∈ wanted, IsSolid word) :
    Phrase (anyOf (wanted.map text)) :=
  ofAny (List.forall_mem_map.mpr fun word member => ofText word (solid word member))

/-- One of some texts as they are, if they have no white space. -/
theorem ofExactTexts (wanted : List String) (solid : ∀ word ∈ wanted, IsSolid word) :
    Phrase (anyOf (wanted.map exactText)) :=
  ofAny (List.forall_mem_map.mpr fun word member => ofExactText word (solid word member))

/-- One of some characters in either case, if none of them is white space. -/
theorem ofOneOf (wanted : String) (solid : IsSolid wanted) : Phrase (oneOf wanted) := by
  refine ofOne fun b blank => ?_
  rw [decide_eq_false_iff_not, foldCase_of_isBlank blank, List.mem_map]
  rintro ⟨c, member, rfl⟩
  rw [solid.2 c member] at blank
  cases blank

/-- Some characters that are accepted, if no white space is. -/
theorem ofOneOrMore {accepts : Char → Bool} (solid : ∀ b, isBlank b = true → accepts b = false) :
    Phrase (oneOrMore (one accepts)) where
  blind _ ignores := (ofOne solid).blind _ (ignores.many solid)
  starts _ onward := (ofOne solid).starts _ (onward.run (many (one accepts)))

end Phrase

/-! ## Patterns that match in one way -/

/-- A pattern matches from neither of two places, or from both in one way only, up to places that
are aligned. -/
def MovesAlike (pattern : Pattern) (point other : Point) : Prop :=
  (∀ next, pattern.run point next = none ∧ pattern.run other next = none) ∨
    ∃ later laterToo : Point, later.Aligned laterToo.toPlace ∧
      ∀ next, pattern.run point next = next later ∧ pattern.run other next = next laterToo

/-- A character of a word is matched alike at aligned places. -/
theorem movesAlike_exactly {c : Char} (inside : isBlank c = false) {point other : Point}
    (aligned : point.Aligned other.toPlace) : MovesAlike (exactly c) point other := by
  rcases aligned.cases with
    ⟨d, rest, later, split, splitToo, -, further⟩ | ⟨outside, outsideToo⟩
  · by_cases same : d = c
    · refine .inr ⟨⟨point.advance d rest, point.captured⟩,
        ⟨other.advance d later, other.captured⟩, further, fun next => ?_⟩
      rw [exactly, run_one split, run_one splitToo, same, beq_self_eq_true]
      exact ⟨rfl, rfl⟩
    · refine .inl fun next => ?_
      rw [exactly, run_one split, run_one splitToo, beq_eq_false_iff_ne.mpr same]
      exact ⟨rfl, rfl⟩
  · have solid := beq_eq_false_of_isBlank inside
    exact .inl fun next =>
      ⟨run_one_of_not_atWord solid outside next, run_one_of_not_atWord solid outsideToo next⟩

/-- What is matched alike, one after the other. -/
theorem MovesAlike.sequence {point other : Point} (one : MovesAlike first point other)
    (two : ∀ {later laterToo : Point}, later.Aligned laterToo.toPlace →
      MovesAlike second later laterToo) : MovesAlike (.sequence first second) point other := by
  rcases one with none | ⟨later, laterToo, further, goesOn⟩
  · exact .inl fun next => none _
  · rcases two further with none | ⟨last, lastToo, furthest, ends⟩
    · exact .inl fun next => ⟨(goesOn _).1.trans (none next).1, (goesOn _).2.trans (none next).2⟩
    · exact .inr ⟨last, lastToo, furthest, fun next =>
        ⟨(goesOn _).1.trans (ends next).1, (goesOn _).2.trans (ends next).2⟩⟩

/-- A text as it is, without white space, is matched alike at aligned places. -/
theorem movesAlike_exactText {wanted : String} (solid : IsSolid wanted) {point other : Point}
    (aligned : point.Aligned other.toPlace) : MovesAlike (exactText wanted) point other := by
  have inside : ∀ c ∈ wanted.toList, isBlank c = false := fun _ => solid.isBlank_eq
  rw [exactText]
  revert inside
  generalize wanted.toList = chars
  induction chars generalizing point other with
  | nil => exact fun _ => .inr ⟨point, other, aligned, fun _ => ⟨rfl, rfl⟩⟩
  | cons c chars ih =>
    intro inside
    rw [List.forall_mem_cons] at inside
    cases chars with
    | nil => exact movesAlike_exactly inside.1 aligned
    | cons d chars =>
      exact (movesAlike_exactly inside.1 aligned).sequence fun further => ih further inside.2

/-! ## Whole matches -/

/-- A pattern that matches alike in two layouts, from the start of a word on. -/
structure MatchesAlike (pattern : Pattern) : Prop where
  ignores : IgnoresLayout (pattern.run · some)
  starts : Starts (pattern.run · some)

/-- A phrase matches alike. -/
theorem Phrase.matchesAlike (phrase : Phrase pattern) : MatchesAlike pattern :=
  ⟨phrase.blind some ignoresLayout_some, phrase.starts some ignoresLayout_some.onward⟩

/-- What is before white space, if any, and a mark that may be missing. -/
theorem IgnoresLayout.closing (mark : Phrase pattern) :
    IgnoresLayout fun point => Pattern.gap.run point ((maybe pattern).run · some) where
  onward point stop matched := by
    obtain ⟨middle, passes, found⟩ := exists_of_run _ matched
    exact passes.trans (ignoresLayout_some.onward.run _ middle stop found)
  alike point other aligned := by
    have total (point : Point) : ((maybe pattern).run point some).isSome = true := by
      rw [maybe, run]
      split <;> rfl
    rw [run_gap (.inr total), run_gap (.inr total)]
    have past := aligned.pastBlanks
    rw [maybe, run, run]
    refine rel_orElse ?_ (.some past)
    by_cases atWord : (Place.pastBlanks point.rest point.toPlace).AtWord
    · exact mark.matchesAlike.ignores.alike _ _ (past.aligned atWord)
    · have outside := Place.not_atWord_of_tightens past.rest atWord
      have none := mark.matchesAlike.starts.eq_none ⟨_, point.captured⟩ atWord
      have noneToo := mark.matchesAlike.starts.eq_none ⟨_, other.captured⟩ outside
      exact none.symm ▸ noneToo.symm ▸ .none

/-- A phrase matches alike with white space and a mark after it that may be missing. -/
theorem Phrase.closing (phrase : Phrase first) (mark : Phrase second) :
    MatchesAlike (first ++ gap ++ maybe second) :=
  ⟨phrase.blind _ (.closing mark),
    phrase.starts _ (IgnoresLayout.closing mark).onward⟩

namespace MatchesAlike

variable {place loose tight : Place} {stop : Point}

/-- Where no word goes on, a pattern that matches alike does not match. -/
theorem matchAt_eq_none (alike : MatchesAlike pattern) (outside : ¬place.AtWord) :
    pattern.matchAt place = none :=
  alike.starts.eq_none ⟨place, none⟩ outside

/-- What is matched at a place is matched at an aligned one, up to places that are alike. -/
theorem exists_matchAt (alike : MatchesAlike pattern) (aligned : loose.Aligned tight)
    (matched : pattern.matchAt loose = some stop) :
    ∃ stopToo, pattern.matchAt tight = some stopToo ∧ stop.Alike stopToo.toPlace := by
  have both := alike.ignores.alike ⟨loose, none⟩ ⟨tight, none⟩ aligned
  simp only [matchAt] at matched ⊢
  rw [matched] at both
  generalize pattern.run ⟨tight, none⟩ some = found at both
  cases both with
  | some places => exact ⟨_, rfl, places⟩

/-- What is not matched at a place is not matched at an aligned one. -/
theorem matchAt_tight_eq_none (alike : MatchesAlike pattern) (aligned : loose.Aligned tight)
    (unmatched : pattern.matchAt loose = none) : pattern.matchAt tight = none := by
  have both := alike.ignores.alike ⟨loose, none⟩ ⟨tight, none⟩ aligned
  simp only [matchAt] at unmatched ⊢
  rw [unmatched] at both
  generalize pattern.run ⟨tight, none⟩ some = found at both
  cases both
  rfl

/-- A match goes beyond its first character, which is one of a word. -/
theorem exists_of_matchAt (alike : MatchesAlike pattern)
    (matched : pattern.matchAt place = some stop) :
    ∃ c rest, place.rest = c :: rest ∧ isBlank c = false ∧
      (place.advance c rest).Passes stop.toPlace :=
  alike.starts ⟨place, none⟩ stop matched

/-- A match does not stop where it starts. -/
theorem moved_of_matchAt (alike : MatchesAlike pattern)
    (matched : pattern.matchAt place = some stop) : stop.index ≠ place.index := by
  obtain ⟨c, rest, -, -, passes⟩ := alike.exists_of_matchAt matched
  have := passes.index_le
  simp only [Place.advance] at this
  omega

/-- At aligned places a pattern that matches alike matches or does not match. -/
theorem admits_eq (alike : MatchesAlike pattern) (aligned : loose.Aligned tight) :
    (pattern.admits loose fun _ => true) = pattern.admits tight fun _ => true := by
  rw [← isSome_matchAt, ← isSome_matchAt]
  cases found : pattern.matchAt loose with
  | none => rw [alike.matchAt_tight_eq_none aligned found]
  | some stop =>
    obtain ⟨stopToo, foundToo, -⟩ := alike.exists_matchAt aligned found
    rw [foundToo]
    rfl

/-- Where no word goes on, a pattern that matches alike leads nowhere. -/
theorem admits_eq_false (alike : MatchesAlike pattern) (outside : ¬place.AtWord) :
    (pattern.admits place fun _ => true) = false := by
  rw [← isSome_matchAt, alike.matchAt_eq_none outside]
  rfl

/-- Where matches give way to spaces the result is the same in both layouts, apart from the
layout. -/
theorem tightens_of_rewrites (alike : MatchesAlike pattern) {result resultToo : List Char}
    (rewritten : Rewrites pattern [' '] loose result) (places : loose.Alike tight)
    (rewrittenToo : Rewrites pattern [' '] tight resultToo) : Tightens result resultToo := by
  induction rewritten generalizing tight resultToo with
  | done atEnd =>
    have atEndToo := (atEnd ▸ places.rest).eq_nil
    rw [rewrittenToo.eq_nil atEndToo]
    exact .nil
  | @keep loose c rest result split unmatched later ih =>
    cases kind : isBlank c with
    | false =>
      have aligned := places.aligned ⟨c, rest, split, kind⟩
      have none : pattern.matchAt loose = none := by
        by_contra matched
        obtain ⟨stop, matched⟩ := Option.ne_none_iff_exists'.mp matched
        exact alike.moved_of_matchAt matched (unmatched stop matched)
      have noneToo := alike.matchAt_tight_eq_none aligned none
      obtain ⟨laterToo, splitToo, further⟩ := aligned.advance split kind
      obtain ⟨resultToo, rfl, laterToo⟩ := rewrittenToo.exists_of_unmatched splitToo noneToo
      exact .char kind (ih further.alike laterToo)
    | true =>
      have outside : ¬loose.AtWord := Place.not_atWord_of_blank split kind
      have noneToo := alike.matchAt_eq_none (Place.not_atWord_of_tightens places.rest outside)
      rcases (split ▸ places.rest).cases_of_blank kind with
        ⟨d, laterToo, splitToo, kindToo, tightens⟩ | ⟨d, more, rfl, next, tightens⟩ | ⟨rfl, atEnd⟩
      · obtain ⟨resultToo, rfl, onward⟩ := rewrittenToo.exists_of_unmatched splitToo noneToo
        have aligned : (loose.advance c rest).Aligned (tight.advance d laterToo) :=
          Place.aligned_of_spaced tightens kind kindToo
        exact .blank kind kindToo (ih aligned.alike onward)
      · have nowhere : ¬(loose.advance c (d :: more)).AtWord :=
          Place.not_atWord_of_blank rfl next
        obtain ⟨result, rfl, -⟩ := later.exists_of_unmatched rfl (alike.matchAt_eq_none nowhere)
        exact .surplus kind next (ih ⟨tightens, fun atWord => absurd atWord nowhere⟩ rewrittenToo)
      · rw [later.eq_nil rfl, rewrittenToo.eq_nil atEnd]
        exact .trailing kind
  | @swap loose stop result matched moved later ih =>
    obtain ⟨c, rest, split, inside, -⟩ := alike.exists_of_matchAt matched
    obtain ⟨stopToo, matchedToo, further⟩ :=
      alike.exists_matchAt (places.aligned ⟨c, rest, split, inside⟩) matched
    obtain ⟨resultToo, rfl, laterToo⟩ :=
      rewrittenToo.exists_of_matched matchedToo (alike.moved_of_matchAt matchedToo)
    exact .blank rfl rfl (ih further laterToo)

/-- White space at the start is kept. -/
theorem exists_of_rewrites_blanks (alike : MatchesAlike pattern) {blanks rest result : List Char}
    (blank : ∀ b ∈ blanks, isBlank b = true) (split : place.rest = blanks ++ rest)
    (spaced : place.before.all isBlank = true) (rewritten : Rewrites pattern [' '] place result) :
    ∃ later result', later.rest = rest ∧ later.before.all isBlank = true ∧
      Rewrites pattern [' '] later result' ∧ result = blanks ++ result' := by
  induction blanks generalizing place result with
  | nil => exact ⟨place, result, split, spaced, rewritten, rfl⟩
  | cons b blanks ih =>
    rw [List.forall_mem_cons] at blank
    obtain ⟨later, rfl, onward⟩ := rewritten.exists_of_unmatched split
      (alike.matchAt_eq_none (Place.not_atWord_of_blank split blank.1))
    have spacedToo : (place.advance b (blanks ++ rest)).before.all isBlank = true := blank.1
    obtain ⟨last, result, split, spaced, further, rfl⟩ := ih blank.2 rfl spacedToo onward
    exact ⟨last, result, split, spaced, further, rfl⟩

/-- With spaces for all matches a text is the same in both layouts, apart from the layout. -/
theorem tidies_replaceAll (alike : MatchesAlike pattern) {loose tight : List Char}
    (tidies : Tidies loose tight) :
    Tidies (pattern.replaceAll [' '] loose) (pattern.replaceAll [' '] tight) := by
  obtain ⟨blanks, rest, blank, rfl, tightens⟩ := tidies
  obtain ⟨place, result, split, spaced, rewritten, made⟩ :=
    alike.exists_of_rewrites_blanks blank rfl rfl
      (rewrites_replaceAll pattern [' '] (blanks ++ rest))
  have aligned : place.Aligned (.start tight) :=
    Place.aligned_of_spaced (split ▸ tightens) spaced rfl
  exact ⟨blanks, result, blank, made,
    alike.tightens_of_rewrites rewritten aligned.alike (rewrites_replaceAll pattern [' '] tight)⟩

end MatchesAlike

/-- If only spaces are put for matches that start with a word, either there are none or something is
missing. -/
theorem Rewrites.eq_or_ink_lt {place : Place} {result : List Char}
    (starts : ∀ {place stop}, pattern.matchAt place = some stop →
      ∃ c rest, place.rest = c :: rest ∧ isBlank c = false ∧
        (place.advance c rest).Passes stop.toPlace)
    (rewritten : Rewrites pattern [' '] place result) :
    result = place.rest ∨ ink result < ink place.rest := by
  induction rewritten with
  | done atEnd => exact .inl atEnd.symm
  | @keep place c rest result split unmatched later ih =>
    rw [split]
    rcases ih with same | less
    · exact .inl (congrArg (c :: ·) same)
    · have less : ink result < ink rest := less
      cases kind : isBlank c with
      | true => simpa [ink_cons_of_blank kind] using .inr less
      | false => simpa [ink_cons kind] using .inr less
  | @swap place stop result matched moved later ih =>
    obtain ⟨c, rest, split, inside, passes⟩ := starts matched
    have within : ink stop.rest ≤ ink rest := (passes.suffix.sublist.filter _).length_le
    have most : ink result ≤ ink stop.rest := by
      rcases ih with same | less
      · exact Nat.le_of_eq (congrArg ink same)
      · exact Nat.le_of_lt less
    rw [split, ink_cons inside, List.singleton_append, ink_cons_of_blank rfl]
    omega

end Formwright.Pattern
