import Formwright.Proofs.Pattern.Rewriting
import Formwright.Proofs.Text.Layout

/-!
# Matching in two layouts

The places of a text and those of the same text more tightly laid out are gone on from side by side.
A way to match on is blind to layout if from places that are aligned it comes to places that are
alike.
-/
namespace Formwright
open Text

/-! ## Places in two layouts -/

namespace Place

/-- Whether the text after a place starts with a character of a word. -/
def AtWord (place : Place) : Prop := ∃ c rest, place.rest = c :: rest ∧ isBlank c = false

/-- Two places with the same text after them, more tightly laid out after the second, and before
them characters of one sort. -/
structure Aligned (loose tight : Place) : Prop where
  rest : Tightens loose.rest tight.rest
  before : loose.before.any isWord = tight.before.any isWord ∧
    loose.before.all isBlank = tight.before.all isBlank

/-- Two places with the same text after them, more tightly laid out after the second. Only where the
text starts with a character of a word, what is before the places counts. -/
structure Alike (loose tight : Place) : Prop where
  rest : Tightens loose.rest tight.rest
  aligned : loose.AtWord → loose.Aligned tight

variable {loose tight : Place}

/-- Aligned places are alike. -/
theorem Aligned.alike (aligned : loose.Aligned tight) : loose.Alike tight :=
  ⟨aligned.rest, fun _ => aligned⟩

/-- After a character of a word the places are aligned again. -/
theorem Aligned.advance (aligned : loose.Aligned tight) {c : Char} {rest : List Char}
    (split : loose.rest = c :: rest) (inside : isBlank c = false) :
    ∃ later, tight.rest = c :: later ∧
      (loose.advance c rest).Aligned (tight.advance c later) := by
  obtain ⟨later, splitToo, tightens⟩ := (split ▸ aligned.rest).exists_of_char inside
  exact ⟨later, splitToo, tightens, rfl, rfl⟩

/-- Where no word goes on in a layout, none does in a tighter one. -/
theorem not_atWord_of_tightens (tightens : Tightens loose.rest tight.rest)
    (outside : ¬loose.AtWord) : ¬tight.AtWord := by
  rintro ⟨c, rest, split, inside⟩
  obtain ⟨later, splitToo, -⟩ := (split ▸ tightens).exists_of_char_tight inside
  exact outside ⟨c, later, splitToo, inside⟩

/-- Either a word goes on, or there is white space or nothing. -/
theorem atWord_or (place : Place) : place.AtWord ∨ place.rest = [] ∨
    ∃ b rest, place.rest = b :: rest ∧ isBlank b = true := by
  cases split : place.rest with
  | nil => exact .inr (.inl rfl)
  | cons c rest =>
    cases kind : isBlank c with
    | true => exact .inr (.inr ⟨c, rest, rfl, kind⟩)
    | false => exact .inl ⟨c, rest, split, kind⟩

/-- No word goes on at the end. -/
theorem not_atWord_of_nil {place : Place} (atEnd : place.rest = []) : ¬place.AtWord := by
  rintro ⟨c, rest, split, -⟩
  cases atEnd.symm.trans split

/-- No word goes on where there is white space. -/
theorem not_atWord_of_blank {place : Place} {b : Char} {rest : List Char}
    (split : place.rest = b :: rest) (blank : isBlank b = true) : ¬place.AtWord := by
  rintro ⟨c, later, filled, inside⟩
  obtain ⟨rfl, -⟩ := List.cons.inj (split.symm.trans filled)
  rw [blank] at inside
  cases inside

/-- From aligned places either the same word goes on, or none does. -/
theorem Aligned.cases (aligned : loose.Aligned tight) :
    (∃ c rest later, loose.rest = c :: rest ∧ tight.rest = c :: later ∧ isBlank c = false ∧
      (loose.advance c rest).Aligned (tight.advance c later)) ∨
        ¬loose.AtWord ∧ ¬tight.AtWord := by
  by_cases atWord : loose.AtWord
  · obtain ⟨c, rest, split, inside⟩ := atWord
    obtain ⟨later, splitToo, further⟩ := aligned.advance split inside
    exact .inl ⟨c, rest, later, split, splitToo, inside, further⟩
  · exact .inr ⟨atWord, not_atWord_of_tightens aligned.rest atWord⟩

/-- Where no word goes on there is no character of one. -/
theorem any_isWord_of_not_atWord {place : Place} (outside : ¬place.AtWord) :
    place.rest.head?.any isWord = false := by
  rcases place.atWord_or with atWord | atEnd | ⟨b, rest, split, blank⟩
  · exact absurd atWord outside
  · rw [atEnd]
    rfl
  · rw [split]
    exact isWord_of_isBlank blank

/-- Words start and end at aligned places alike. -/
theorem Aligned.isWordEdge_eq (aligned : loose.Aligned tight) :
    loose.isWordEdge = tight.isWordEdge := by
  have head : loose.rest.head?.any isWord = tight.rest.head?.any isWord := by
    rcases aligned.cases with ⟨c, rest, later, split, splitToo, -⟩ | ⟨outside, outsideToo⟩
    · rw [split, splitToo]
      rfl
    · rw [any_isWord_of_not_atWord outside, any_isWord_of_not_atWord outsideToo]
  rw [isWordEdge, isWordEdge, aligned.before.1, head]

/-- Places with nothing but white space right before them are aligned. -/
theorem aligned_of_spaced (tightens : Tightens loose.rest tight.rest)
    (spaced : loose.before.all isBlank = true) (spacedToo : tight.before.all isBlank = true) :
    loose.Aligned tight := by
  have apart {before : Option Char} (spaced : before.all isBlank = true) :
      before.any isWord = false := by
    cases before with
    | none => rfl
    | some b => exact isWord_of_isBlank spaced
  exact ⟨tightens, by rw [apart spaced, apart spacedToo], by rw [spaced, spacedToo]⟩

/-- Alike places may be gone on from side by side: by the same character of a word, by white space
on both sides, or by white space on the first side only if more of it follows or nothing does. -/
@[elab_as_elim]
theorem Alike.induct {motive : ∀ loose tight : Place, loose.Alike tight → Prop}
    (nil : ∀ {loose tight : Place} (alike : loose.Alike tight), loose.rest = [] →
      tight.rest = [] → motive loose tight alike)
    (char : ∀ {loose tight : Place} {c : Char} {rest later : List Char}
      (aligned : loose.Aligned tight)
      (further : (loose.advance c rest).Aligned (tight.advance c later)),
      loose.rest = c :: rest → tight.rest = c :: later → isBlank c = false →
      motive _ _ further.alike → motive loose tight aligned.alike)
    (blank : ∀ {loose tight : Place} {b d : Char} {rest later : List Char}
      (alike : loose.Alike tight)
      (further : (loose.advance b rest).Aligned (tight.advance d later)),
      loose.rest = b :: rest → tight.rest = d :: later → isBlank b = true → isBlank d = true →
      motive _ _ further.alike → motive loose tight alike)
    (surplus : ∀ {loose tight : Place} {b d : Char} {rest : List Char} (alike : loose.Alike tight)
      (further : (loose.advance b (d :: rest)).Alike tight),
      loose.rest = b :: d :: rest → isBlank b = true → isBlank d = true →
      motive _ _ further → motive loose tight alike)
    (trailing : ∀ {loose tight : Place} {b : Char} (alike : loose.Alike tight),
      loose.rest = [b] → isBlank b = true → tight.rest = [] → motive loose tight alike)
    (alike : loose.Alike tight) : motive loose tight alike := by
  generalize split : loose.rest = text
  induction text generalizing loose tight with
  | nil => exact nil alike split (split ▸ alike.rest).eq_nil
  | cons c rest ih =>
    cases kind : isBlank c with
    | false =>
      have aligned := alike.aligned ⟨c, rest, split, kind⟩
      obtain ⟨later, splitToo, further⟩ := aligned.advance split kind
      exact char aligned further split splitToo kind (ih further.alike rfl)
    | true =>
      rcases (split ▸ alike.rest).cases_of_blank kind with
        ⟨d, later, splitToo, kindToo, tightens⟩ | ⟨d, more, rfl, next, tightens⟩ | ⟨rfl, atEnd⟩
      · have further : (loose.advance c rest).Aligned (tight.advance d later) :=
          aligned_of_spaced tightens kind kindToo
        exact blank alike further split splitToo kind kindToo (ih further.alike rfl)
      · have nowhere : ¬(loose.advance c (d :: more)).AtWord := not_atWord_of_blank rfl next
        have further : (loose.advance c (d :: more)).Alike tight :=
          ⟨tightens, fun atWord => absurd atWord nowhere⟩
        exact surplus alike further split kind next (ih further rfl)
      · exact trailing alike split kind atEnd

/-- The place after the white space that follows a place, of which the text after it is given. -/
def pastBlanks : List Char → Place → Place
  | [], place => place
  | c :: rest, place => if isBlank c then pastBlanks rest (place.advance c rest) else place

/-- After the white space that follows a place comes the text without its leading white space. -/
theorem rest_pastBlanks {place : Place} {text : List Char} (split : place.rest = text) :
    (pastBlanks text place).rest = text.dropWhile isBlank := by
  induction text generalizing place with
  | nil => exact split
  | cons c rest ih =>
    rw [pastBlanks, List.dropWhile_cons]
    split
    · exact ih rfl
    · exact split

/-- Where no white space follows a place, there is none to go past. -/
theorem pastBlanks_of_atWord {c : Char} (inside : isBlank c = false) (rest : List Char)
    (place : Place) : pastBlanks (c :: rest) place = place := by
  rw [pastBlanks, inside]
  rfl

/-- After white space there is white space before a place. -/
theorem before_pastBlanks {place : Place} {b : Char} (blank : isBlank b = true)
    (before : place.before = some b) (text : List Char) :
    ∃ d, (pastBlanks text place).before = some d ∧ isBlank d = true := by
  induction text generalizing place b with
  | nil => exact ⟨b, before, blank⟩
  | cons c rest ih =>
    rw [pastBlanks]
    split
    · next next => exact ih next rfl
    · exact ⟨b, before, blank⟩

/-- Past white space, places are aligned where a word goes on. -/
theorem Aligned.pastBlanks (aligned : loose.Aligned tight) :
    (pastBlanks loose.rest loose).Alike (pastBlanks tight.rest tight) := by
  have rest : Tightens (Place.pastBlanks loose.rest loose).rest
      (Place.pastBlanks tight.rest tight).rest := by
    rw [rest_pastBlanks rfl, rest_pastBlanks rfl]
    exact aligned.rest.dropWhile
  refine ⟨rest, fun atWord => ⟨rest, ?_⟩⟩
  rcases loose.atWord_or with ⟨c, later, split, inside⟩ | split | ⟨b, later, split, blank⟩
  · obtain ⟨laterToo, splitToo, -⟩ := aligned.advance split inside
    rw [split, splitToo, pastBlanks_of_atWord inside, pastBlanks_of_atWord inside]
    exact aligned.before
  · obtain ⟨c, later, filled, -⟩ := atWord
    rw [rest_pastBlanks rfl, split] at filled
    cases filled
  · cases splitToo : tight.rest with
    | nil =>
      rw [rest_pastBlanks (rfl : tight.rest = tight.rest), splitToo] at rest
      obtain ⟨c, later, filled, inside⟩ := atWord
      obtain ⟨_, none, -⟩ := (filled ▸ rest).exists_of_char inside
      cases none
    | cons d laterToo =>
      -- White space stands before both places that are arrived at.
      have blankToo := (splitToo ▸ split ▸ aligned.rest).isBlank_head_of_blank blank
      obtain ⟨c, before, behind⟩ :=
        before_pastBlanks blank (rfl : (loose.advance b later).before = some b) later
      obtain ⟨e, beforeToo, behindToo⟩ :=
        before_pastBlanks blankToo (rfl : (tight.advance d laterToo).before = some d) laterToo
      rw [split, Place.pastBlanks, if_pos blank, before, Place.pastBlanks, if_pos blankToo,
        beforeToo]
      exact ⟨by simp [isWord_of_isBlank, behind, behindToo], by simp [behind, behindToo]⟩

end Place

namespace Pattern

/-! ## Matching on -/

/-- A way to go on that leads to places that are passed. -/
def Onward (next : Continuation) : Prop :=
  ∀ point stop : Point, next point = some stop → point.Passes stop.toPlace

/-- A way to go on that matches alike in two layouts. -/
structure IgnoresLayout (next : Continuation) : Prop where
  onward : Onward next
  alike : ∀ point other : Point, point.Aligned other.toPlace →
    Option.Rel (fun stop stopToo : Point => stop.Alike stopToo.toPlace) (next point) (next other)

/-- A way to go on that starts with a character of a word. -/
def Starts (next : Continuation) : Prop :=
  ∀ point stop : Point, next point = some stop →
    ∃ c rest, point.rest = c :: rest ∧ isBlank c = false ∧
      (point.advance c rest).Passes stop.toPlace

variable {next other : Continuation}

/-- Where no word goes on, nothing matches that starts with a word. -/
theorem Starts.eq_none (starts : Starts next) (point : Point) (outside : ¬point.AtWord) :
    next point = none := by
  by_contra matched
  obtain ⟨stop, matched⟩ := Option.ne_none_iff_exists'.mp matched
  obtain ⟨c, rest, split, inside, -⟩ := starts point stop matched
  exact outside ⟨c, rest, split, inside⟩

/-- To stop at once matches alike in two layouts. -/
theorem ignoresLayout_some : IgnoresLayout some where
  onward _ _ matched := by
    cases matched
    exact .here _
  alike _ _ aligned := .some aligned.alike

/-- What is found first, or else what is found next, is related if both are. -/
theorem rel_orElse {related : Point → Point → Prop} {one two oneToo twoToo : Option Point} :
    Option.Rel related one oneToo → Option.Rel related two twoToo →
      Option.Rel related
        (match one with
          | some stop => some stop
          | none => two)
        (match oneToo with
          | some stop => some stop
          | none => twoToo) := by
  intro left right
  cases left with
  | some alike => exact .some alike
  | none => exact right

/-- One way to go on, or else another one. -/
theorem IgnoresLayout.orElse (one : IgnoresLayout next) (two : IgnoresLayout other) :
    IgnoresLayout fun point => match next point with
      | some stop => some stop
      | none => other point where
  onward := by
    intro point stop matched
    simp only at matched
    split at matched
    · next found => exact one.onward point stop (found.trans matched)
    · exact two.onward point stop matched
  alike point pointToo aligned :=
    rel_orElse (one.alike point pointToo aligned) (two.alike point pointToo aligned)

/-- One way to go on, or else another one, starts with a character of a word if both do. -/
theorem Starts.orElse (one : Starts next) (two : Starts other) :
    Starts fun point => match next point with
      | some stop => some stop
      | none => other point := by
  intro point stop matched
  simp only at matched
  split at matched
  · next found => exact one point stop (found.trans matched)
  · exact two point stop matched

/-- Going on after a pattern one comes to a place that is passed on the way. -/
theorem Onward.run (onward : Onward next) (pattern : Pattern) : Onward (pattern.run · next) := by
  intro point stop matched
  obtain ⟨middle, passes, found⟩ := exists_of_run pattern matched
  exact passes.trans (onward middle stop found)

/-! ## White space -/

/-- White space is passed as a whole, if what follows starts with a word or matches anyway. -/
theorem run_gap (patient : Starts next ∨ ∀ point, (next point).isSome = true) (point : Point) :
    gap.run point next = next ⟨Place.pastBlanks point.rest point.toPlace, point.captured⟩ := by
  generalize split : point.rest = text
  induction text generalizing point with
  | nil => exact run_many_one_of_nil split next
  | cons c rest ih =>
    have onward := ih ⟨point.advance c rest, point.captured⟩ rfl
    rw [gap] at onward ⊢
    rw [run_many_one split, onward, Place.pastBlanks]
    cases kind : isBlank c with
    | false => rfl
    | true =>
      have here : next ⟨Place.pastBlanks rest (point.advance c rest), point.captured⟩ = none →
          next point = none := by
        intro none
        rcases patient with starts | always
        · exact starts.eq_none _ (Place.not_atWord_of_blank split kind)
        · have some := always ⟨Place.pastBlanks rest (point.advance c rest), point.captured⟩
          rw [none] at some
          cases some
      simp only [if_true]
      split
      · next stop found => exact found.symm
      · next none => exact (here none).trans none.symm

/-- What may be before white space that is followed by the start of a word. -/
theorem IgnoresLayout.gap (ignores : IgnoresLayout next) (starts : Starts next) :
    IgnoresLayout (gap.run · next) where
  onward := ignores.onward.run _
  alike point other aligned := by
    rw [run_gap (.inl starts), run_gap (.inl starts)]
    have past := aligned.pastBlanks
    by_cases atWord : (Place.pastBlanks point.rest point.toPlace).AtWord
    · exact ignores.alike _ _ (past.aligned atWord)
    · have outside := Place.not_atWord_of_tightens past.rest atWord
      rw [starts.eq_none ⟨_, point.captured⟩ atWord, starts.eq_none ⟨_, other.captured⟩ outside]
      exact .none

/-- Some white space is white space, if any, where there is some. -/
theorem run_space (starts : Starts next) (point : Point) :
    space.run point next =
      if point.rest.head?.any isBlank then gap.run point next else none := by
  have first : space.run point next = (one isBlank).run point (gap.run · next) := rfl
  rw [first, run_gap (.inl starts) point]
  cases split : point.rest with
  | nil => exact run_one_of_nil split _
  | cons c rest =>
    rw [run_one split, List.head?_cons, Option.any_some]
    split
    · next blank =>
      rw [run_gap (.inl starts), Place.pastBlanks, if_pos blank]
      rfl
    · rfl

/-- What may be before white space that parts it from the start of a word. -/
theorem IgnoresLayout.space (ignores : IgnoresLayout next) (starts : Starts next) :
    IgnoresLayout (space.run · next) where
  onward := ignores.onward.run _
  alike point other aligned := by
    have alike := (ignores.gap starts).alike point other aligned
    rw [run_space starts, run_space starts]
    rcases point.atWord_or with ⟨c, rest, split, inside⟩ | split | ⟨b, rest, split, blank⟩
    · obtain ⟨later, splitToo, -⟩ := aligned.advance split inside
      simp [split, splitToo, inside]
    · have splitToo := (split ▸ aligned.rest).eq_nil
      simp [split, splitToo]
    · cases splitToo : other.rest with
      | nil =>
        have none : Pattern.gap.run other next = none := by
          rw [run_gap (.inl starts), splitToo, Place.pastBlanks]
          exact starts.eq_none _ (Place.not_atWord_of_nil splitToo)
        rw [none] at alike
        simp only [split, List.head?_cons, Option.any_some, blank, if_true, List.head?_nil,
          Option.any_none, Bool.false_eq_true, if_false]
        exact alike
      | cons d later =>
        have blankToo := (splitToo ▸ split ▸ aligned.rest).isBlank_head_of_blank blank
        simp only [split, List.head?_cons, Option.any_some, blank, blankToo, if_true]
        exact alike

/-! ## Characters of words -/

/-- Where no word goes on no character is matched, if no white space is accepted. -/
theorem run_one_of_not_atWord {accepts : Char → Bool}
    (solid : ∀ b, isBlank b = true → accepts b = false) {point : Point} (outside : ¬point.AtWord)
    (next : Continuation) : (one accepts).run point next = none := by
  rcases point.atWord_or with atWord | atEnd | ⟨b, rest, split, blank⟩
  · exact absurd atWord outside
  · exact run_one_of_nil atEnd next
  · rw [run_one split, if_neg (by simp [solid b blank])]

/-- Where no word goes on no characters are matched, if no white space is accepted. -/
theorem run_many_one_of_not_atWord {accepts : Char → Bool}
    (solid : ∀ b, isBlank b = true → accepts b = false) {point : Point} (outside : ¬point.AtWord)
    (next : Continuation) : (many (one accepts)).run point next = next point := by
  rcases point.atWord_or with atWord | atEnd | ⟨b, rest, split, blank⟩
  · exact absurd atWord outside
  · exact run_many_one_of_nil atEnd next
  · rw [run_many_one split, if_neg (by simp [solid b blank])]

/-- What may be where a word starts or ends. -/
theorem IgnoresLayout.edge (ignores : IgnoresLayout next) :
    IgnoresLayout (wordEdge.run · next) where
  onward := ignores.onward.run _
  alike point other aligned := by
    simp only [run, aligned.isWordEdge_eq]
    split
    · exact ignores.alike point other aligned
    · exact .none

/-- What may be after characters of words. -/
theorem IgnoresLayout.many {accepts : Char → Bool}
    (solid : ∀ b, isBlank b = true → accepts b = false) (ignores : IgnoresLayout next) :
    IgnoresLayout ((many (one accepts)).run · next) where
  onward := ignores.onward.run _
  alike point other aligned := by
    generalize filled : point.rest = text
    induction text generalizing point other with
    | nil =>
      have atEnd := (filled ▸ aligned.rest).eq_nil
      rw [run_many_one_of_nil filled, run_many_one_of_nil atEnd]
      exact ignores.alike point other aligned
    | cons c rest ih =>
      rcases aligned.cases with
        ⟨_, _, later, split, splitToo, -, further⟩ | ⟨outside, outsideToo⟩
      · obtain ⟨rfl, rfl⟩ := List.cons.inj (split.symm.trans filled)
        rw [run_many_one split, run_many_one splitToo]
        refine rel_orElse ?_ (ignores.alike point other aligned)
        split
        · exact ih _ _ further rfl
        · exact .none
      · rw [run_many_one_of_not_atWord solid outside, run_many_one_of_not_atWord solid outsideToo]
        exact ignores.alike point other aligned

end Pattern
end Formwright
