import Formwright.Proofs.Pattern.Rewriting
import Formwright.Proofs.Text.Folding
import Formwright.Proofs.Text.Run

/-!
# Patterns of words

A pattern is verbal if it accepts no other characters than those of words, and looks at nothing else
than where words start and end. What such a pattern matches lies within one run of word characters,
so it matches in a text exactly if it matches in one of the runs, taken by itself
(`matchesIn_iff_exists_run`). Where all matches that start and end at the edges of words give way to
spaces, no run comes about that was not there (`mem_runs_of_replaceAll`).
-/
namespace Formwright
open Text

/-! ## Places in a part of a text -/

namespace Place

/-- The place in a text after a part that is read. -/
def after (read rest : List Char) : Place := ⟨read.getLast?, rest, read.length⟩

/-- From a place on, places are passed with what is read in between. -/
theorem mem_onward_iff {before : Option Char} {text : List Char} {index : Nat} {later : Place} :
    later ∈ onward text ⟨before, text, index⟩ ↔ ∃ read rest, text = read ++ rest ∧
      later = ⟨read.getLast?.or before, rest, index + read.length⟩ := by
  induction text generalizing before index with
  | nil =>
    rw [onward, List.mem_singleton]
    constructor
    · rintro rfl
      exact ⟨[], [], rfl, rfl⟩
    · rintro ⟨read, rest, whole, rfl⟩
      obtain ⟨rfl, rfl⟩ := List.append_eq_nil_iff.mp whole.symm
      rfl
  | cons c text ih =>
    have further (read rest : List Char) :
        (⟨read.getLast?.or (some c), rest, index + 1 + read.length⟩ : Place) =
          ⟨(c :: read).getLast?.or before, rest, index + (c :: read).length⟩ := by
      cases last : read.getLast? <;>
        simp [List.getLast?_cons, last, Nat.add_comm, Nat.add_left_comm]
    rw [onward, List.mem_cons, advance, ih]
    constructor
    · rintro (rfl | ⟨read, rest, rfl, rfl⟩)
      · exact ⟨[], c :: text, rfl, rfl⟩
      · exact ⟨c :: read, rest, rfl, further read rest⟩
    · rintro ⟨read, rest, whole, rfl⟩
      cases read with
      | nil =>
        obtain rfl : c :: text = rest := whole
        exact .inl rfl
      | cons d read =>
        obtain ⟨rfl, rfl⟩ := List.cons.inj whole
        exact .inr ⟨read, rest, rfl, (further read rest).symm⟩

/-- The places of a text are those after a part of it that is read. -/
theorem mem_all_iff {text : List Char} {place : Place} :
    place ∈ all text ↔ ∃ read rest, text = read ++ rest ∧ place = after read rest := by
  rw [all, start, mem_onward_iff]
  simp [after]

/-- Before a place that is passed is what was read last. -/
theorem Passes.before_eq {place later : Place} (onward : place.Passes later)
    (moved : later.index ≠ place.index) : later.before = (place.between later).getLast? := by
  have last : later.before = (place.between later).getLast?.or place.before := by
    clear moved
    induction onward with
    | here place => rw [between_self]; rfl
    | @ahead place later c rest split onward ih =>
      rw [onward.between_eq_cons split, ih, List.getLast?_cons]
      cases ((place.advance c rest).between later).getLast? <;> rfl
  obtain ⟨c, rest, split, further⟩ := onward.exists_advance moved
  rw [last, further.between_eq_cons split, List.getLast?_cons]
  rfl

/-- Where a word starts or ends there is no word character on one side. -/
theorem all_or_all_of_isWordEdge {place : Place} (edge : place.isWordEdge = true) :
    place.before.all (!isWord ·) = true ∨ place.rest.head?.all (!isWord ·) = true := by
  obtain ⟨before, rest, index⟩ := place
  rcases before with - | c
  · exact .inl rfl
  · rcases rest with - | ⟨d, rest⟩
    · exact .inr rfl
    · cases kind : isWord c <;> simp_all [isWordEdge]

/-- The second place is in a text where the first one is in a part of it, which is followed by
`behind` and has `shift` characters before it. -/
structure Within (behind : List Char) (shift : Nat) (inner outer : Place) : Prop where
  rest : outer.rest = inner.rest ++ behind
  index : outer.index = shift + inner.index
  before : outer.before.any isWord = inner.before.any isWord

namespace Within

variable {behind : List Char} {shift : Nat} {inner outer : Place}

/-- The next place is in the text where it is in the part. -/
theorem advance (within : Within behind shift inner outer) (c : Char) (rest : List Char) :
    Within behind shift (inner.advance c rest) (outer.advance c (rest ++ behind)) :=
  ⟨rfl, by simp [Place.advance, within.index, Nat.add_assoc], rfl⟩

/-- A part that is followed by no word character has the edges of words where the text has them. -/
theorem isWordEdge_eq (within : Within behind shift inner outer)
    (stop : behind.head?.any isWord = false) : outer.isWordEdge = inner.isWordEdge := by
  rw [isWordEdge, isWordEdge, within.before, within.rest]
  cases inner.rest with
  | nil => simp [stop]
  | cons c rest => rfl

end Within

/-- A part between other characters than those of words has its places in the text. -/
theorem within_after {front behind : List Char} (start : front.getLast?.any isWord = false)
    (read rest : List Char) :
    Within behind front.length (after read rest) (after (front ++ read) (rest ++ behind)) := by
  refine ⟨rfl, List.length_append, ?_⟩
  cases last : read.getLast? <;> simp [after, List.getLast?_append, last, start]

end Place

namespace Pattern

/-! ## Verbal patterns -/

/-- A pattern that accepts only word characters, and looks at nothing else than where words start
and end. -/
def IsVerbal : Pattern → Prop
  | .one accepts => ∀ c, accepts c = true → isWord c = true
  | .sequence first second | .choice first second => first.IsVerbal ∧ second.IsVerbal
  | .repetition _ body | .capture body => body.IsVerbal
  | .empty | .wordEdge => True
  | .textStart | .lineStart | .textEnd => False

/-- One of some verbal patterns. -/
theorem isVerbal_anyOf {patterns : List Pattern}
    (verbal : ∀ pattern ∈ patterns, pattern.IsVerbal) : (anyOf patterns).IsVerbal := by
  induction patterns with
  | nil => exact nofun
  | cons pattern later ih =>
    rw [List.forall_mem_cons] at verbal
    cases later with
    | nil => exact verbal.1
    | cons next later => exact ⟨verbal.1, ih verbal.2⟩

/-- Some verbal patterns in a row. -/
theorem isVerbal_all {patterns : List Pattern}
    (verbal : ∀ pattern ∈ patterns, pattern.IsVerbal) : (all patterns).IsVerbal := by
  induction patterns with
  | nil => exact trivial
  | cons pattern later ih =>
    rw [List.forall_mem_cons] at verbal
    cases later with
    | nil => exact verbal.1
    | cons next later => exact ⟨verbal.1, ih verbal.2⟩

/-- A text of ASCII letters, in any mixture of cases. -/
theorem isVerbal_text {wanted : String}
    (plain : wanted.toList.all (fun c => (foldCase c).isAlpha) = true) :
    (text wanted).IsVerbal := by
  refine isVerbal_all (List.forall_mem_map.mpr fun c listed other same => ?_)
  refine isWord_of_isAlpha_foldCase ?_
  rw [eq_of_beq same]
  exact List.all_eq_true.mp plain c listed

/-- The words that start with a text of ASCII letters. -/
theorem isVerbal_stem {wanted : String}
    (plain : wanted.toList.all (fun c => (foldCase c).isAlpha) = true) : (stem wanted).IsVerbal :=
  ⟨isVerbal_text plain, fun _ => id⟩

/-- Whether a pattern matches no text without characters. -/
def isFilled : Pattern → Bool
  | .one _ => true
  | .sequence first second => first.isFilled || second.isFilled
  | .choice first second => first.isFilled && second.isFilled
  | .capture body => body.isFilled
  | .repetition _ _ | .empty | .wordEdge | .textStart | .lineStart | .textEnd => false

variable {pattern : Pattern} {wanted : Place → Bool}

/-- A verbal pattern does not go on from where no word character follows. -/
theorem wanted_of_admits (verbal : pattern.IsVerbal) {place : Place}
    (outside : place.rest.head?.any isWord = false)
    (admitted : pattern.admits place wanted = true) : wanted place = true := by
  induction pattern generalizing wanted with
  | one accepts =>
    cases split : place.rest with
    | nil => simp [admits_one_of_nil split] at admitted
    | cons c rest =>
      rw [admits_one split, Bool.and_eq_true] at admitted
      simp [split, verbal c admitted.1] at outside
  | sequence first second firstStays secondStays =>
    exact secondStays verbal.2 (firstStays verbal.1 admitted)
  | choice first second firstStays secondStays =>
    rcases Bool.or_eq_true_iff.mp admitted with taken | taken
    · exact firstStays verbal.1 taken
    · exact secondStays verbal.2 taken
  | repetition greedy body stays =>
    rw [admits_repetition, Bool.or_eq_true] at admitted
    rcases admitted with done | again
    · exact done
    · have moved := stays verbal again
      simp at moved
  | capture body stays => exact stays verbal admitted
  | empty => exact admitted
  | wordEdge => exact (Bool.and_eq_true_iff.mp admitted).2
  | textStart | lineStart | textEnd => exact verbal.elim

/-- A verbal pattern that matches no text without characters matches only where a word character
follows. -/
theorem isWord_of_admits (verbal : pattern.IsVerbal) (filled : pattern.isFilled = true)
    {place : Place} (admitted : pattern.admits place wanted = true) :
    place.rest.head?.any isWord = true := by
  by_contra outside
  rw [Bool.not_eq_true] at outside
  -- Going on from there, the pattern would accept a character that no word has.
  induction pattern generalizing wanted with
  | one accepts =>
    cases split : place.rest with
    | nil => simp [admits_one_of_nil split] at admitted
    | cons c rest =>
      rw [admits_one split, Bool.and_eq_true] at admitted
      simp [split, verbal c admitted.1] at outside
  | sequence first second firstFails secondFails =>
    rcases Bool.or_eq_true_iff.mp filled with some | some
    · exact firstFails verbal.1 some admitted
    · exact secondFails verbal.2 some (wanted_of_admits verbal.1 outside admitted)
  | choice first second firstFails secondFails =>
    obtain ⟨some, someToo⟩ := Bool.and_eq_true_iff.mp filled
    rcases Bool.or_eq_true_iff.mp admitted with taken | taken
    · exact firstFails verbal.1 some taken
    · exact secondFails verbal.2 someToo taken
  | capture body fails => exact fails verbal filled admitted
  | repetition | empty | wordEdge | textStart | lineStart | textEnd => cases filled

/-- A verbal pattern is admitted alike in a text and in a part of it that is followed by no word
character. -/
theorem admits_eq_of_within (verbal : pattern.IsVerbal) {behind : List Char} {shift : Nat}
    (stop : behind.head?.any isWord = false) {inner outer : Place}
    (within : Place.Within behind shift inner outer) {wantedToo : Place → Bool}
    (same : ∀ later laterToo, inner.Reaches later → Place.Within behind shift later laterToo →
      wantedToo laterToo = wanted later) :
    pattern.admits outer wantedToo = pattern.admits inner wanted := by
  induction pattern generalizing inner outer wanted wantedToo with
  | one accepts =>
    cases split : inner.rest with
    | nil =>
      rw [admits_one_of_nil split, Bool.eq_false_iff]
      intro admitted
      have outside : outer.rest.head?.any isWord = false := by rw [within.rest, split]; exact stop
      have follows := @isWord_of_admits (one accepts) _ verbal rfl _ admitted
      rw [outside] at follows
      cases follows
    | cons c rest =>
      have splitToo : outer.rest = c :: (rest ++ behind) := by rw [within.rest, split]; rfl
      rw [admits_one split, admits_one splitToo,
        same _ _ (Place.reaches_advance split) (within.advance c rest)]
  | sequence first second firstAgrees secondAgrees =>
    refine firstAgrees verbal.1 within fun middle middleToo reached further => ?_
    exact secondAgrees verbal.2 further fun later laterToo onward =>
      same later laterToo (reached.trans onward)
  | choice first second firstAgrees secondAgrees =>
    rw [admits, admits, firstAgrees verbal.1 within same, secondAgrees verbal.2 within same]
  | repetition greedy body agrees =>
    -- Each round leads to a later place, so there are fewer characters left for the next ones.
    induction size : inner.rest.length using Nat.strong_induction_on generalizing inner outer with
    | _ size ih =>
      subst size
      rw [admits_repetition, admits_repetition, same _ _ (.refl inner) within]
      congr 1
      refine agrees verbal within fun later laterToo reached further => ?_
      have moved : (laterToo.index != outer.index) = (later.index != inner.index) := by
        rw [further.index, within.index, Bool.eq_iff_iff, bne_iff_ne, bne_iff_ne]
        omega
      rw [moved]
      by_cases stays : later.index = inner.index
      · simp [stays]
      · rw [ih _ (reached.length_lt stays) further (fun last lastToo onward =>
          same last lastToo (reached.trans onward)) rfl]
  | capture body agrees => exact agrees verbal within same
  | empty => exact same _ _ (.refl inner) within
  | wordEdge => rw [admits, admits, within.isWordEdge_eq stop, same _ _ (.refl inner) within]
  | textStart | lineStart | textEnd => exact verbal.elim

/-! ## Matches within runs -/

/-- What is followed by none but separators is followed by no word character. -/
theorem any_isWord_eq_false {next : Option Char} (apart : next.all (!isWord ·) = true) :
    next.any isWord = false := by
  cases next <;> simp_all

/-- A verbal pattern that matches no text without characters matches in a text exactly if it matches
in one of its runs of word characters. -/
theorem matchesIn_iff_exists_run (verbal : pattern.IsVerbal) (filled : pattern.isFilled = true)
    (text : List Char) :
    pattern.matchesIn text = true ↔ ∃ run ∈ runs text, pattern.matchesIn run = true := by
  have agree {front behind : List Char} (start : front.getLast?.all (!isWord ·) = true)
      (stop : behind.head?.all (!isWord ·) = true) (read rest : List Char) :
      pattern.admits (Place.after (front ++ read) (rest ++ behind)) (fun _ => true) =
        pattern.admits (Place.after read rest) (fun _ => true) :=
    admits_eq_of_within verbal (any_isWord_eq_false stop)
      (Place.within_after (any_isWord_eq_false start) read rest) fun _ _ _ _ => rfl
  simp only [matchesIn_iff, Place.mem_all_iff]
  constructor
  · rintro ⟨_, ⟨read, rest, rfl, rfl⟩, admitted⟩
    obtain ⟨front, left, rfl, start, inside⟩ := exists_last_part (!isWord ·) read
    obtain ⟨right, behind, rfl, stop, insideToo⟩ :=
      exists_first_part (!isWord ·) rest
    have follows : (right ++ behind).head?.any isWord = true :=
      isWord_of_admits verbal filled admitted
    have some : right ≠ [] := by
      rintro rfl
      rw [List.nil_append, any_isWord_eq_false stop] at follows
      cases follows
    refine ⟨left ++ right, mem_wordsBy_iff_exists.mpr ⟨by simp [some],
      List.forall_mem_append.mpr ⟨inside, insideToo⟩, front, behind, by simp, start, stop⟩,
      _, ⟨left, right, rfl, rfl⟩, ?_⟩
    exact (agree start stop left right).symm.trans admitted
  · rintro ⟨run, listed, _, ⟨read, rest, rfl, rfl⟩, admitted⟩
    obtain ⟨-, -, front, behind, rfl, start, stop⟩ := mem_wordsBy_iff_exists.mp listed
    refine ⟨_, ⟨front ++ read, rest ++ behind, by simp, rfl⟩, ?_⟩
    exact (agree start stop read rest).trans admitted

/-- A single character matches in a text that has one that is accepted. -/
theorem matchesIn_one_iff (accepts : Char → Bool) (text : List Char) :
    (one accepts).matchesIn text = true ↔ ∃ c ∈ text, accepts c = true := by
  simp only [matchesIn_iff, Place.mem_all_iff]
  constructor
  · rintro ⟨_, ⟨read, rest, rfl, rfl⟩, admitted⟩
    cases rest with
    | nil => cases admitted
    | cons c rest => exact ⟨c, by simp, (Bool.and_eq_true_iff.mp admitted).1⟩
  · rintro ⟨c, member, accepted⟩
    obtain ⟨read, rest, rfl⟩ := List.append_of_mem member
    exact ⟨_, ⟨read, c :: rest, rfl, rfl⟩, by simp [admits, Place.after, accepted]⟩

/-! ## Matches that give way to spaces -/

/-- What every match of a pattern starts and ends at are places where words start or end. -/
def IsEdged (pattern : Pattern) : Prop :=
  ∀ (place : Place) stop, pattern.matchAt place = some stop →
    place.isWordEdge = true ∧ stop.isWordEdge = true

/-- A pattern that stands as words do matches from one edge of words to another. -/
theorem isEdged_standing (pattern : Pattern) : (standing pattern).IsEdged := by
  intro place stop matched
  obtain ⟨starts, onward⟩ := Option.ite_none_right_eq_some.mp matched
  obtain ⟨last, -, ends⟩ := exists_of_run pattern onward
  obtain ⟨stops, found⟩ := Option.ite_none_right_eq_some.mp ends
  obtain rfl := Option.some.inj found
  exact ⟨starts, stops⟩

/-- Where all matches start and end at the edges of words, a text that is rewritten with spaces has
no other runs than before, also with a part of a word before it. -/
theorem Rewrites.mem_runs {place : Place} {result : List Char}
    (rewritten : Rewrites pattern [' '] place result) (edged : pattern.IsEdged)
    {read : List Char} (inside : read ≠ [] → place.before.any isWord = true) {run : List Char}
    (listed : run ∈ runs (read ++ result)) : run ∈ runs (read ++ place.rest) := by
  induction rewritten generalizing read with
  | done atEnd => rwa [atEnd]
  | @keep place c rest result split unmatched later ih =>
    rw [split]
    cases kind : isWord c with
    | true =>
      rw [← List.singleton_append, ← List.append_assoc] at listed ⊢
      exact ih (fun _ => kind) listed
    | false =>
      have separator : (!isWord c) = true := by simp [kind]
      rw [runs, wordsBy_append_cons separator, List.mem_append] at listed ⊢
      exact listed.imp_right (@ih [] (absurd rfl))
  | @swap place stop result matched moved later ih =>
    obtain ⟨starts, stops⟩ := edged place stop matched
    have passes := passes_of_matchAt matched
    have first : read.getLast?.all (!isWord ·) = true ∨
        (place.between stop.toPlace ++ stop.rest).head?.all (!isWord ·) = true := by
      rw [passes.between_append]
      cases read with
      | nil => exact .inl rfl
      | cons c read =>
        refine .inr ((Place.all_or_all_of_isWordEdge starts).resolve_left fun outside => ?_)
        have within := inside (List.cons_ne_nil c read)
        rw [any_isWord_eq_false outside] at within
        cases within
    have last : (place.between stop.toPlace).getLast?.all (!isWord ·) = true ∨
        stop.rest.head?.all (!isWord ·) = true := by
      rw [← passes.before_eq moved]
      exact Place.all_or_all_of_isWordEdge stops
    rw [List.singleton_append, runs, wordsBy_append_cons rfl, List.mem_append] at listed
    rw [← passes.between_append, runs, wordsBy_append first, wordsBy_append last, List.mem_append,
      List.mem_append]
    exact listed.imp_right fun listed => .inr (@ih [] (absurd rfl) listed)

/-- Where all matches start and end at the edges of words, a text with spaces for the matches has no
other runs than the text. -/
theorem mem_runs_of_replaceAll (edged : pattern.IsEdged) {text run : List Char}
    (listed : run ∈ runs (pattern.replaceAll [' '] text)) : run ∈ runs text :=
  @Rewrites.mem_runs _ _ _ (rewrites_replaceAll pattern [' '] text) edged [] (absurd rfl) _ listed

end Pattern
end Formwright
