import Formwright.Proofs.Text.Tidy
import Formwright.Text.Alphanumeric
import Mathlib.Data.List.TakeWhile

/-!
# Layout

A text is laid out by its white space. Another text has the same in a tighter layout if it has no
more white space between two words and at the end, and some wherever there is some between words.
The tightest layout has single spaces between the words (`tightens_joinWords_words`). Whatever the
layout, the words are the same, and so are the pieces that a text is cut into at more characters
than those of white space.
-/
namespace Formwright.Text

/-! ## White space -/

/-- What holds of the listed code points holds of white space. -/
theorem forall_blank {holds : Char → Prop} (listed : ∀ code ∈ blankCodes, holds (Char.ofNat code))
    {c : Char} (blank : isBlank c = true) : holds c := by
  have held := listed c.toNat (isBlank_iff.mp blank)
  rwa [Char.ofNat_toNat] at held

/-- White space is no part of words. -/
theorem isWord_of_isBlank {c : Char} (blank : isBlank c = true) : isWord c = false :=
  @forall_blank (isWord · = false) (by decide +kernel) c blank

/-- White space is no letter. -/
theorem isLetter_of_isBlank {c : Char} (blank : isBlank c = true) : isLetter c = false :=
  @forall_blank (isLetter · = false) (by decide +kernel) c blank

/-- White space is neither a letter nor a digit. -/
theorem isAlphanumeric_of_isBlank {c : Char} (blank : isBlank c = true) :
    isAlphanumeric c = false :=
  @forall_blank (isAlphanumeric · = false) (by decide +kernel) c blank

/-! ## Tighter layouts -/

/-- The second text is the first one in a tighter layout. -/
inductive Tightens : List Char → List Char → Prop
  | nil : Tightens [] []
  | char {c : Char} {loose tight : List Char} (inside : isBlank c = false)
      (later : Tightens loose tight) : Tightens (c :: loose) (c :: tight)
  | blank {b d : Char} {loose tight : List Char} (first : isBlank b = true)
      (firstToo : isBlank d = true) (later : Tightens loose tight) :
      Tightens (b :: loose) (d :: tight)
  | surplus {b d : Char} {loose tight : List Char} (first : isBlank b = true)
      (next : isBlank d = true) (later : Tightens (d :: loose) tight) :
      Tightens (b :: d :: loose) tight
  | trailing {b : Char} (last : isBlank b = true) : Tightens [b] []

/-- The number of characters in a text that are no white space. -/
def ink (text : List Char) : Nat := (text.filter (!isBlank ·)).length

/-- White space in front of a text does not count. -/
theorem ink_cons_of_blank {b : Char} (blank : isBlank b = true) (text : List Char) :
    ink (b :: text) = ink text := by
  simp [ink, blank]

/-- A character in front of a text that is no white space counts once. -/
theorem ink_cons {c : Char} (inside : isBlank c = false) (text : List Char) :
    ink (c :: text) = ink text + 1 := by
  simp [ink, inside]

namespace Tightens

variable {loose tight : List Char}

/-- Nothing is the tighter layout of nothing only. -/
theorem eq_nil (tightens : Tightens [] tight) : tight = [] := by
  cases tightens
  rfl

/-- What starts with a character of a word starts with it in a tighter layout. -/
theorem exists_of_char {c : Char} (inside : isBlank c = false)
    (tightens : Tightens (c :: loose) tight) :
    ∃ later, tight = c :: later ∧ Tightens loose later := by
  cases tightens with
  | char _ later => exact ⟨_, rfl, later⟩
  | blank blank | surplus blank | trailing blank => rw [inside] at blank; cases blank

/-- What starts with white space starts with white space in a tighter layout, if there is
anything. -/
theorem isBlank_head_of_blank {b d : Char} {later : List Char} (blank : isBlank b = true)
    (tightens : Tightens (b :: loose) (d :: later)) : isBlank d = true := by
  generalize source : b :: loose = text at tightens
  generalize target : d :: later = other at tightens
  induction tightens generalizing b loose with
  | nil => cases source
  | char inside =>
    obtain ⟨rfl, -⟩ := List.cons.inj source
    rw [inside] at blank
    cases blank
  | blank _ blank =>
    obtain ⟨rfl, -⟩ := List.cons.inj target
    exact blank
  | surplus _ next _ ih => exact ih next rfl target
  | trailing => cases target

/-- What starts with a character of a word in a tighter layout started with it before. -/
theorem exists_of_char_tight {c : Char} (inside : isBlank c = false)
    (tightens : Tightens loose (c :: tight)) :
    ∃ later, loose = c :: later ∧ Tightens later tight := by
  cases source : loose with
  | nil => cases (source ▸ tightens).eq_nil
  | cons d later =>
    rw [source] at tightens
    cases other : isBlank d with
    | true =>
      have blank := tightens.isBlank_head_of_blank other
      rw [inside] at blank
      cases blank
    | false =>
      obtain ⟨rest, same, tightens⟩ := tightens.exists_of_char other
      obtain ⟨rfl, rfl⟩ := List.cons.inj same
      exact ⟨later, rfl, tightens⟩

/-- What starts with a word starts with it in a tighter layout. -/
theorem exists_of_append {word : List Char} (inside : ∀ c ∈ word, isBlank c = false)
    (tightens : Tightens (word ++ loose) tight) :
    ∃ later, tight = word ++ later ∧ Tightens loose later := by
  induction word generalizing tight with
  | nil => exact ⟨tight, rfl, tightens⟩
  | cons c word ih =>
    rw [List.forall_mem_cons] at inside
    obtain ⟨rest, rfl, onward⟩ := tightens.exists_of_char inside.1
    obtain ⟨later, rfl, further⟩ := ih inside.2 onward
    exact ⟨later, rfl, further⟩

/-- What starts with a word in a tighter layout started with it before. -/
theorem exists_of_append_tight {word : List Char} (inside : ∀ c ∈ word, isBlank c = false)
    (tightens : Tightens loose (word ++ tight)) :
    ∃ later, loose = word ++ later ∧ Tightens later tight := by
  induction word generalizing loose with
  | nil => exact ⟨loose, rfl, tightens⟩
  | cons c word ih =>
    rw [List.forall_mem_cons] at inside
    obtain ⟨rest, rfl, onward⟩ := tightens.exists_of_char_tight inside.1
    obtain ⟨later, rfl, further⟩ := ih inside.2 onward
    exact ⟨later, rfl, further⟩

/-- Without the white space at the start a layout is still tighter. -/
theorem dropWhile (tightens : Tightens loose tight) :
    Tightens (loose.dropWhile isBlank) (tight.dropWhile isBlank) := by
  induction tightens with
  | nil => exact .nil
  | char inside later => simpa [List.dropWhile_cons, inside] using Tightens.char inside later
  | blank first firstToo _ ih => simpa [List.dropWhile_cons, first, firstToo] using ih
  | surplus first _ _ ih =>
    rw [List.dropWhile_cons, if_pos first]
    exact ih
  | trailing last =>
    rw [List.dropWhile_cons, if_pos last]
    exact .nil

/-- Apart from white space there is as much in a tighter layout. -/
theorem ink_eq (tightens : Tightens loose tight) : ink loose = ink tight := by
  induction tightens with
  | nil => rfl
  | char inside _ ih => rw [ink_cons inside, ink_cons inside, ih]
  | blank first firstToo _ ih => rw [ink_cons_of_blank first, ink_cons_of_blank firstToo, ih]
  | surplus first _ _ ih => rw [ink_cons_of_blank first, ih]
  | trailing last => exact ink_cons_of_blank last []

/-- White space goes on, or ends, or is followed by white space in the tighter layout too. -/
theorem cases_of_blank {b : Char} (blank : isBlank b = true)
    (tightens : Tightens (b :: loose) tight) :
    (∃ d later, tight = d :: later ∧ isBlank d = true ∧ Tightens loose later) ∨
      (∃ d later, loose = d :: later ∧ isBlank d = true ∧ Tightens loose tight) ∨
        loose = [] ∧ tight = [] := by
  cases tightens with
  | char inside =>
    rw [inside] at blank
    cases blank
  | blank _ blankToo later => exact .inl ⟨_, _, rfl, blankToo, later⟩
  | surplus _ next later => exact .inr (.inl ⟨_, _, rfl, next, later⟩)
  | trailing => exact .inr (.inr ⟨rfl, rfl⟩)

/-- Apart from empty pieces after the first one, the pieces are the same in a tighter layout. -/
theorem pieces_eq {separates : Char → Bool} (blanks : ∀ b, isBlank b = true → separates b = true)
    (tightens : Tightens loose tight) :
    ∃ first others othersToo, pieces separates loose = first :: others ∧
      pieces separates tight = first :: othersToo ∧
        others.filter (!·.isEmpty) = othersToo.filter (!·.isEmpty) := by
  have split {c : Char} {text first : List Char} {others : List (List Char)}
      (separator : separates c = true) (cut : pieces separates text = first :: others) :
      pieces separates (c :: text) = [] :: first :: others := by
    rw [pieces, if_pos separator, cut]
  induction tightens with
  | nil => exact ⟨[], [], [], rfl, rfl, rfl⟩
  | @char c loose tight inside _ ih =>
    obtain ⟨first, others, othersToo, cut, cutToo, same⟩ := ih
    by_cases separator : separates c = true
    · refine ⟨[], _, _, split separator cut, split separator cutToo, ?_⟩
      simp only [List.filter_cons, same]
    · obtain ⟨piece, _, found, whole⟩ := exists_pieces_cons (by simpa using separator) loose
      obtain ⟨rfl, rfl⟩ := List.cons.inj (found.symm.trans cut)
      obtain ⟨_, _, found, wholeToo⟩ := exists_pieces_cons (by simpa using separator) tight
      obtain ⟨rfl, rfl⟩ := List.cons.inj (found.symm.trans cutToo)
      exact ⟨_, _, _, whole, wholeToo, same⟩
  | blank blank blankToo _ ih =>
    obtain ⟨first, others, othersToo, cut, cutToo, same⟩ := ih
    refine ⟨[], _, _, split (blanks _ blank) cut, split (blanks _ blankToo) cutToo, ?_⟩
    simp only [List.filter_cons, same]
  | surplus blank next _ ih =>
    obtain ⟨first, others, othersToo, cut, cutToo, same⟩ := ih
    have empty : first = [] := by
      rw [pieces, if_pos (blanks _ next)] at cut
      exact (List.cons.inj cut).1.symm
    subst empty
    exact ⟨[], _, othersToo, split (blanks _ blank) cut, cutToo, same⟩
  | trailing last => exact ⟨[], [[]], [], split (blanks _ last) rfl, rfl, rfl⟩

/-- The pieces that have characters are the same in a tighter layout. -/
theorem wordsBy_eq {separates : Char → Bool} (blanks : ∀ b, isBlank b = true → separates b = true)
    (tightens : Tightens loose tight) : wordsBy separates loose = wordsBy separates tight := by
  obtain ⟨first, others, othersToo, cut, cutToo, same⟩ := tightens.pieces_eq blanks
  rw [wordsBy, wordsBy, cut, cutToo, List.filter_cons, List.filter_cons, same]

end Tightens

/-! ## The tightest layout -/

/-- White space alone is nothing in the tightest layout. -/
theorem tightens_nil {blanks : List Char} (blank : ∀ b ∈ blanks, isBlank b = true) :
    Tightens blanks [] := by
  induction blanks with
  | nil => exact .nil
  | cons b later ih =>
    rw [List.forall_mem_cons] at blank
    cases later with
    | nil => exact .trailing blank.1
    | cons d later => exact .surplus blank.1 (blank.2 d List.mem_cons_self) (ih blank.2)

/-- White space at the end of a text is nothing in a tighter layout. -/
theorem tightens_append_blanks {blanks : List Char} (blank : ∀ b ∈ blanks, isBlank b = true)
    (text : List Char) : Tightens (text ++ blanks) text := by
  induction text with
  | nil => exact tightens_nil blank
  | cons c later ih =>
    cases kind : isBlank c with
    | true => exact .blank kind kind ih
    | false => exact .char kind ih

/-- White space before a text is a space in a tighter layout. -/
theorem tightens_space {b : Char} (blank : isBlank b = true) {loose tight : List Char}
    (later : Tightens (loose.dropWhile isBlank) tight) : Tightens (b :: loose) (' ' :: tight) := by
  induction loose generalizing b with
  | nil => exact .blank blank rfl later
  | cons c loose ih =>
    cases first : isBlank c with
    | true =>
      rw [List.dropWhile_cons, if_pos first] at later
      exact .surplus blank first (ih first later)
    | false =>
      rw [List.dropWhile_cons, if_neg (by simp [first])] at later
      exact .blank blank rfl later

/-- White space before words that are laid out most tightly is a space, if there are any. -/
theorem tightens_joinWords_nil_cons {b : Char} (blank : isBlank b = true) {loose : List Char}
    {words : List (List Char)} (later : Tightens (loose.dropWhile isBlank) (joinWords words)) :
    Tightens (b :: loose) (joinWords ([] :: words)) := by
  cases words with
  | nil =>
    have none : loose.dropWhile isBlank = [] := by
      by_contra filled
      obtain ⟨_, same, -⟩ := Tightens.exists_of_char (List.head_dropWhile_not isBlank filled)
        ((List.cons_head_tail filled).symm ▸ later)
      cases same
    have blanks := List.dropWhile_eq_nil_iff.mp none
    exact tightens_nil (List.forall_mem_cons.mpr ⟨blank, blanks⟩)
  | cons word rest => exact tightens_space blank later

/-- The first character of the first word is that of all words with single spaces between them. -/
theorem joinWords_cons_cons (c : Char) (word : List Char) (later : List (List Char)) :
    joinWords ((c :: word) :: later) = c :: joinWords (word :: later) := by
  cases later <;> simp [joinWords, List.intercalate]

/-- The words of a text are those of the text without white space at its start. -/
theorem words_cons_of_blank {b : Char} (blank : isBlank b = true) (text : List Char) :
    words (b :: text) = words text :=
  wordsBy_cons blank text

/-- The words of a text that starts with one. -/
theorem words_cons_of_pieces {c : Char} {text piece : List Char} {others : List (List Char)}
    (inside : isBlank c = false) (cut : pieces isBlank text = piece :: others) :
    words (c :: text) = (c :: piece) :: others.filter (!·.isEmpty) := by
  obtain ⟨_, _, found, whole⟩ := exists_pieces_cons inside text
  obtain ⟨rfl, rfl⟩ := List.cons.inj (found.symm.trans cut)
  rw [words, wordsBy, whole, List.filter_cons]
  rfl

/-- The words of a text with single spaces between them are the text in a tighter layout, apart from
the white space at its start. -/
theorem tightens_joinWords_words (text : List Char) :
    Tightens (text.dropWhile isBlank) (joinWords (words text)) := by
  induction text with
  | nil => exact .nil
  | cons c later ih =>
    cases first : isBlank c with
    | true =>
      rw [List.dropWhile_cons, if_pos first, words_cons_of_blank first]
      exact ih
    | false =>
      rw [List.dropWhile_cons, if_neg (by simp [first])]
      cases later with
      | nil =>
        rw [words_cons_of_pieces first (rfl : pieces isBlank [] = [] :: [])]
        exact .char first .nil
      | cons d rest =>
        cases next : isBlank d with
        | true =>
          have cut : pieces isBlank (d :: rest) = [] :: pieces isBlank rest := by
            rw [pieces, if_pos next]
          rw [List.dropWhile_cons, if_pos next, words_cons_of_blank next] at ih
          rw [words_cons_of_pieces first cut, joinWords_cons_cons]
          exact .char first (tightens_joinWords_nil_cons next ih)
        | false =>
          obtain ⟨piece, others, cut, cutToo⟩ := exists_pieces_cons next rest
          rw [List.dropWhile_cons, if_neg (by simp [next]), words_cons_of_pieces next cut] at ih
          rw [words_cons_of_pieces first cutToo, joinWords_cons_cons]
          exact .char first ih

/-! ## White space at the start -/

/-- The second text is the first one in a tighter layout, apart from white space at the start of the
first. -/
def Tidies (loose tight : List Char) : Prop :=
  ∃ blanks rest, (∀ b ∈ blanks, isBlank b = true) ∧ loose = blanks ++ rest ∧ Tightens rest tight

/-- The words of a text with single spaces between them are the text in a tighter layout. -/
theorem tidies_joinWords_words (text : List Char) : Tidies text (joinWords (words text)) :=
  ⟨text.takeWhile isBlank, text.dropWhile isBlank, fun _ => List.mem_takeWhile_imp,
    List.takeWhile_append_dropWhile.symm, tightens_joinWords_words text⟩

namespace Tidies

variable {loose tight : List Char}

/-- Apart from white space there is as much in a tighter layout. -/
theorem ink_eq (tidies : Tidies loose tight) : ink loose = ink tight := by
  obtain ⟨blanks, rest, blank, rfl, tightens⟩ := tidies
  induction blanks with
  | nil => exact tightens.ink_eq
  | cons b later ih =>
    rw [List.forall_mem_cons] at blank
    exact (ink_cons_of_blank blank.1 _).trans (ih blank.2)

/-- The pieces that have characters are the same in a tighter layout. -/
theorem wordsBy_eq {separates : Char → Bool} (blanks : ∀ b, isBlank b = true → separates b = true)
    (tidies : Tidies loose tight) : wordsBy separates loose = wordsBy separates tight := by
  obtain ⟨before, rest, blank, rfl, tightens⟩ := tidies
  induction before with
  | nil => exact tightens.wordsBy_eq blanks
  | cons b later ih =>
    rw [List.forall_mem_cons] at blank
    rw [List.cons_append, wordsBy_cons (blanks b blank.1)]
    exact ih blank.2

end Tidies

end Formwright.Text
