import Formwright.Proofs.Text.Words
import Formwright.Text.Case
import Mathlib.Data.List.Chain

/-!
# Tidy texts

A tidy text has characters, no white space at either end and nowhere two characters of white space
side by side. Words with single spaces between them make a tidy text. They do so in upper case too,
because no character but white space has white space for its upper-case form.
-/
namespace Formwright.Text

/-! ## White space and upper case -/

/-- The code points of white space. -/
def blankCodes : List Nat := [
  0x9, 0xA, 0xB, 0xC, 0xD, 0x20, 0x85, 0xA0, 0x1680, 0x2000, 0x2001, 0x2002, 0x2003, 0x2004, 0x2005,
  0x2006, 0x2007, 0x2008, 0x2009, 0x200A, 0x2028, 0x2029, 0x202F, 0x205F, 0x3000]

/-- The ranges of white space hold the listed code points. -/
theorem isBlank_iff {c : Char} : isBlank c = true ↔ c.toNat ∈ blankCodes := by
  simp only [isBlank, inRanges, blankCodes, List.mem_cons, List.not_mem_nil, or_false,
    Bool.if_false_left, Bool.or_false, Bool.or_eq_true, Bool.and_eq_true, Bool.not_eq_eq_eq_not,
    Bool.not_true, decide_eq_true_eq, decide_eq_false_iff_not]
  omega

/-- No code point of white space, no white space. -/
theorem isBlank_ofNat {code : Nat} (other : code ∉ blankCodes) :
    isBlank (Char.ofNat code) = false := by
  rw [Bool.eq_false_iff, ne_eq, isBlank_iff]
  by_cases valid : code.isValidChar
  · rw [Char.ofNat, dif_pos valid]
    exact other
  · rw [Char.ofNat, dif_neg valid]
    decide

namespace CaseRun

/-- Some runs lead a code point to itself, or one of them covers it. -/
theorem apply_eq_or_exists (runs : List CaseRun) (code : Nat) :
    apply runs code = code ∨
      ∃ run ∈ runs, run.covers code = true ∧ apply runs code = (code + run.shift).toNat := by
  induction runs with
  | nil => exact .inl rfl
  | cons run later ih =>
    rw [apply]
    split
    · exact .inl rfl
    · split
      · next covered => exact .inr ⟨run, List.mem_cons_self, covered, rfl⟩
      · rcases ih with same | ⟨other, listed, covered, led⟩
        · exact .inl same
        · exact .inr ⟨other, List.mem_cons_of_mem run listed, covered, led⟩

/-- A run that leads to no white space, told by the two ends of its images. -/
def AvoidsBlanks (run : CaseRun) : Prop :=
  ∀ code ∈ blankCodes, (code : Int) < run.first + run.shift ∨ run.last + run.shift < code

instance (run : CaseRun) : Decidable run.AvoidsBlanks :=
  inferInstanceAs (Decidable (∀ code ∈ blankCodes, _))

/-- What such a run covers is not led to white space. -/
theorem AvoidsBlanks.image {run : CaseRun} (avoids : run.AvoidsBlanks) {code : Nat}
    (covered : run.covers code = true) : (code + run.shift).toNat ∉ blankCodes := by
  intro blank
  have positive : ∀ blank ∈ blankCodes, 0 < blank := by decide
  have above := positive _ blank
  simp only [covers, Bool.and_eq_true, decide_eq_true_eq] at covered
  have := avoids _ blank
  omega

/-- A table of such runs leads nothing else to white space. -/
theorem apply_notMem_blankCodes {runs : List CaseRun}
    (avoid : ∀ run ∈ runs, run.AvoidsBlanks) {code : Nat} (other : code ∉ blankCodes) :
    apply runs code ∉ blankCodes := by
  rcases apply_eq_or_exists runs code with same | ⟨run, listed, covered, led⟩
  · rwa [same]
  · rw [led]
    exact (avoid run listed).image covered

end CaseRun

/-- The runs of the upper-case mapping lead to no white space. -/
theorem upperPages_avoidBlanks : ∀ page ∈ upperPages, ∀ run ∈ page.2, run.AvoidsBlanks := by
  decide +kernel

/-- The upper-case forms of several characters have characters and no white space. -/
theorem upperSpecial_avoidsBlanks :
    ∀ entry ∈ upperSpecial, entry.2 ≠ [] ∧ ∀ code ∈ entry.2, code ∉ blankCodes := by
  decide +kernel

/-- Upper case makes no white space of an ASCII character. -/
theorem isBlank_toUpper {c : Char} (ascii : c.toNat < 0x80) (other : isBlank c = false) :
    isBlank c.toUpper = false := by
  revert other
  exact @forall_ascii (fun c => isBlank c = false → isBlank c.toUpper = false) (by decide +kernel)
    c ascii

/-- The entry of a table under a key, if there is one, stands in the table. -/
theorem mem_of_lookup_eq_some {β : Type} {table : List (Nat × β)} {key : Nat} {value : β}
    (found : table.lookup key = some value) : (key, value) ∈ table := by
  obtain ⟨before, after, rfl, -⟩ := List.lookup_eq_some_iff.mp found
  exact List.mem_append_right before List.mem_cons_self

/-- A character has an upper-case form. -/
theorem upperChar_ne_nil (c : Char) : upperChar c ≠ [] := by
  unfold upperChar
  split
  · exact List.cons_ne_nil _ _
  · split
    · next codes found =>
      simpa using (upperSpecial_avoidsBlanks _ (mem_of_lookup_eq_some found)).1
    · exact List.cons_ne_nil _ _

/-- Upper case makes no white space of any other character. -/
theorem isBlank_of_mem_upperChar {c d : Char} (other : isBlank c = false)
    (upper : d ∈ upperChar c) : isBlank d = false := by
  unfold upperChar at upper
  split at upper
  · next ascii =>
    obtain rfl := List.mem_singleton.mp upper
    exact isBlank_toUpper ascii other
  · split at upper
    · next codes found =>
      obtain ⟨code, member, rfl⟩ := List.mem_map.mp upper
      have avoids := upperSpecial_avoidsBlanks _ (mem_of_lookup_eq_some found)
      exact isBlank_ofNat (avoids.2 code member)
    · obtain rfl := List.mem_singleton.mp upper
      have clear : c.toNat ∉ blankCodes := by
        rw [← isBlank_iff]
        simp [other]
      apply isBlank_ofNat
      rw [CasePages.apply]
      split
      · next runs found =>
        exact CaseRun.apply_notMem_blankCodes
          (upperPages_avoidBlanks _ (mem_of_lookup_eq_some found)) clear
      · exact clear

/-! ## Words -/

/-- A word: it has characters and no white space. -/
def IsWord (text : List Char) : Prop := text ≠ [] ∧ ∀ c ∈ text, isBlank c = false

/-- The words of a text are words. -/
theorem isWord_of_mem_words {text word : List Char} (listed : word ∈ words text) : IsWord word := by
  obtain ⟨cut, filled⟩ := mem_wordsBy_iff.mp listed
  exact ⟨filled, separates_of_mem_pieces cut⟩

/-- A word is one with its first character in upper case too. -/
theorem IsWord.capitalize {word : List Char} (sound : IsWord word) : IsWord (capitalize word) := by
  obtain ⟨filled, clear⟩ := sound
  cases word with
  | nil => exact absurd rfl filled
  | cons first later =>
    rw [List.forall_mem_cons] at clear
    refine ⟨by simp [Text.capitalize, upperChar_ne_nil], ?_⟩
    intro c member
    rcases List.mem_append.mp member with upper | rest
    · exact isBlank_of_mem_upperChar clear.1 upper
    · exact clear.2 c rest

/-! ## Tidy texts -/

/-- Not both of two characters are white space. -/
def PartsBlanks (left right : Char) : Prop := isBlank left = false ∨ isBlank right = false

/-- A text with characters, without white space at its ends and without two characters of white
space side by side. -/
structure IsTidy (text : List Char) : Prop where
  filled : text ≠ []
  start : ∀ c ∈ text.head?, isBlank c = false
  finish : ∀ c ∈ text.getLast?, isBlank c = false
  spacing : text.IsChain PartsBlanks

/-- A word is tidy. -/
theorem IsWord.isTidy {word : List Char} (sound : IsWord word) : IsTidy word := by
  obtain ⟨filled, clear⟩ := sound
  have apart : word.Pairwise PartsBlanks :=
    List.pairwise_of_forall_mem_list fun left member _ _ => .inl (clear left member)
  exact {
    filled
    start := fun c first => clear c (List.mem_of_mem_head? first)
    finish := fun c last => clear c (List.mem_of_mem_getLast? last)
    spacing := apart.isChain }

/-- A word, a space and a tidy text make a tidy text. -/
theorem IsTidy.append {word text : List Char} (front : IsWord word) (back : IsTidy text) :
    IsTidy (word ++ ' ' :: text) where
  filled := by simp
  start := by
    intro c first
    rw [List.head?_append_of_ne_nil _ front.1] at first
    exact front.isTidy.start c first
  finish := by
    intro c last
    rw [List.getLast?_append_cons, List.getLast?_cons_of_ne_nil back.filled] at last
    exact back.finish c last
  spacing := by
    refine List.isChain_append.mpr ⟨front.isTidy.spacing, ?_, ?_⟩
    · exact List.isChain_cons.mpr ⟨fun c first => .inr (back.start c first), back.spacing⟩
    · exact fun c last _ _ => .inl (front.isTidy.finish c last)

/-- A tidy text is tidy with its first character in upper case too. -/
theorem IsTidy.capitalize {text : List Char} (tidy : IsTidy text) : IsTidy (capitalize text) := by
  cases text with
  | nil => exact absurd rfl tidy.filled
  | cons first later =>
    have front : IsWord (upperChar first) :=
      ⟨upperChar_ne_nil first, fun _ => isBlank_of_mem_upperChar (tidy.start first rfl)⟩
    exact {
      filled := by simp [Text.capitalize, upperChar_ne_nil]
      start := by
        intro c starts
        rw [Text.capitalize, List.head?_append_of_ne_nil _ front.1] at starts
        exact front.isTidy.start c starts
      finish := by
        intro c ends
        cases later with
        | nil =>
          rw [Text.capitalize, List.append_nil] at ends
          exact front.isTidy.finish c ends
        | cons next others =>
          rw [Text.capitalize, List.getLast?_append_cons] at ends
          exact tidy.finish c ends
      spacing := List.isChain_append.mpr ⟨front.isTidy.spacing, tidy.spacing.tail,
        fun c ends _ _ => .inl (front.isTidy.finish c ends)⟩ }

/-- Words with single spaces between them are tidy. -/
theorem isTidy_joinWords {words : List (List Char)} (sound : ∀ word ∈ words, IsWord word)
    (filled : words ≠ []) : IsTidy (joinWords words) := by
  induction words with
  | nil => exact absurd rfl filled
  | cons word later ih =>
    rw [List.forall_mem_cons] at sound
    cases later with
    | nil => simpa [joinWords, List.intercalate] using sound.1.isTidy
    | cons next others =>
      rw [joinWords, List.intercalate_cons_cons, List.append_assoc, List.singleton_append]
      exact .append sound.1 (ih sound.2 (List.cons_ne_nil _ _))

/-- A text that is made of its own words with single spaces between them is tidy. -/
theorem isTidy_of_words {text : List Char} (plain : joinWords (words text) = text)
    (filled : text ≠ []) : IsTidy text := by
  rw [← plain]
  refine isTidy_joinWords (fun word => isWord_of_mem_words) ?_
  intro none
  rw [none] at plain
  exact filled plain.symm

end Formwright.Text
