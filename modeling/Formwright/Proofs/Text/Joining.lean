import Formwright.Proofs.Text.Run
import Formwright.Proofs.Text.Tidy
import Mathlib.Data.List.Infix

/-!
# Pieces joined again

What a text is cut into at one character makes the text again when that character is put between the
pieces, and pieces without the character are what their joined text is cut into. A tidy text whose
white space is spaces only is made of its words with single spaces between them
(`joinWords_words`). Where words with single spaces between them are trimmed of white space and
other characters, such a text is left, and it has no more words (`isTidy_trimBy`,
`length_words_le`).
-/
namespace Formwright.Text

section

variable {separates : Char → Bool}

/-! ## Pieces -/

/-- The pieces of a text are those that it is split into. -/
theorem pieces_eq_splitOnP (text : List Char) :
    pieces separates text = text.splitOnP separates := by
  induction text with
  | nil => rfl
  | cons c later ih =>
    rw [pieces, List.splitOnP_cons_eq_if_modifyHead, ih]
    cases found : later.splitOnP separates with
    | nil => exact absurd found (List.splitOnP_ne_nil _ _)
    | cons piece others => rfl

/-- The pieces of a text depend only on which of its characters are separators. -/
theorem pieces_congr {other : Char → Bool} {text : List Char}
    (same : ∀ c ∈ text, separates c = other c) : pieces separates text = pieces other text := by
  induction text with
  | nil => rfl
  | cons c later ih =>
    rw [List.forall_mem_cons] at same
    rw [pieces, pieces, same.1, ih same.2]

/-- The pieces of a text with their separator between them are the text. -/
theorem intercalate_pieces (mark : Char) (text : List Char) :
    [mark].intercalate (pieces (· == mark) text) = text := by
  rw [pieces_eq_splitOnP]
  exact List.intercalate_splitOn mark

/-- Pieces without a character are what their text with the character between them is cut into. -/
theorem pieces_intercalate {mark : Char} {parts : List (List Char)}
    (whole : ∀ part ∈ parts, mark ∉ part) (filled : parts ≠ []) :
    pieces (· == mark) ([mark].intercalate parts) = parts := by
  rw [pieces_eq_splitOnP]
  exact List.splitOn_intercalate mark whole filled

/-- There is one piece more than there are separators. -/
theorem length_pieces (text : List Char) :
    (pieces separates text).length = text.countP separates + 1 := by
  induction text with
  | nil => rfl
  | cons c later ih =>
    cases kind : separates c with
    | true => rw [pieces, if_pos kind, List.length_cons, ih, List.countP_cons_of_pos kind]
    | false =>
      obtain ⟨piece, others, found, whole⟩ := exists_pieces_cons kind later
      rw [found, List.length_cons] at ih
      rw [whole, List.length_cons, ih, List.countP_cons_of_neg (by simp [kind])]

end

/-! ## Words of tidy texts -/

/-- Where white space stands neither at the end of a text nor side by side, only the first piece
between it can be empty. -/
theorem nil_notMem_tail_pieces {text : List Char}
    (finish : ∀ c ∈ text.getLast?, isBlank c = false) (spacing : text.IsChain PartsBlanks) :
    [] ∉ (pieces isBlank text).tail := by
  induction text with
  | nil => exact List.not_mem_nil
  | cons c later ih =>
    have finishLater : ∀ d ∈ later.getLast?, isBlank d = false := by
      intro d last
      exact finish d (List.mem_getLast?_cons last)
    have inner := ih finishLater spacing.tail
    cases kind : isBlank c with
    | false =>
      obtain ⟨piece, others, found, whole⟩ := exists_pieces_cons kind later
      rw [found] at inner
      rwa [whole]
    | true =>
      rw [pieces, if_pos kind, List.tail_cons]
      cases later with
      | nil => simp [kind] at finish
      | cons d rest =>
        -- After white space another piece starts, with the character that stands there.
        have inside : isBlank d = false := by
          have apart := (List.isChain_cons_cons.mp spacing).1
          rcases apart with clear | clear
          · simp [kind] at clear
          · exact clear
        obtain ⟨piece, others, -, whole⟩ := exists_pieces_cons inside rest
        rw [whole] at inner ⊢
        exact List.not_mem_cons_of_ne_of_not_mem (List.cons_ne_nil _ _).symm inner

/-- The words of a tidy text are all that it is cut into at its white space. -/
theorem words_eq_pieces {text : List Char} (tidy : IsTidy text) :
    words text = pieces isBlank text := by
  cases text with
  | nil => exact absurd rfl tidy.filled
  | cons c later =>
    have inside : isBlank c = false := tidy.start c rfl
    have inner := nil_notMem_tail_pieces tidy.finish tidy.spacing
    obtain ⟨piece, others, -, whole⟩ := exists_pieces_cons inside later
    rw [whole] at inner
    rw [words, wordsBy, List.filter_eq_self, whole]
    intro part listed
    have filled : part ≠ [] := by
      rintro rfl
      rcases List.mem_cons.mp listed with first | other
      · cases first
      · exact inner other
    simpa using filled

/-- A tidy text whose white space is spaces only is its words with single spaces between them. -/
theorem joinWords_words {text : List Char} (tidy : IsTidy text)
    (spaces : ∀ c ∈ text, isBlank c = true → c = ' ') : joinWords (words text) = text := by
  have same : pieces isBlank text = pieces (· == ' ') text := by
    apply pieces_congr
    intro c member
    rw [Bool.eq_iff_iff, beq_iff_eq]
    exact ⟨spaces c member, by rintro rfl; decide⟩
  rw [words_eq_pieces tidy, same]
  exact intercalate_pieces ' ' text

/-! ## Joined words -/

section

variable {words : List (List Char)}

/-- A character of words with single spaces between them is such a space or stands in a word. -/
theorem exists_mem_of_mem_joinWords {c : Char} (member : c ∈ joinWords words) (other : c ≠ ' ') :
    ∃ word ∈ words, c ∈ word := by
  have unspaced : ' ' ∉ [c] := by simpa using other.symm
  have held : [c] <:+: joinWords words := (List.singleton_infix_iff c _).mpr member
  obtain ⟨word, listed, held⟩ :=
    exists_infix_of_infix_joinWords (List.cons_ne_nil c []) unspaced held
  exact ⟨word, listed, (List.singleton_infix_iff c word).mp held⟩

/-- The white space in words with single spaces between them is these spaces. -/
theorem eq_space_of_mem_joinWords (sound : ∀ word ∈ words, IsWord word) {c : Char}
    (member : c ∈ joinWords words) (blank : isBlank c = true) : c = ' ' := by
  by_contra other
  obtain ⟨word, listed, inside⟩ := exists_mem_of_mem_joinWords member other
  rw [(sound word listed).2 c inside] at blank
  cases blank

/-- Words are what their text with single spaces between them is cut into at its white space. -/
theorem pieces_joinWords (sound : ∀ word ∈ words, IsWord word) (filled : words ≠ []) :
    pieces isBlank (joinWords words) = words := by
  have same : pieces isBlank (joinWords words) = pieces (· == ' ') (joinWords words) := by
    apply pieces_congr
    intro c member
    rw [Bool.eq_iff_iff, beq_iff_eq]
    exact ⟨eq_space_of_mem_joinWords sound member, by rintro rfl; decide⟩
  have unspaced : ∀ word ∈ words, ' ' ∉ word := by
    intro word listed space
    have clear := (sound word listed).2 ' ' space
    exact absurd clear (by decide)
  rw [same]
  exact pieces_intercalate unspaced filled

/-- A part of words with single spaces between them has no more words. -/
theorem length_words_le (sound : ∀ word ∈ words, IsWord word) (filled : words ≠ [])
    {part : List Char} (within : part <:+: joinWords words) :
    (Text.words part).length ≤ words.length := by
  calc (Text.words part).length
      ≤ (pieces isBlank part).length := List.length_filter_le _ _
    _ = part.countP isBlank + 1 := length_pieces part
    _ ≤ (joinWords words).countP isBlank + 1 :=
        Nat.succ_le_succ within.sublist.countP_le
    _ = words.length := by rw [← length_pieces, pieces_joinWords sound filled]

end

/-! ## Trimmed texts -/

/-- What is left of a tidy text when it is trimmed of white space and other characters is tidy. -/
theorem isTidy_trimBy {drops : Char → Bool} {text : List Char} (tidy : IsTidy text)
    (blanks : ∀ c, isBlank c = true → drops c = true) (left : trimBy drops text ≠ []) :
    IsTidy (trimBy drops text) := by
  have clear {c : Char} (kept : drops c = false) : isBlank c = false := by
    rw [Bool.eq_false_iff] at kept ⊢
    exact fun blank => kept (blanks c blank)
  obtain ⟨start, finish⟩ := ends_of_trimBy drops text
  exact {
    filled := left
    start := fun c first => clear (start c first)
    finish := fun c last => clear (finish c last)
    spacing := tidy.spacing.infix (infix_of_trimBy drops text) }

end Formwright.Text
