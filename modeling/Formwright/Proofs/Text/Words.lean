import Formwright.Text.Words

/-!
# Pieces of a text

The pieces between the separators of a text hold no separators, and a text that is put together
around a separator has the pieces of both its parts. A number in decimal is written in digits only.
-/
namespace Formwright.Text

/-- A number is written in digits. -/
theorem isDigit_of_mem_toString {number : Nat} {c : Char} (written : c ∈ (toString number).toList) :
    c.isDigit = true := by
  rw [Nat.toString_eq_repr, Nat.repr, String.toList_ofList] at written
  exact Nat.isDigit_of_mem_toDigits (by decide) (by decide) written

/-- What holds of the ASCII code points holds of ASCII characters. -/
theorem forall_ascii {holds : Char → Prop} (listed : ∀ code < 0x80, holds (Char.ofNat code))
    {c : Char} (ascii : c.toNat < 0x80) : holds c := by
  have held := listed c.toNat ascii
  rwa [Char.ofNat_toNat] at held

/-- A character that is not in upper case is its own lower case. -/
theorem toLower_of_not_isUpper {c : Char} (plain : c.isUpper = false) : c.toLower = c := by
  have outside : ¬(c.val ≥ 'A'.val ∧ c.val ≤ 'Z'.val) := of_decide_eq_false plain
  exact dif_neg outside

/-- Letters and digits are ASCII characters. -/
theorem toNat_lt_of_isAlphanum {c : Char} (plain : c.isAlphanum = true) : c.toNat < 0x80 := by
  have below {last : Char} (ends : last.toNat < 0x80) (upTo : c.val ≤ last.val) :
      c.toNat < 0x80 :=
    Nat.lt_of_le_of_lt (UInt32.le_iff_toNat_le.mp upTo) ends
  rcases Bool.or_eq_true_iff.mp plain with letter | digit
  · rcases Bool.or_eq_true_iff.mp letter with upper | lower
    · have upTo : c.val ≤ 'Z'.val := (of_decide_eq_true upper).2
      exact below (by decide) upTo
    · have upTo : c.val ≤ 'z'.val := of_decide_eq_true (Bool.and_eq_true_iff.mp lower).2
      exact below (by decide) upTo
  · exact below (by decide) (Char.isDigit_iff_toNat.mp digit).2

variable {separates : Char → Bool}

/-- A text has pieces. -/
theorem pieces_ne_nil (text : List Char) : pieces separates text ≠ [] := by
  cases text with
  | nil => exact List.cons_ne_nil _ _
  | cons c later =>
    rw [pieces]
    split
    · exact List.cons_ne_nil _ _
    · split <;> exact List.cons_ne_nil _ _

/-- A first character that is no separator belongs to the first piece of what follows it. -/
theorem exists_pieces_cons {c : Char} (inside : separates c = false) (later : List Char) :
    ∃ piece others, pieces separates later = piece :: others ∧
      pieces separates (c :: later) = (c :: piece) :: others := by
  cases found : pieces separates later with
  | nil => exact absurd found (pieces_ne_nil later)
  | cons piece others => exact ⟨piece, others, rfl, by simp [pieces, inside, found]⟩

/-- A text without separators is one piece. -/
theorem pieces_eq_singleton {text : List Char} (whole : ∀ c ∈ text, separates c = false) :
    pieces separates text = [text] := by
  induction text with
  | nil => rfl
  | cons c later ih =>
    have rest : pieces separates later = [later] :=
      ih fun d member => whole d (List.mem_cons_of_mem c member)
    simp [pieces, whole c List.mem_cons_self, rest]

/-- The pieces of a text that is put together around a separator. -/
theorem pieces_append_cons {c : Char} (separator : separates c = true) (before after : List Char) :
    pieces separates (before ++ c :: after) =
      pieces separates before ++ pieces separates after := by
  induction before with
  | nil => simp [pieces, separator]
  | cons d later ih =>
    rw [List.cons_append]
    by_cases splits : separates d = true
    · simp [pieces, splits, ih]
    · obtain ⟨piece, others, found, whole⟩ :=
        exists_pieces_cons (by simpa using splits) later
      rw [whole, pieces, ih, found]
      simp [splits]

/-- The words of a text that is put together around a separator. -/
theorem wordsBy_append_cons {c : Char} (separator : separates c = true) (before after : List Char) :
    wordsBy separates (before ++ c :: after) =
      wordsBy separates before ++ wordsBy separates after := by
  rw [wordsBy, pieces_append_cons separator, List.filter_append]
  rfl

/-- A separator before a text belongs to no word. -/
theorem wordsBy_cons {c : Char} (separator : separates c = true) (later : List Char) :
    wordsBy separates (c :: later) = wordsBy separates later :=
  wordsBy_append_cons separator [] later

/-- There is no separator in a piece. -/
theorem separates_of_mem_pieces {text piece : List Char} (cut : piece ∈ pieces separates text) :
    ∀ c ∈ piece, separates c = false := by
  induction text generalizing piece with
  | nil =>
    obtain rfl := List.mem_singleton.mp cut
    nofun
  | cons c later ih =>
    by_cases splits : separates c = true
    · rw [pieces, if_pos splits] at cut
      rcases List.mem_cons.mp cut with rfl | cut
      · nofun
      · exact ih cut
    · obtain ⟨first, others, found, whole⟩ := exists_pieces_cons (by simpa using splits) later
      rw [whole] at cut
      rcases List.mem_cons.mp cut with rfl | cut
      · rw [List.forall_mem_cons]
        exact ⟨by simpa using splits, ih (found ▸ List.mem_cons_self)⟩
      · exact ih (found ▸ List.mem_cons_of_mem first cut)

/-- A word is a piece with characters. -/
theorem mem_wordsBy_iff {text word : List Char} :
    word ∈ wordsBy separates text ↔ word ∈ pieces separates text ∧ word ≠ [] := by
  simp [wordsBy]

/-- The first piece starts the text. -/
theorem prefix_of_pieces_eq_cons {text first : List Char} {others : List (List Char)}
    (cut : pieces separates text = first :: others) : first <+: text := by
  induction text generalizing first others with
  | nil =>
    obtain ⟨rfl, -⟩ := List.cons.inj cut
    exact List.nil_prefix
  | cons c later ih =>
    by_cases splits : separates c = true
    · rw [pieces, if_pos splits] at cut
      obtain ⟨rfl, -⟩ := List.cons.inj cut
      exact List.nil_prefix
    · obtain ⟨piece, rest, found, whole⟩ := exists_pieces_cons (by simpa using splits) later
      obtain ⟨rfl, -⟩ := List.cons.inj (whole.symm.trans cut)
      exact List.cons_prefix_cons.mpr ⟨rfl, ih found⟩

/-- A piece is a part of the text. -/
theorem infix_of_mem_pieces {text piece : List Char} (cut : piece ∈ pieces separates text) :
    piece <:+: text := by
  induction text generalizing piece with
  | nil =>
    obtain rfl := List.mem_singleton.mp cut
    exact List.nil_infix
  | cons c later ih =>
    have inner {other : List Char} (part : other <:+: later) : other <:+: c :: later :=
      part.trans (List.suffix_cons c later).isInfix
    by_cases splits : separates c = true
    · rw [pieces, if_pos splits] at cut
      rcases List.mem_cons.mp cut with rfl | cut
      · exact List.nil_infix
      · exact inner (ih cut)
    · obtain ⟨first, others, found, whole⟩ := exists_pieces_cons (by simpa using splits) later
      rw [whole] at cut
      rcases List.mem_cons.mp cut with rfl | cut
      · exact (prefix_of_pieces_eq_cons whole).isInfix
      · exact inner (ih (found ▸ List.mem_cons_of_mem first cut))

/-- What starts a text up to a character that it does not have starts the text before it. -/
theorem prefix_of_prefix_append_cons {c : Char} {needle before after : List Char}
    (apart : c ∉ needle) (starts : needle <+: before ++ c :: after) : needle <+: before := by
  induction before generalizing needle with
  | nil =>
    cases needle with
    | nil => exact List.nil_prefix
    | cons d needle =>
      obtain ⟨rfl, -⟩ := List.cons_prefix_cons.mp starts
      exact absurd List.mem_cons_self apart
  | cons b before ih =>
    cases needle with
    | nil => exact List.nil_prefix
    | cons d needle =>
      obtain ⟨rfl, goesOn⟩ := List.cons_prefix_cons.mp starts
      exact List.cons_prefix_cons.mpr ⟨rfl, ih (List.not_mem_of_not_mem_cons apart) goesOn⟩

/-- What a text holds on neither side of a character that it does not have, it does not hold. -/
theorem infix_or_infix_of_append_cons {c : Char} {needle before after : List Char}
    (apart : c ∉ needle) (held : needle <:+: before ++ c :: after) :
    needle <:+: before ∨ needle <:+: after := by
  induction before with
  | nil =>
    rcases List.infix_cons_iff.mp held with starts | held
    · have within : needle <+: [] := prefix_of_prefix_append_cons apart starts
      exact .inl within.isInfix
    · exact .inr held
  | cons b before ih =>
    rcases List.infix_cons_iff.mp held with starts | held
    · have within : needle <+: b :: before := prefix_of_prefix_append_cons apart starts
      exact .inl within.isInfix
    · exact (ih held).imp_left (·.trans (List.suffix_cons b before).isInfix)

/-- What words with single spaces between them hold that has no space, one of the words holds. -/
theorem exists_infix_of_infix_joinWords {needle : List Char} {words : List (List Char)}
    (filled : needle ≠ []) (unspaced : ' ' ∉ needle) (held : needle <:+: joinWords words) :
    ∃ word ∈ words, needle <:+: word := by
  induction words with
  | nil => exact absurd (List.infix_nil.mp held) filled
  | cons word later ih =>
    cases later with
    | nil =>
      have whole : joinWords [word] = word := by simp [joinWords, List.intercalate]
      exact ⟨word, List.mem_singleton_self word, whole ▸ held⟩
    | cons next others =>
      rw [joinWords, List.intercalate_cons_cons, List.append_assoc, List.singleton_append] at held
      rcases infix_or_infix_of_append_cons unspaced held with here | later
      · exact ⟨word, List.mem_cons_self, here⟩
      · obtain ⟨other, listed, held⟩ := ih later
        exact ⟨other, List.mem_cons_of_mem word listed, held⟩

/-- What is left of a trimmed text has a character that is not trimmed. -/
theorem exists_of_trimBy_ne_nil {drops : Char → Bool} {text : List Char}
    (left : trimBy drops text ≠ []) : ∃ c ∈ trimBy drops text, drops c = false := by
  have filled : (text.dropWhile drops).reverse.dropWhile drops ≠ [] := by
    simpa [trimBy] using left
  exact ⟨_, List.mem_reverse.mpr (List.head_mem filled), List.head_dropWhile_not drops filled⟩

end Formwright.Text
