import Formwright.Proofs.Text.Words
import Mathlib.Data.List.DropRight

/-!
# Words and what is around them

The words of a text are what stands in it without separators, between separators or at the ends of
the text (`mem_wordsBy_iff_exists`). So a text that is put together where no word goes on has the
words of both its parts, and what is cut into words at some separators and then at more of them is
cut as if at all at once. Only where characters are trimmed that are part of a word, another word is
left, which the text does not have (`exists_of_mem_wordsBy_trimBy`).
-/
namespace Formwright.Text

section

variable {separates : Char → Bool}

/-! ## Words of parts -/

/-- Where a text is put together beside a separator, or at one of its ends, no word is cut. -/
theorem wordsBy_append {before after : List Char}
    (edge : before.getLast?.all separates = true ∨ after.head?.all separates = true) :
    wordsBy separates (before ++ after) =
      wordsBy separates before ++ wordsBy separates after := by
  rcases edge with start | stop
  · rcases List.eq_nil_or_concat before with rfl | ⟨front, c, rfl⟩
    · rfl
    · rw [List.concat_eq_append] at start ⊢
      have separator : separates c = true := by simpa using start
      rw [List.append_assoc, List.singleton_append, wordsBy_append_cons separator,
        wordsBy_append_cons separator]
      simp [wordsBy, pieces]
  · cases after with
    | nil => simp [wordsBy, pieces]
    | cons c later =>
      have separator : separates c = true := stop
      rw [wordsBy_append_cons separator, wordsBy_cons separator]

/-- There are no words in a text of separators only. -/
theorem wordsBy_eq_nil_iff {text : List Char} :
    wordsBy separates text = [] ↔ ∀ c ∈ text, separates c = true := by
  induction text with
  | nil => exact iff_of_true rfl nofun
  | cons c later ih =>
    rw [List.forall_mem_cons]
    by_cases splits : separates c = true
    · rw [wordsBy_cons splits, ih]
      exact (and_iff_right splits).symm
    · obtain ⟨piece, others, -, whole⟩ := exists_pieces_cons (by simpa using splits) later
      simp [wordsBy, whole, splits]

/-- A text with characters and without separators is one word. -/
theorem wordsBy_of_whole {text : List Char} (filled : text ≠ [])
    (whole : ∀ c ∈ text, separates c = false) : wordsBy separates text = [text] := by
  rw [wordsBy, pieces_eq_singleton whole]
  simpa using filled

/-! ## What is around a word -/

/-- A text ends in a part of a word, if any, after a separator, if after anything. -/
theorem exists_last_part (separates : Char → Bool) (text : List Char) :
    ∃ front last, text = front ++ last ∧
      front.getLast?.all separates = true ∧ ∀ c ∈ last, separates c = false := by
  induction text using List.reverseRecOn with
  | nil => exact ⟨[], [], rfl, rfl, nofun⟩
  | append_singleton text c ih =>
    cases kind : separates c with
    | true => exact ⟨text ++ [c], [], by simp, by simp [kind], nofun⟩
    | false =>
      obtain ⟨front, last, rfl, start, inside⟩ := ih
      refine ⟨front, last ++ [c], by simp, start, List.forall_mem_append.mpr ⟨inside, ?_⟩⟩
      simp [kind]

/-- A text starts with a part of a word, if any, before a separator, if before anything. -/
theorem exists_first_part (separates : Char → Bool) (text : List Char) :
    ∃ first behind, text = first ++ behind ∧
      behind.head?.all separates = true ∧ ∀ c ∈ first, separates c = false := by
  induction text with
  | nil => exact ⟨[], [], rfl, rfl, nofun⟩
  | cons c text ih =>
    cases kind : separates c with
    | true => exact ⟨[], c :: text, rfl, kind, nofun⟩
    | false =>
      obtain ⟨first, behind, rfl, stop, inside⟩ := ih
      exact ⟨c :: first, behind, rfl, stop, List.forall_mem_cons.mpr ⟨kind, inside⟩⟩

/-- A word of a text stands between separators, or at an end of the text. -/
theorem exists_of_mem_wordsBy {text word : List Char} (listed : word ∈ wordsBy separates text) :
    ∃ before after, text = before ++ (word ++ after) ∧
      before.getLast?.all separates = true ∧ after.head?.all separates = true := by
  -- The first part of the text is the word, or the word is one of what follows its separator.
  induction size : text.length using Nat.strong_induction_on generalizing text with
  | _ size ih =>
    subst size
    obtain ⟨first, behind, rfl, stop, inside⟩ := exists_first_part separates text
    rw [wordsBy_append (.inr stop), List.mem_append] at listed
    rcases listed with here | later
    · rw [mem_wordsBy_iff, pieces_eq_singleton inside] at here
      obtain rfl := List.mem_singleton.mp here.1
      exact ⟨[], behind, rfl, rfl, stop⟩
    · cases behind with
      | nil => simp [wordsBy, pieces] at later
      | cons c rest =>
        have separator : separates c = true := stop
        rw [wordsBy_cons separator] at later
        obtain ⟨before, after, rfl, start, stop⟩ := ih _ (by simp; omega) later rfl
        refine ⟨first ++ c :: before, after, by simp, ?_, stop⟩
        rw [List.getLast?_append_of_ne_nil _ (List.cons_ne_nil c before), List.getLast?_cons]
        cases last : before.getLast? with
        | none => exact separator
        | some d => rwa [last] at start

/-- The words of a text are the runs without separators that stand between separators, or at an end
of the text. -/
theorem mem_wordsBy_iff_exists {text word : List Char} :
    word ∈ wordsBy separates text ↔ word ≠ [] ∧ (∀ c ∈ word, separates c = false) ∧
      ∃ before after, text = before ++ (word ++ after) ∧
        before.getLast?.all separates = true ∧ after.head?.all separates = true := by
  constructor
  · intro listed
    obtain ⟨cut, filled⟩ := mem_wordsBy_iff.mp listed
    exact ⟨filled, separates_of_mem_pieces cut, exists_of_mem_wordsBy listed⟩
  · rintro ⟨filled, whole, before, after, rfl, start, stop⟩
    rw [wordsBy_append (.inl start), wordsBy_append (.inr stop), wordsBy_of_whole filled whole]
    simp

/-! ## Words of words -/

/-- What is cut further is cut into words of the whole. -/
theorem mem_wordsBy_of_mem_wordsBy {coarse : Char → Bool}
    (finer : ∀ c, coarse c = true → separates c = true) {text word part : List Char}
    (listed : word ∈ wordsBy coarse text) (within : part ∈ wordsBy separates word) :
    part ∈ wordsBy separates text := by
  obtain ⟨before, after, rfl, start, stop⟩ := exists_of_mem_wordsBy listed
  have startToo : before.getLast?.all separates = true := by
    cases last : before.getLast? <;> simp_all
  have stopToo : after.head?.all separates = true := by
    cases next : after.head? <;> simp_all
  rw [wordsBy_append (.inl startToo), wordsBy_append (.inr stopToo)]
  simp [within]

/-- What words with single spaces between them are cut into is part of one of the words. -/
theorem exists_of_mem_wordsBy_joinWords (space : separates ' ' = true) {part : List Char}
    {words : List (List Char)} (cut : part ∈ wordsBy separates (joinWords words)) :
    ∃ word ∈ words, part ∈ wordsBy separates word := by
  induction words with
  | nil => simp [joinWords, wordsBy, pieces] at cut
  | cons word later ih =>
    cases later with
    | nil =>
      have whole : joinWords [word] = word := by simp [joinWords, List.intercalate]
      exact ⟨word, List.mem_singleton_self word, whole ▸ cut⟩
    | cons next others =>
      rw [joinWords, List.intercalate_cons_cons, List.append_assoc, List.singleton_append,
        wordsBy_append_cons space, List.mem_append] at cut
      rcases cut with here | later
      · exact ⟨word, List.mem_cons_self, here⟩
      · obtain ⟨other, listed, cut⟩ := ih later
        exact ⟨other, List.mem_cons_of_mem word listed, cut⟩

/-! ## Words of trimmed texts -/

/-- A trimmed text is what is left between two parts that are dropped. -/
theorem exists_of_trimBy (drops : Char → Bool) (text : List Char) :
    ∃ front back, text = front ++ (trimBy drops text ++ back) ∧
      (∀ c ∈ front, drops c = true) ∧ ∀ c ∈ back, drops c = true := by
  refine ⟨text.takeWhile drops, (text.dropWhile drops).rtakeWhile drops, ?_,
    fun _ => List.mem_takeWhile_imp, fun _ => List.mem_rtakeWhile_imp⟩
  have back : trimBy drops text ++ (text.dropWhile drops).rtakeWhile drops = text.dropWhile drops :=
    List.rdropWhile_append_rtakeWhile
  have front : text.takeWhile drops ++ text.dropWhile drops = text :=
    List.takeWhile_append_dropWhile
  exact front.symm.trans (congrArg (text.takeWhile drops ++ ·) back.symm)

/-- A trimmed text is a part of the text. -/
theorem infix_of_trimBy (drops : Char → Bool) (text : List Char) : trimBy drops text <:+: text := by
  obtain ⟨front, back, whole, -⟩ := exists_of_trimBy drops text
  exact ⟨front, back, by rw [List.append_assoc]; exact whole.symm⟩

/-- A trimmed text has nothing to trim at its ends. -/
theorem ends_of_trimBy (drops : Char → Bool) (text : List Char) :
    (∀ c ∈ (trimBy drops text).head?, drops c = false) ∧
      ∀ c ∈ (trimBy drops text).getLast?, drops c = false := by
  have first {c : Char} {text : List Char} (found : c ∈ (text.dropWhile drops).head?) :
      drops c = false := by
    have stopped := List.head?_dropWhile_not drops text
    rwa [Option.mem_def.mp found] at stopped
  constructor
  · intro c found
    obtain ⟨back, whole⟩ : trimBy drops text <+: text.dropWhile drops :=
      List.rdropWhile_prefix drops _
    have starts : c ∈ (text.dropWhile drops).head? := by
      rw [← whole, List.head?_append, Option.mem_def.mp found]
      rfl
    exact first starts
  · intro c found
    rw [trimBy, List.getLast?_reverse] at found
    exact first found

/-- A word before which a text is trimmed may go on in what is dropped. -/
theorem exists_clipped_before {drops : Char → Bool} {lead before : List Char}
    (dropped : ∀ c ∈ lead, drops c = true) (start : before.getLast?.all separates = true) :
    ∃ front clipped, lead ++ before = front ++ clipped ∧ front.getLast?.all separates = true ∧
      (∀ c ∈ clipped, separates c = false) ∧ ∀ c ∈ clipped, drops c = true := by
  cases before with
  | nil =>
    obtain ⟨front, clipped, rfl, starts, within⟩ := exists_last_part separates lead
    exact ⟨front, clipped, by simp, starts, within, fun c member => dropped c (by simp [member])⟩
  | cons b others =>
    refine ⟨lead ++ b :: others, [], by simp, ?_, nofun, nofun⟩
    rwa [List.getLast?_append_of_ne_nil _ (List.cons_ne_nil b others)]

/-- A word after which a text is trimmed may go on in what is dropped. -/
theorem exists_clipped_after {drops : Char → Bool} {after trail : List Char}
    (dropped : ∀ c ∈ trail, drops c = true) (stop : after.head?.all separates = true) :
    ∃ clipped behind, after ++ trail = clipped ++ behind ∧ behind.head?.all separates = true ∧
      (∀ c ∈ clipped, separates c = false) ∧ ∀ c ∈ clipped, drops c = true := by
  cases after with
  | nil =>
    obtain ⟨clipped, behind, rfl, stops, within⟩ := exists_first_part separates trail
    exact ⟨clipped, behind, rfl, stops, within, fun c member => dropped c (by simp [member])⟩
  | cons b others => exact ⟨[], b :: others ++ trail, rfl, stop, nofun, nofun⟩

/-- A word of a trimmed text is what is left of a word of the text when characters that are dropped
are clipped from its ends. -/
theorem exists_of_mem_wordsBy_trimBy {drops : Char → Bool} {text word : List Char}
    (listed : word ∈ wordsBy separates (trimBy drops text)) :
    ∃ before after, before ++ (word ++ after) ∈ wordsBy separates text ∧
      ∀ c ∈ before ++ after, drops c = true := by
  obtain ⟨lead, trail, whole, dropped, droppedToo⟩ := exists_of_trimBy drops text
  obtain ⟨filled, inside, before, after, left, start, stop⟩ := mem_wordsBy_iff_exists.mp listed
  obtain ⟨front, clipped, atFront, starts, within, drop⟩ := exists_clipped_before dropped start
  obtain ⟨clippedToo, behind, atEnd, stops, withinToo, dropToo⟩ :=
    exists_clipped_after droppedToo stop
  refine ⟨clipped, clippedToo, mem_wordsBy_iff_exists.mpr ⟨by simp [filled], ?_, front, behind, ?_,
    starts, stops⟩, List.forall_mem_append.mpr ⟨drop, dropToo⟩⟩
  · exact List.forall_mem_append.mpr ⟨within, List.forall_mem_append.mpr ⟨inside, withinToo⟩⟩
  · calc text = lead ++ (trimBy drops text ++ trail) := whole
      _ = (lead ++ before) ++ (word ++ (after ++ trail)) := by simp [left]
      _ = front ++ (clipped ++ (word ++ clippedToo) ++ behind) := by simp [atFront, atEnd]

end

/-! ## Runs -/

/-- The runs of word characters in a text. -/
def runs (text : List Char) : List (List Char) := wordsBy (!isWord ·) text

end Formwright.Text
