import Formwright.Diagnostic
import Formwright.Document.Basic
import Formwright.Node.Basic

/-!
# Words and what they stand for

Each vocabulary writes its members as words that differ, so a written member is read back, and a
text is a word exactly when it stands for a member.
-/
namespace Formwright

/-- A vocabulary whose words stand for the members that they are written for. -/
class LawfulVocabulary (α : Type) [Vocabulary α] : Prop where
  /-- The word of a member stands for it. -/
  ofWord?_word : ∀ member : α, Vocabulary.ofWord? (Vocabulary.word member) = some member

instance : LawfulVocabulary DocumentKind where
  ofWord?_word member := by cases member <;> decide

instance : LawfulVocabulary Scaffold where
  ofWord?_word member := by cases member <;> decide

instance : LawfulVocabulary Control where
  ofWord?_word member := by cases member <;> decide

instance : LawfulVocabulary ActionKind where
  ofWord?_word member := by cases member <;> decide

instance : LawfulVocabulary ActionVariant where
  ofWord?_word member := by cases member <;> decide

instance : LawfulVocabulary LiveRegion where
  ofWord?_word member := by cases member <;> decide

instance : LawfulVocabulary Spacing where
  ofWord?_word member := by cases member <;> decide

instance : LawfulVocabulary Align where
  ofWord?_word member := by cases member <;> decide

instance : LawfulVocabulary Justify where
  ofWord?_word member := by cases member <;> decide

instance : LawfulVocabulary HttpMethod where
  ofWord?_word member := by cases member <;> decide

instance : LawfulVocabulary ChartKind where
  ofWord?_word member := by cases member <;> decide

instance : LawfulVocabulary Direction where
  ofWord?_word member := by cases member <;> decide

instance : LawfulVocabulary Side where
  ofWord?_word member := by cases member <;> decide

instance : LawfulVocabulary NodeKind where
  ofWord?_word member := by cases member <;> decide

namespace Vocabulary

variable {α : Type} [Vocabulary α]

/-- A text that stands for a member is its word. -/
theorem word_of_ofWord? {text : String} {member : α} (found : ofWord? text = some member) :
    word member = text := by
  simpa using List.find?_some found

/-- A text is one of the words exactly when it stands for a member. -/
theorem mem_words_iff (text : String) :
    text ∈ words α ↔ ∃ member : α, ofWord? text = some member := by
  constructor
  · intro listed
    obtain ⟨member, present, rfl⟩ := List.mem_map.mp listed
    cases found : ofWord? (α := α) (word member) with
    | some other => exact ⟨other, rfl⟩
    | none => simpa using List.find?_eq_none.mp found member present
  · rintro ⟨member, found⟩
    exact List.mem_map.mpr ⟨member, List.mem_of_find?_eq_some found, word_of_ofWord? found⟩

/-- The word of a member is one of the words. -/
@[simp]
theorem word_mem_words [LawfulVocabulary α] (member : α) : word member ∈ words α :=
  (mem_words_iff _).mpr ⟨member, LawfulVocabulary.ofWord?_word member⟩

/-- Different members have different words. -/
theorem word_inj [LawfulVocabulary α] {left right : α} (same : word left = word right) :
    left = right := by
  have found := LawfulVocabulary.ofWord?_word left
  rw [same, LawfulVocabulary.ofWord?_word] at found
  exact (Option.some.inj found).symm

end Vocabulary
end Formwright
