import Formwright.Proofs.Code.ComponentName
import Formwright.Proofs.Text.Run

/-!
# Names in Pascal case

The words of a text are put together to a name that is an identifier, or to nothing if the text has
no letters and digits. The words of that name put together are the name again, also if it has a low
line before a digit. So the name of a component is an identifier, and asked for it stays as it is
(`componentName_isIdentifier_and_stable`).
-/
namespace Formwright.Code
open Text

/-! ## Words put together -/

/-- The letters and digits of the words in a text, the first of each word in upper case. -/
def capitals (text : List Char) : List Char :=
  (wordsBy (fun c => !c.isAlphanum) text).flatMap capitalizeAscii

/-- The name that some letters and digits make, with a low line before a leading digit. -/
def nameOf : List Char → String
  | [] => ""
  | first :: later =>
    String.ofList (if first.isDigit then '_' :: first :: later else first :: later)

/-- A text in Pascal case is the name that its capitals make. -/
theorem pascalCase_eq (text : String) : pascalCase text = nameOf (capitals text.toList) := by
  have joined : (wordsBy (fun c => !c.isAlphanum) text.toList).flatMap capitalizeAscii =
      capitals text.toList := rfl
  unfold pascalCase
  rw [joined]
  cases capitals text.toList <;> rfl

/-- Letters and digits of which the first is not in lower case. -/
structure IsHeaded (chars : List Char) : Prop where
  plain : ∀ c ∈ chars, c.isAlphanum = true
  head : ∀ c ∈ chars.head?, c.isLower = false

/-- There are no capitals if there are no words, and else they start with the first character of the
first word in upper case. -/
theorem capitals_cases (text : List Char) :
    wordsBy (fun c => !c.isAlphanum) text = [] ∧ capitals text = [] ∨
      ∃ initial word others, wordsBy (fun c => !c.isAlphanum) text = (initial :: word) :: others ∧
        capitals text = initial.toUpper :: (word ++ others.flatMap capitalizeAscii) := by
  unfold capitals
  cases listed : wordsBy (fun c => !c.isAlphanum) text with
  | nil => exact .inl ⟨rfl, rfl⟩
  | cons word others =>
    have found : word ∈ wordsBy (fun c => !c.isAlphanum) text := listed ▸ List.mem_cons_self
    obtain ⟨initial, later, rfl⟩ := List.exists_cons_of_ne_nil (mem_wordsBy_iff.mp found).2
    exact .inr ⟨initial, later, others, rfl, rfl⟩

/-- The capitals of a text do not start in lower case. -/
theorem isHeaded_capitals (text : List Char) : IsHeaded (capitals text) := by
  constructor
  · intro c member
    obtain ⟨word, listed, inside⟩ := List.mem_flatMap.mp member
    exact isAlphanum_of_mem_capitalizeAscii (isAlphanum_of_mem_wordsBy listed) c inside
  · intro c first
    rcases capitals_cases text with ⟨-, none⟩ | ⟨initial, word, others, words, some⟩
    · simp [none] at first
    · obtain rfl : initial.toUpper = c := by simpa [some] using first
      have listed : initial :: word ∈ wordsBy (fun c => !c.isAlphanum) text :=
        words ▸ List.mem_cons_self
      exact isLower_toUpper (isAlphanum_of_mem_wordsBy listed initial List.mem_cons_self)

/-- The name that letters and digits make has them for its capitals if they do not start in lower
case. -/
theorem capitals_nameOf {chars : List Char} (headed : IsHeaded chars) :
    capitals (nameOf chars).toList = chars := by
  obtain ⟨plain, head⟩ := headed
  cases chars with
  | nil => rfl
  | cons first later =>
    have upper : first.toUpper = first :=
      @forall_ascii (fun c => c.isLower = false → c.toUpper = c) (by decide +kernel) first
        (toNat_lt_of_isAlphanum (plain first List.mem_cons_self)) (head first rfl)
    have word : wordsBy (fun c => !c.isAlphanum) (first :: later) = [first :: later] :=
      wordsBy_of_whole (List.cons_ne_nil first later) fun c member => by simp [plain c member]
    have alone : capitals (first :: later) = first :: later := by
      rw [capitals, word, List.flatMap_singleton, capitalizeAscii, upper]
    rw [nameOf, String.toList_ofList]
    split
    · -- The low line separates nothing from the word after it.
      have apart : wordsBy (fun c => !c.isAlphanum) ('_' :: first :: later) =
          wordsBy (fun c => !c.isAlphanum) (first :: later) := rfl
      rw [capitals, apart]
      exact alone
    · exact alone

/-- A text in Pascal case stays the same in Pascal case. -/
theorem pascalCase_pascalCase (text : String) : pascalCase (pascalCase text) = pascalCase text := by
  rw [pascalCase_eq (pascalCase text), pascalCase_eq text,
    capitals_nameOf (isHeaded_capitals text.toList)]

/-- A text is nothing in Pascal case exactly if it has no letters and digits. -/
theorem pascalCase_eq_empty_iff (text : String) :
    pascalCase text = "" ↔ ∀ c ∈ text.toList, c.isAlphanum = false := by
  have named : pascalCase text = "" ↔ capitals text.toList = [] := by
    rw [pascalCase_eq]
    cases capitals text.toList with
    | nil => simp [nameOf]
    | cons first later =>
      rw [nameOf]
      split <;> simp
  have wordless : capitals text.toList = [] ↔
      wordsBy (fun c => !c.isAlphanum) text.toList = [] := by
    rcases capitals_cases text.toList with ⟨none, noneToo⟩ | ⟨initial, word, others, some, someToo⟩
    · exact iff_of_true noneToo none
    · simp [some, someToo]
  rw [named, wordless, wordsBy_eq_nil_iff]
  simp

/-! ## Identifiers -/

/-- What starts and goes on like an identifier and is not reserved is one. -/
theorem isIdentifier_of_isName {name : String} (sound : isName name = true)
    (free : name ∉ reservedWords) : isIdentifier name = true := by
  obtain ⟨first, later, spelled, starts, goesOn⟩ := exists_of_isName sound
  have within : later.all continuesIdentifier = true := List.all_eq_true.mpr goesOn
  simp only [isIdentifier, spelled, starts, within, free, not_false_eq_true, decide_true,
    Bool.and_self]

/-- A text in Pascal case is an identifier if it is anything. -/
theorem isIdentifier_pascalCase {text : String} (filled : (pascalCase text).isEmpty = false) :
    isIdentifier (pascalCase text) = true :=
  isIdentifier_of_isName (isName_pascalCase filled)
    (notMem_of_not_lower all_isLower_reservedWords (pascalCase_not_lower filled))

/-- The name of a component is an identifier. -/
theorem isIdentifier_componentName (document : Document) (options : Options) :
    isIdentifier (componentName document options) = true :=
  isIdentifier_of_isName (isName_componentName document options)
    (componentName_notMem_reservedWords document options)

/-- The name of a component is an identifier, and any document's component has it if it is asked
for. A text in Pascal case is an identifier, or nothing, which it is exactly if the text has no
letters and digits; and it stays the same in Pascal case. -/
theorem componentName_isIdentifier_and_stable :
    (∀ document options, isIdentifier (componentName document options) = true ∧
      ∀ (other : Document) (otherOptions : Options),
        componentName other
            { otherOptions with componentName := some (componentName document options) } =
          componentName document options) ∧
    ∀ text, (pascalCase text = "" ∨ isIdentifier (pascalCase text) = true) ∧
      (pascalCase text = "" ↔ ∀ c ∈ text.toList, c.isAlphanum = false) ∧
      pascalCase (pascalCase text) = pascalCase text := by
  refine ⟨fun document options => ⟨isIdentifier_componentName document options, ?_⟩,
    fun text => ⟨?_, pascalCase_eq_empty_iff text, pascalCase_pascalCase text⟩⟩
  · intro other otherOptions
    have sound := isIdentifier_componentName document options
    generalize componentName document options = name at sound
    exact if_pos sound
  · by_cases empty : pascalCase text = ""
    · exact .inl empty
    · exact .inr (isIdentifier_pascalCase (by simpa using empty))

end Formwright.Code
