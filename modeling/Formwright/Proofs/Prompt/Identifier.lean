import Formwright.Proofs.Text.Words
import Formwright.Prompt.Identifier

/-!
# Identifiers of fields

Whatever a token says, the name made of it can be used as a key in code, and stays usable with a
number after it. The search for a free name always ends at one, and at the first there is.
-/
namespace Formwright
open Text

/-! ## Identifiers -/

/-- Reserved words are written in lower case. -/
theorem all_isLower_reservedWords :
    ∀ word ∈ Code.reservedWords, word.toList.all Char.isLower = true := by
  decide

/-- A text that starts and goes on like an identifier is one if some character of it is not in lower
case. -/
theorem isIdentifier_of_mark {text : String} {first mark : Char} {later : List Char}
    (spelled : text.toList = first :: later) (starts : Code.startsIdentifier first = true)
    (goesOn : later.all Code.continuesIdentifier = true)
    (marked : mark ∈ text.toList) (other : mark.isLower = false) :
    Code.isIdentifier text = true := by
  have free : text ∉ Code.reservedWords := by
    intro reserved
    have lower := List.all_eq_true.mp (all_isLower_reservedWords text reserved) mark marked
    rw [lower] at other
    exact absurd other (by decide)
  rw [Code.isIdentifier, spelled]
  simp only [Bool.and_eq_true, decide_eq_true_eq]
  exact ⟨⟨starts, goesOn⟩, free⟩

/-- What an identifier starts with and goes on with. -/
theorem exists_of_isIdentifier {text : String} (sound : Code.isIdentifier text = true) :
    ∃ first later, text.toList = first :: later ∧ Code.startsIdentifier first = true ∧
      later.all Code.continuesIdentifier = true := by
  unfold Code.isIdentifier at sound
  split at sound
  · simp at sound
  · next first later spelled =>
    simp only [Bool.and_eq_true] at sound
    exact ⟨first, later, spelled, sound.1.1, sound.1.2⟩

/-- An identifier is not reserved. -/
theorem notMem_reservedWords_of_isIdentifier {text : String}
    (sound : Code.isIdentifier text = true) : text ∉ Code.reservedWords := by
  unfold Code.isIdentifier at sound
  split at sound
  · simp at sound
  · simp only [Bool.and_eq_true, decide_eq_true_eq] at sound
    exact sound.2

/-- Letters and digits go on in identifiers. -/
theorem all_continuesIdentifier {text : List Char} (plain : ∀ c ∈ text, c.isAlphanum = true) :
    text.all Code.continuesIdentifier = true := by
  rw [List.all_eq_true]
  intro c member
  simp [Code.continuesIdentifier, plain c member]

/-- A digit is not in lower case. -/
theorem isLower_of_isDigit {c : Char} (digit : c.isDigit = true) : c.isLower = false := by
  have ascii := toNat_lt_of_isAlphanum (Bool.or_eq_true_iff.mpr (.inr digit))
  revert digit
  exact @forall_ascii (fun c => c.isDigit = true → c.isLower = false) (by decide +kernel) c ascii

/-- A number is written with at least one digit. -/
theorem exists_mem_toString (number : Nat) : ∃ c, c ∈ (toString number).toList := by
  rw [Nat.toString_eq_repr, Nat.repr_eq_ofList_toDigits, String.toList_ofList]
  exact List.exists_mem_of_ne_nil _ Nat.toDigits_ne_nil

/-- An identifier is one with a number after it too. -/
theorem isIdentifier_numbered {name : String} (sound : Code.isIdentifier name = true)
    (number : Nat) : Code.isIdentifier (numbered name number) = true := by
  obtain ⟨first, later, spelled, starts, goesOn⟩ := exists_of_isIdentifier sound
  obtain ⟨digit, written⟩ := exists_mem_toString number
  have digits : (toString number).toList.all Code.continuesIdentifier = true := by
    apply all_continuesIdentifier
    intro c member
    simp [Char.isAlphanum, isDigit_of_mem_toString member]
  have extended : (numbered name number).toList = first :: (later ++ (toString number).toList) := by
    rw [numbered, String.toList_append, spelled, List.cons_append]
  have marked : digit ∈ (numbered name number).toList := by
    rw [numbered, String.toList_append]
    exact List.mem_append_right _ written
  refine isIdentifier_of_mark extended starts ?_ marked
    (isLower_of_isDigit (isDigit_of_mem_toString written))
  rw [List.all_append, goesOn, digits]
  rfl

/-! ## Tokens in camel case -/

/-- A letter or digit stays one in upper case. -/
theorem isAlphanum_toUpper {c : Char} (plain : c.isAlphanum = true) :
    c.toUpper.isAlphanum = true := by
  have ascii := toNat_lt_of_isAlphanum plain
  revert plain
  exact @forall_ascii (fun c => c.isAlphanum = true → c.toUpper.isAlphanum = true)
    (by decide +kernel) c ascii

/-- A letter or digit in upper case is no small letter. -/
theorem isLower_toUpper {c : Char} (plain : c.isAlphanum = true) : c.toUpper.isLower = false :=
  @forall_ascii (fun c => c.toUpper.isLower = false) (by decide +kernel) c
    (toNat_lt_of_isAlphanum plain)

/-- A word of letters and digits consists of them with its first letter in upper case too. -/
theorem isAlphanum_of_mem_capitalizeAscii {word : List Char}
    (plain : ∀ c ∈ word, c.isAlphanum = true) :
    ∀ c ∈ capitalizeAscii word, c.isAlphanum = true := by
  cases word with
  | nil => exact plain
  | cons first later =>
    rw [List.forall_mem_cons] at plain
    exact List.forall_mem_cons.mpr ⟨isAlphanum_toUpper plain.1, plain.2⟩

/-- Words of letters and digits consist of them in camel case too. -/
theorem isAlphanum_of_mem_camelCase {words : List (List Char)}
    (plain : ∀ word ∈ words, ∀ c ∈ word, c.isAlphanum = true) :
    ∀ c ∈ camelCase words, c.isAlphanum = true := by
  cases words with
  | nil => nofun
  | cons first later =>
    rw [List.forall_mem_cons] at plain
    intro c member
    rcases List.mem_append.mp member with inside | member
    · exact plain.1 c inside
    · obtain ⟨word, listed, inside⟩ := List.mem_flatMap.mp member
      exact isAlphanum_of_mem_capitalizeAscii (plain.2 word listed) c inside

/-- The words of letters and digits in a text consist of them. -/
theorem isAlphanum_of_mem_wordsBy {text word : List Char}
    (listed : word ∈ wordsBy (fun c => !c.isAlphanum) text) : ∀ c ∈ word, c.isAlphanum = true := by
  intro c inside
  simpa using separates_of_mem_pieces (mem_wordsBy_iff.mp listed).1 c inside

/-- The name made of a token is an identifier. -/
theorem isIdentifier_identifierFor (token : String) :
    Code.isIdentifier (identifierFor token) = true := by
  have plain : ∀ c ∈ camelCase (wordsBy (fun c => !c.isAlphanum)
      ((Text.lower token.toList).map withoutMark)), c.isAlphanum = true :=
    isAlphanum_of_mem_camelCase fun _ => isAlphanum_of_mem_wordsBy
  simp only [identifierFor]
  split
  · decide
  · next first later joined =>
    rw [joined] at plain ⊢
    have goesOn := all_continuesIdentifier plain
    split
    · next digit =>
      have spelled : ("field" ++ String.ofList (first :: later)).toList =
          'f' :: ("ield".toList ++ first :: later) := by
        simp
      refine isIdentifier_of_mark spelled (by decide) ?_ (by simp : first ∈ _)
        (isLower_of_isDigit digit)
      rw [List.all_append, goesOn]
      decide
    · next letter =>
      split
      · next sound => exact sound
      · have starts : Code.startsIdentifier first = true := by
          have whole := plain first List.mem_cons_self
          simp_all [Code.startsIdentifier, Char.isAlphanum]
        have spelled : (String.ofList (first :: later) ++ "Field").toList =
            first :: (later ++ "Field".toList) := by
          simp
        refine isIdentifier_of_mark spelled starts ?_ (by simp : 'F' ∈ _) (by decide)
        rw [List.all_cons, Bool.and_eq_true] at goesOn
        rw [List.all_append, goesOn.2]
        decide

/-! ## Free names -/

/-- Different numbers make different names. -/
theorem numbered_injective {name : String} {left right : Nat}
    (same : numbered name left = numbered name right) : left = right := by
  have spelled := congrArg String.toList same
  simp only [numbered, String.toList_append] at spelled
  have digits := congrArg (Nat.ofDigitChars 10 · 0) (List.append_cancel_left spelled)
  simpa [Nat.toString_eq_ofList_toDigits] using digits

/-- The search for a number starts at the given one. -/
theorem le_freeNumber (name : String) (bound taken : List String) (number : Nat) :
    number ≤ freeNumber name bound taken number := by
  induction bound generalizing taken number with
  | nil => exact Nat.le_refl number
  | cons _ later ih =>
    rw [freeNumber]
    split
    · exact Nat.le_of_succ_le (ih _ _)
    · exact Nat.le_refl number

/-- The search for a number ends at one whose name is free if its bound is as long as the list of
the taken names. -/
theorem numbered_freeNumber_notMem {name : String} {bound taken : List String}
    (enough : taken.length ≤ bound.length) (number : Nat) :
    numbered name (freeNumber name bound taken number) ∉ taken := by
  induction bound generalizing taken number with
  | nil => simp [List.length_eq_zero_iff.mp (Nat.le_zero.mp enough)]
  | cons _ later ih =>
    rw [freeNumber]
    split
    · next used =>
      intro clash
      have shorter : (taken.erase (numbered name number)).length ≤ later.length := by
        rw [List.length_erase_of_mem used]
        exact Nat.sub_le_of_le_add enough
      have beyond := le_freeNumber name later (taken.erase (numbered name number)) (number + 1)
      have other : numbered name (freeNumber name later (taken.erase (numbered name number))
          (number + 1)) ≠ numbered name number := by
        intro same
        have := numbered_injective same
        omega
      exact ih shorter (number + 1) ((List.mem_erase_of_ne other).mpr clash)
    · next free => exact free

/-- A free name is not taken. -/
theorem freeName_notMem (taken : List String) (wanted : String) :
    freeName taken wanted ∉ taken := by
  unfold freeName
  split
  · next free => exact free
  · exact numbered_freeNumber_notMem (Nat.le_refl _) 2

/-- A free name is an identifier if the wanted one is. -/
theorem isIdentifier_freeName {wanted : String} (sound : Code.isIdentifier wanted = true)
    (taken : List String) : Code.isIdentifier (freeName taken wanted) = true := by
  unfold freeName
  split
  · exact sound
  · exact isIdentifier_numbered sound _

end Formwright
