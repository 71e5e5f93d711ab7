import Formwright.Node.Id

/-!
# Printed ids

The printed form of an id is read back as the id and has 36 bytes, so whether a printed id passes as
one of version 4 is decided by its version alone. Derived ids are of version 4.
-/
namespace Formwright.NodeId

/-! ## Digits -/

/-- A hexadecimal digit is read as its value. -/
theorem hexValue?_hexDigit :
    ∀ digit : Fin 16, hexValue? (Json.hexDigit digit.val) = some digit := by decide

/-- A hexadecimal digit takes one byte. -/
theorem utf8Size_hexDigit : ∀ digit : Fin 16, (Json.hexDigit digit.val).utf8Size = 1 := by decide

/-- Hexadecimal digits are read as their values. -/
theorem mapM_hexValue? (digits : List (Fin 16)) :
    (digits.map fun digit => Json.hexDigit digit.val).mapM hexValue? = some digits := by
  induction digits with
  | nil => rfl
  | cons digit later ih =>
    rw [List.map_cons, List.mapM_cons, hexValue?_hexDigit, ih]
    rfl

/-- The digits of an id are read as the id. -/
theorem ofPlain?_hexDigits (nodeId : NodeId) : ofPlain? nodeId.hexDigits = some nodeId := by
  rw [ofPlain?, hexDigits, mapM_hexValue?]
  simp [ofDigits?, nodeId.length_digits]

/-- An id has 32 digits. -/
theorem length_hexDigits (nodeId : NodeId) : nodeId.hexDigits.length = 32 := by
  rw [hexDigits, List.length_map, nodeId.length_digits]

/-! ## Groups -/

/-- 32 characters are five groups of 8, 4, 4, 4 and 12. -/
theorem exists_groups {chars : List Char} (length : chars.length = 32) :
    ∃ a b c d e : List Char, chars = a ++ (b ++ (c ++ (d ++ e))) ∧ a.length = 8 ∧ b.length = 4 ∧
      c.length = 4 ∧ d.length = 4 ∧ e.length = 12 := by
  refine ⟨chars.take 8, (chars.drop 8).take 4, (chars.drop 12).take 4, (chars.drop 16).take 4,
    chars.drop 20, ?_, by simp [length], by simp [length], by simp [length], by simp [length],
    by simp [length]⟩
  rw [show chars.drop 20 = (chars.drop 16).drop 4 by rw [List.drop_drop],
    List.take_append_drop, show chars.drop 16 = (chars.drop 12).drop 4 by rw [List.drop_drop],
    List.take_append_drop, show chars.drop 12 = (chars.drop 8).drop 4 by rw [List.drop_drop],
    List.take_append_drop, List.take_append_drop]

section

variable {a b c d e : List Char}

/-- The groups of an id with hyphens between them. -/
theorem intercalate_groups (ofA : a.length = 8) (ofB : b.length = 4) (ofC : c.length = 4)
    (ofD : d.length = 4) (ofE : e.length = 12) :
    ['-'].intercalate (groups groupSizes (a ++ (b ++ (c ++ (d ++ e))))) =
      a ++ '-' :: (b ++ '-' :: (c ++ '-' :: (d ++ '-' :: e))) := by
  have whole : e.take 12 = e := List.take_of_length_le (by omega)
  simp [groups, groupSizes, List.intercalate, ofA, ofB, ofC, ofD, whole]

/-- Groups with hyphens between them are read as the groups without them. -/
theorem ofHyphenated?_groups (ofA : a.length = 8) (ofB : b.length = 4) (ofC : c.length = 4)
    (ofD : d.length = 4) (ofE : e.length = 12) :
    ofHyphenated? (a ++ '-' :: (b ++ '-' :: (c ++ '-' :: (d ++ '-' :: e)))) =
      ofPlain? (a ++ (b ++ (c ++ (d ++ e)))) := by
  have whole : e.take 12 = e := List.take_of_length_le (by omega)
  simp [ofHyphenated?, groups, List.getElem?_append, List.getElem?_cons, ofA, ofB, ofC, ofD, ofE,
    whole]

end

/-- The characters of a printed id. -/
theorem exists_print_groups (nodeId : NodeId) :
    ∃ a b c d e : List Char, nodeId.hexDigits = a ++ (b ++ (c ++ (d ++ e))) ∧ a.length = 8 ∧
      b.length = 4 ∧ c.length = 4 ∧ d.length = 4 ∧ e.length = 12 ∧
      nodeId.print.toList = a ++ '-' :: (b ++ '-' :: (c ++ '-' :: (d ++ '-' :: e))) := by
  obtain ⟨a, b, c, d, e, digits, ofA, ofB, ofC, ofD, ofE⟩ := exists_groups nodeId.length_hexDigits
  refine ⟨a, b, c, d, e, digits, ofA, ofB, ofC, ofD, ofE, ?_⟩
  rw [print, String.toList_ofList, digits, intercalate_groups ofA ofB ofC ofD ofE]

/-! ## Printed ids -/

/-- A printed id is read as the id. -/
@[simp]
theorem parse?_print (nodeId : NodeId) : parse? nodeId.print = some nodeId := by
  obtain ⟨a, b, c, d, e, digits, ofA, ofB, ofC, ofD, ofE, printed⟩ := nodeId.exists_print_groups
  have length : nodeId.print.toList.length = 36 := by
    simp [printed, ofA, ofB, ofC, ofD, ofE]
  simp only [parse?, length, Nat.reduceEqDiff, ↓reduceIte]
  rw [printed, ofHyphenated?_groups ofA ofB ofC ofD ofE, ← digits, ofPlain?_hexDigits]

/-- A text takes as many bytes as it has characters where each takes one. -/
theorem utf8ByteSize_ofList {chars : List Char} (single : ∀ c ∈ chars, c.utf8Size = 1) :
    (String.ofList chars).utf8ByteSize = chars.length := by
  induction chars with
  | nil => rfl
  | cons c later ih =>
    rw [String.ofList_cons, String.utf8ByteSize_append, String.utf8ByteSize_singleton,
      single c List.mem_cons_self, ih fun d member => single d (List.mem_cons_of_mem c member),
      List.length_cons, Nat.add_comm]

/-- A printed id takes 36 bytes. -/
theorem utf8ByteSize_print (nodeId : NodeId) : nodeId.print.utf8ByteSize = 36 := by
  obtain ⟨a, b, c, d, e, digits, ofA, ofB, ofC, ofD, ofE, printed⟩ := nodeId.exists_print_groups
  have digitSize : ∀ c ∈ nodeId.hexDigits, c.utf8Size = 1 := by
    intro c member
    obtain ⟨digit, _, rfl⟩ := List.mem_map.mp member
    exact utf8Size_hexDigit digit
  have single : ∀ c ∈ nodeId.print.toList, c.utf8Size = 1 := by
    intro c member
    by_cases hyphen : c = '-'
    · subst hyphen
      decide
    · apply digitSize
      rw [printed] at member
      rw [digits]
      simpa [hyphen] using member
  have size := utf8ByteSize_ofList single
  rw [String.ofList_toList, printed] at size
  simpa [ofA, ofB, ofC, ofD, ofE] using size

/-- A printed id passes as one of version 4 exactly when its version is 4. -/
@[simp]
theorem isVersion4_print (nodeId : NodeId) :
    isVersion4 nodeId.print = true ↔ nodeId.version.val = 4 := by
  simp [isVersion4, utf8ByteSize_print]

/-! ## Derived ids -/

/-- The version of stamped half bytes is 4. -/
theorem getElem_stamp (digits : List (Fin 16)) (inside : 12 < (stamp digits).length) :
    (stamp digits)[12] = digitOf 4 := by
  simp [stamp]

/-- A derived id is of version 4. -/
theorem version_derived (seed : String) : (derived seed).version.val = 4 := by
  rw [version, List.get_eq_getElem]
  simp only [derived, getElem_stamp]
  rfl

end Formwright.NodeId
