import Formwright.Json.Quoted
import Formwright.Json.Scan

/-!
# Quoted texts are scanned back

A text in quotes is scanned as itself, whatever follows the closing quote. So a quoted text is told
from all that may stand after it: two quoted texts, each with something after it, are written alike
only if the texts are the same.
-/
namespace Formwright.Json

/-! ## Characters -/

/-- A hexadecimal digit is one byte and is scanned as its value. -/
theorem hexValue_hexDigit : ∀ digit : Fin 16, (hexDigit digit.val).utf8Size = 1 ∧
    hexValue (hexDigit digit.val) = some digit.val := by decide

/-- The code of a control character is scanned as the character. -/
theorem unicodeEscape_control {c : Char} (control : c.toNat < 0x20) (more : List Char) :
    unicodeEscape ('0' :: '0' :: hexDigit (c.toNat / 16) :: hexDigit (c.toNat % 16) :: more) =
      .ok (c, more) := by
  obtain ⟨highSize, highValue⟩ := hexValue_hexDigit ⟨c.toNat / 16, by omega⟩
  obtain ⟨lowSize, lowValue⟩ := hexValue_hexDigit ⟨c.toNat % 16, by omega⟩
  have zero : '0'.utf8Size = 1 ∧ hexValue '0' = some 0 := by decide
  have four : fourHex ('0' :: '0' :: hexDigit (c.toNat / 16) :: hexDigit (c.toNat % 16) :: more) =
      .ok (c.toNat, more) := by
    have whole : c.toNat / 16 * 16 + c.toNat % 16 = c.toNat := Nat.div_add_mod' _ _
    simp [fourHex, byteLength, highSize, lowSize, zero, highValue, lowValue, whole]
  have high : isHighSurrogate c.toNat = false := by
    simp only [isHighSurrogate, Bool.and_eq_false_iff, decide_eq_false_iff_not]
    omega
  have low : isLowSurrogate c.toNat = false := by
    simp only [isLowSurrogate, Bool.and_eq_false_iff, decide_eq_false_iff_not]
    omega
  simp [unicodeEscape, four, high, low, bind, Except.bind]

/-- The characters with an escape of one letter. -/
def namedEscapes : List Char := ['"', '\\', '\n', '\r', '\t', '\x08', '\x0c']

/-- A character stands between quotes as an escape that is scanned as it, or as itself where that is
neither a quote nor an escape nor a control character. -/
theorem quoteChar_cases (c : Char) :
    (∃ escaped, quoteChar c = '\\' :: escaped ∧
      ∀ more, escape (escaped ++ more) = .ok (c, more)) ∨
    quoteChar c = [c] ∧ c ≠ '"' ∧ c ≠ '\\' ∧ ¬ c.toNat < 0x20 := by
  by_cases named : c ∈ namedEscapes
  · left
    simp only [namedEscapes, List.mem_cons, List.not_mem_nil, or_false] at named
    rcases named with rfl | rfl | rfl | rfl | rfl | rfl | rfl <;> exact ⟨_, rfl, fun _ => rfl⟩
  · simp only [namedEscapes, List.mem_cons, List.not_mem_nil, or_false, not_or] at named
    by_cases control : c.toNat < 0x20
    · left
      refine ⟨['u', '0', '0', hexDigit (c.toNat / 16), hexDigit (c.toNat % 16)], ?_, fun more => ?_⟩
      · simp [quoteChar, named, control]
      · exact unicodeEscape_control control more
    · right
      exact ⟨by simp [quoteChar, named, control], named.1, named.2.1, control⟩

/-- A character between quotes is scanned as itself. -/
theorem stringFrom_quoteChar (mark c : Char) (bound done more : List Char) :
    stringFrom (mark :: bound) done (quoteChar c ++ more) = stringFrom bound (c :: done) more := by
  rcases quoteChar_cases c with ⟨escaped, written, scanned⟩ | ⟨written, quote, solidus, control⟩
  · simp only [written, List.cons_append, stringFrom, scanned, bind, Except.bind]
    rfl
  · simp only [written, List.singleton_append, stringFrom, quote, solidus, control, ↓reduceIte]

/-! ## Texts -/

/-- A text between quotes is scanned as itself, up to the closing quote. -/
theorem stringFrom_quoted (text done rest : List Char) :
    ∀ bound : List Char, text.length < bound.length →
      stringFrom bound done (text.flatMap quoteChar ++ '"' :: rest) =
        .ok (done.reverse ++ text, rest) := by
  induction text generalizing done with
  | nil =>
    intro bound enough
    obtain ⟨mark, bound, rfl⟩ := List.exists_cons_of_length_pos enough
    simp [stringFrom]
  | cons c later ih =>
    intro bound enough
    obtain ⟨mark, bound, rfl⟩ := List.exists_cons_of_length_pos (Nat.zero_lt_of_lt enough)
    rw [List.flatMap_cons, List.append_assoc, stringFrom_quoteChar,
      ih (c :: done) bound (Nat.lt_of_succ_lt_succ enough)]
    simp

/-- A character between quotes is written with at least one character. -/
theorem quoteChar_ne_nil (c : Char) : quoteChar c ≠ [] := by
  rcases quoteChar_cases c with ⟨escaped, written, _⟩ | ⟨written, _⟩ <;> simp [written]

/-- A text is no longer than the text between quotes. -/
theorem length_le_length_quoted (text : List Char) :
    text.length ≤ (text.flatMap quoteChar).length := by
  induction text with
  | nil => exact Nat.le_refl 0
  | cons c later ih =>
    have one := List.length_pos_iff.mpr (quoteChar_ne_nil c)
    simp only [List.flatMap_cons, List.length_append, List.length_cons]
    omega

/-- A quoted text is scanned as the text, up to its closing quote. -/
theorem stringBody_quoted (text : String) (rest : List Char) :
    stringBody (text.toList.flatMap quoteChar ++ '"' :: rest) = .ok (text, rest) := by
  have scanned := stringFrom_quoted text.toList [] rest
    (text.toList.flatMap quoteChar ++ '"' :: rest) (by
      have short := length_le_length_quoted text.toList
      simp only [List.length_append, List.length_cons]
      omega)
  simp [stringBody, scanned, bind, Except.bind]

/-- Quoted texts with something after them are written alike only if they are the same texts with
the same after them. -/
theorem quoteChars_append_inj {left right : String} {rest rest' : List Char}
    (alike : quoteChars left.toList ++ rest = quoteChars right.toList ++ rest') :
    left = right ∧ rest = rest' := by
  simp only [quoteChars, List.cons_append, List.append_assoc, List.nil_append,
    List.cons.injEq, true_and] at alike
  have scanned := stringBody_quoted left rest
  rw [alike, stringBody_quoted] at scanned
  obtain ⟨same, after⟩ := Prod.mk.inj (Except.ok.inj scanned)
  exact ⟨same.symm, after.symm⟩

end Formwright.Json
