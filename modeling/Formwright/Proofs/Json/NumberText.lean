import Formwright.Json.Printer
import Formwright.Proofs.Text.Words

/-!
# The text of a number

A number is printed with at least one character, in digits, signs, a point and the letter of the
exponent, none of which starts any other value.
-/
namespace Formwright.Json

/-- The characters that numbers are printed in. -/
def isNumberChar (c : Char) : Bool := c.isDigit || c == '-' || c == '+' || c == '.' || c == 'e'

/-- The text is printed in the characters of numbers. -/
def IsNumeric (text : String) : Prop := ∀ c ∈ text.toList, isNumberChar c = true

instance (text : String) : Decidable (IsNumeric text) :=
  decidable_of_iff (text.toList.all isNumberChar = true) List.all_eq_true

/-- Two texts make one of the characters of numbers where both are. -/
@[simp]
theorem isNumeric_append (left right : String) :
    IsNumeric (left ++ right) ↔ IsNumeric left ∧ IsNumeric right := by
  rw [IsNumeric, String.toList_append, List.forall_mem_append, IsNumeric, IsNumeric]

/-! ## Digits -/

/-- The text of decimal digits is numeric. -/
theorem isNumeric_digitText {digits : List Nat} (decimal : ∀ digit ∈ digits, digit < 10) :
    IsNumeric (digitText digits) := by
  have shown : ∀ digit : Fin 10, isNumberChar (hexDigit digit.val) = true := by decide
  simp only [IsNumeric, digitText, String.toList_ofList, List.forall_mem_map]
  exact fun digit member => shown ⟨digit, decimal digit member⟩

/-- A natural number is printed in digits. -/
theorem isNumeric_toString (value : Nat) : IsNumeric (toString value) := by
  intro c member
  simp [isNumberChar, Text.isDigit_of_mem_toString member]

/-- Natural numbers are printed alike only if they are the same. -/
theorem toString_injective : Function.Injective (toString : Nat → String) := by
  intro left right alike
  have digits : Nat.toDigits 10 left = Nat.toDigits 10 right := by
    simpa only [Nat.toString_eq_ofList_toDigits, String.ofList_inj] using alike
  rw [← Nat.ofDigitChars_ten_toDigits (n := left), digits, Nat.ofDigitChars_ten_toDigits]

/-- The digits of a natural number are decimal. -/
theorem lt_of_mem_digitsOf {value digit : Nat} (member : digit ∈ Binary64.digitsOf value) :
    digit < 10 := by
  obtain ⟨c, printed, rfl⟩ := List.mem_map.mp member
  have digital : c.isDigit = true := Nat.isDigit_of_mem_toDigits (by decide) (by decide) printed
  rw [Char.isDigit, Bool.and_eq_true, decide_eq_true_eq, decide_eq_true_eq] at digital
  have below : c.toNat ≤ 57 := digital.2
  have zero : '0'.toNat = 48 := rfl
  omega

/-- The fewest digits of a magnitude are decimal. -/
theorem lt_of_mem_shortest {value : Binary64} {digit : Nat}
    (member : digit ∈ value.shortest.digits) : digit < 10 := by
  have kept := List.mem_reverse.mp member
  exact lt_of_mem_digitsOf (List.mem_reverse.mp ((List.dropWhile_sublist _).mem kept))

/-! ## Numbers -/

section

variable {number : Binary64.Digits} (decimal : ∀ digit ∈ number.digits, digit < 10)
include decimal

/-- Digits with their point in place are numeric. -/
theorem isNumeric_pointedText : IsNumeric (pointedText number) := by
  have zeros (count : Nat) : ∀ digit ∈ List.replicate count 0, digit < 10 :=
    fun digit member => (List.eq_of_mem_replicate member).symm ▸ by decide
  have taken (places : Nat) : ∀ digit ∈ number.digits.take places, digit < 10 :=
    fun digit member => decimal digit (List.mem_of_mem_take member)
  have dropped (places : Nat) : ∀ digit ∈ number.digits.drop places, digit < 10 :=
    fun digit member => decimal digit (List.mem_of_mem_drop member)
  have leading : IsNumeric "0." := by decide
  have trailing : IsNumeric ".0" := by decide
  have point : IsNumeric "." := by decide
  unfold pointedText
  dsimp only
  split
  · split
    · exact (isNumeric_append _ _).mpr ⟨leading, isNumeric_digitText decimal⟩
    · split
      · exact (isNumeric_append _ _).mpr
          ⟨isNumeric_digitText (List.forall_mem_append.mpr ⟨decimal, zeros _⟩), trailing⟩
      · simp only [isNumeric_append]
        exact ⟨⟨isNumeric_digitText (taken _), point⟩, isNumeric_digitText (dropped _)⟩
  · exact (isNumeric_append _ _).mpr
      ⟨leading, isNumeric_digitText (List.forall_mem_append.mpr ⟨zeros _, decimal⟩)⟩

/-- Digits with an exponent are numeric. -/
theorem isNumeric_exponentText (exponent : Int) : IsNumeric (exponentText number exponent) := by
  have first : IsNumeric (digitText (number.digits.take 1)) :=
    isNumeric_digitText fun digit member => decimal digit (List.mem_of_mem_take member)
  have others : IsNumeric (digitText (number.digits.drop 1)) :=
    isNumeric_digitText fun digit member => decimal digit (List.mem_of_mem_drop member)
  have point : IsNumeric "." := by decide
  have letter : IsNumeric "e" := by decide
  have fraction : IsNumeric (if (number.digits.drop 1).isEmpty then ""
      else "." ++ digitText (number.digits.drop 1)) := by
    split
    · exact nofun
    · exact (isNumeric_append _ _).mpr ⟨point, others⟩
  have sign : IsNumeric (if exponent < 0 then "-" else "+") := by split <;> decide
  simp only [exponentText, isNumeric_append]
  exact ⟨⟨⟨⟨first, fraction⟩, letter⟩, sign⟩, isNumeric_toString _⟩

end

/-- Digits with their point in place are some text. -/
theorem pointedText_ne_empty (number : Binary64.Digits) : pointedText number ≠ "" := by
  unfold pointedText
  dsimp only
  split
  · split
    · simp
    · split <;> simp
  · simp

/-- A floating-point number is printed in the characters of numbers. -/
theorem isNumeric_floatText (value : Binary64) : IsNumeric (floatText value) := by
  have sign : IsNumeric (if value.negative then "-" else "") := by split <;> decide
  have zero : IsNumeric "0.0" := by decide
  have decimal : ∀ digit ∈ value.shortest.digits, digit < 10 := fun _ => lt_of_mem_shortest
  unfold floatText
  dsimp only
  split
  · exact (isNumeric_append _ _).mpr ⟨sign, zero⟩
  · refine (isNumeric_append _ _).mpr ⟨sign, ?_⟩
    split
    · exact isNumeric_pointedText decimal
    · exact isNumeric_exponentText decimal _

/-- A floating-point number is printed as some text. -/
theorem floatText_ne_empty (value : Binary64) : floatText value ≠ "" := by
  unfold floatText
  dsimp only
  split
  · simp
  · intro empty
    obtain ⟨-, empty⟩ := String.append_eq_empty_iff.mp empty
    split at empty
    · exact pointedText_ne_empty _ empty
    · simp [exponentText] at empty

/-- A whole number is printed in the characters of numbers. -/
theorem isNumeric_intText (value : Int) : IsNumeric (toString value) := by
  have sign : IsNumeric "-" := by decide
  cases value with
  | ofNat value => exact isNumeric_toString value
  | negSucc value => exact (isNumeric_append _ _).mpr ⟨sign, isNumeric_toString (value + 1)⟩

/-- A whole number is printed as some text. -/
theorem intText_ne_empty (value : Int) : toString value ≠ "" := by
  cases value with
  | ofNat value => exact Nat.repr_ne_empty
  | negSucc value => simp [toString, Int.repr]

/-! ## How numbers start -/

/-- The text starts with a digit. -/
def StartsInDigit (text : String) : Prop :=
  ∃ digit later, text.toList = digit :: later ∧ digit.isDigit = true

/-- A text that starts with a digit does so whatever follows it. -/
theorem StartsInDigit.append {text : String} (starts : StartsInDigit text) (later : String) :
    StartsInDigit (text ++ later) := by
  obtain ⟨digit, more, spelled, digital⟩ := starts
  exact ⟨digit, more ++ later.toList, by simp [spelled], digital⟩

/-- The text of some decimal digits starts with one. -/
theorem startsInDigit_digitText {digits : List Nat} (some : digits ≠ [])
    (decimal : ∀ digit ∈ digits, digit < 10) : StartsInDigit (digitText digits) := by
  obtain ⟨first, later, rfl⟩ := List.exists_cons_of_ne_nil some
  have shown : ∀ digit : Fin 10, (hexDigit digit.val).isDigit = true := by decide
  exact ⟨hexDigit first, later.map hexDigit, by simp [digitText],
    shown ⟨first, decimal first List.mem_cons_self⟩⟩

/-- A natural number starts with a digit. -/
theorem startsInDigit_toString (value : Nat) : StartsInDigit (toString value) := by
  obtain ⟨digit, later, spelled⟩ := List.exists_cons_of_ne_nil
    (fun none => Nat.repr_ne_empty (String.toList_eq_nil_iff.mp none) :
      (toString value).toList ≠ [])
  exact ⟨digit, later, spelled, Text.isDigit_of_mem_toString (spelled ▸ List.mem_cons_self)⟩

section

variable {number : Binary64.Digits} (decimal : ∀ digit ∈ number.digits, digit < 10)
include decimal

/-- Digits with their point in place start with a digit. -/
theorem startsInDigit_pointedText : StartsInDigit (pointedText number) := by
  have leading (text : String) : StartsInDigit ("0." ++ text) :=
    ⟨'0', '.' :: text.toList, by simp, rfl⟩
  unfold pointedText
  dsimp only
  split
  · next places _ =>
    split
    · exact leading _
    · next positive =>
      have zeros : ∀ digit ∈ List.replicate (places - number.digits.length) 0, digit < 10 :=
        fun digit member => (List.eq_of_mem_replicate member).symm ▸ by decide
      split
      · refine (startsInDigit_digitText ?_ (List.forall_mem_append.mpr ⟨decimal, zeros⟩)).append _
        intro none
        have short := congrArg List.length none
        simp only [List.length_append, List.length_replicate, List.length_nil] at short
        omega
      · refine ((startsInDigit_digitText ?_ fun digit member =>
          decimal digit (List.mem_of_mem_take member)).append _).append _
        intro none
        have short := congrArg List.length none
        simp only [List.length_take, List.length_nil] at short
        omega
  · exact leading _

/-- Digits with an exponent start with a digit if there is one. -/
theorem startsInDigit_exponentText (some : number.digits ≠ []) (exponent : Int) :
    StartsInDigit (exponentText number exponent) := by
  have first : number.digits.take 1 ≠ [] := by simpa using some
  exact ((((startsInDigit_digitText first fun digit member =>
    decimal digit (List.mem_of_mem_take member)).append _).append _).append _).append _

end

/-- A decimal that rounds to a positive magnitude is positive. -/
theorem ne_zero_of_candidate? {value : Binary64} (positive : value.mantissa ≠ 0) {point : Int}
    {count decimal : Nat} (found : value.candidate? point count = some decimal) : decimal ≠ 0 := by
  unfold Binary64.candidate? at found
  dsimp only at found
  -- The magnitudes that round to the value start above zero, so zero is none of them.
  let lowest := (value.quarters (4 * value.mantissa -
    if value.mantissa == Binary64.twoTo 52 && 0 < value.scale then 1 else 2)).1 *
      Binary64.tenTo (count - point).toNat
  have nonzero : lowest ≠ 0 := by
    have quarters : 4 * value.mantissa - (if (value.mantissa == Binary64.twoTo 52 &&
        decide (0 < value.scale)) = true then 1 else 2) ≠ 0 := by
      split <;> omega
    exact Nat.mul_ne_zero (Nat.mul_ne_zero quarters (Nat.ne_of_gt (Nat.two_pow_pos _)))
      (Nat.ne_of_gt (Nat.pow_pos (by decide : 0 < 10)))
  have unrounded (unit highest : Nat) : ¬ (if (value.mantissa % 2 == 0) = true then
      decide (lowest ≤ 0 * unit) && decide (0 * unit ≤ highest)
      else decide (lowest < 0 * unit) && decide (0 * unit < highest)) = true := by
    split <;> simp [nonzero]
  generalize (value.quarters (4 * value.mantissa)).1 * Binary64.tenTo (count - point).toNat /
    ((value.quarters 0).2 * Binary64.tenTo (point - count).toNat) = below at found
  rintro rfl
  split at found
  case h_1 rounds _ =>
    obtain rfl : below = 0 := by simpa using found
    exact unrounded _ _ rounds
  case h_2 => simp at found
  case h_3 => contradiction
  case h_4 rounds _ =>
    obtain rfl : below = 0 := by
      split at found
      · simpa using found
      · simp at found
      · split at found <;> simp_all
    exact unrounded _ _ rounds

/-- A decimal that is found for a positive magnitude is positive. -/
theorem shortestFrom_ne_zero {value : Binary64} (positive : value.mantissa ≠ 0) (point : Int)
    (rounds count : Nat) : (value.shortestFrom point rounds count).1 ≠ 0 := by
  induction rounds generalizing count with
  | zero => exact positive
  | succ rounds ih =>
    rw [Binary64.shortestFrom]
    split
    · next found => exact ne_zero_of_candidate? positive found
    · exact ih (count + 1)

/-- A positive number has a digit other than zero. -/
theorem exists_mem_digitsOf {value : Nat} (positive : value ≠ 0) :
    ∃ digit ∈ Binary64.digitsOf value, digit ≠ 0 := by
  have shown : ∀ digit : Fin 10, (Nat.digitChar digit.val).toNat - '0'.toNat = digit.val := by
    decide
  induction value using Nat.strongRecOn with
  | ind value ih =>
    rw [Binary64.digitsOf]
    by_cases single : value < 10
    · refine ⟨value, ?_, positive⟩
      simp only [Nat.toDigits_of_lt_base single, List.map_cons, List.map_nil, List.mem_singleton]
      exact (shown ⟨value, single⟩).symm
    · obtain ⟨digit, member, other⟩ := ih (value / 10) (by omega) (by omega)
      refine ⟨digit, ?_, other⟩
      rw [Nat.toDigits_of_base_le (by decide) (Nat.not_lt.mp single), List.map_append]
      exact List.mem_append_left _ member

/-- What is left of digits without the zeros at their end is nothing only if all are zeros. -/
theorem eq_zero_of_dropWhile {digits : List Nat} (none : digits.dropWhile (· == 0) = []) :
    ∀ digit ∈ digits, digit = 0 := by
  have all := List.takeWhile_append_dropWhile (p := (· == 0)) (l := digits)
  rw [none, List.append_nil] at all
  rw [← all]
  exact fun digit member => beq_iff_eq.mp (List.all_eq_true.mp List.all_takeWhile digit member)

/-- The fewest digits of a positive magnitude are at least one. -/
theorem shortest_digits_ne_nil {value : Binary64} (positive : value.mantissa ≠ 0) :
    value.shortest.digits ≠ [] := by
  unfold Binary64.shortest
  generalize value.quarters (4 * value.mantissa) = quotient
  have found := shortestFrom_ne_zero positive (Binary64.pointOf quotient.1 quotient.2) 17 1
  dsimp only
  generalize value.shortestFrom (Binary64.pointOf quotient.1 quotient.2) 17 1 = decimal at found
  obtain ⟨digit, member, other⟩ := exists_mem_digitsOf found
  intro none
  exact other (eq_zero_of_dropWhile (List.reverse_eq_nil_iff.mp none) digit
    (List.mem_reverse.mpr member))

/-- A floating-point number starts with a digit, after its sign. -/
theorem exists_startsInDigit_floatText (value : Binary64) : ∃ magnitude,
    StartsInDigit magnitude ∧
      (floatText value = magnitude ∨ floatText value = "-" ++ magnitude) := by
  have signed (magnitude : String) : (if value.negative then "-" else "") ++ magnitude = magnitude ∨
      (if value.negative then "-" else "") ++ magnitude = "-" ++ magnitude := by
    cases value.negative <;> simp
  have decimal : ∀ digit ∈ value.shortest.digits, digit < 10 := fun _ => lt_of_mem_shortest
  unfold floatText
  dsimp only
  split
  · exact ⟨"0.0", ⟨'0', ".0".toList, by decide, by decide⟩, signed _⟩
  · next nonzero =>
    have positive : value.mantissa ≠ 0 := by simpa [Binary64.isZero] using nonzero
    refine ⟨_, ?_, signed _⟩
    split
    · exact startsInDigit_pointedText decimal
    · exact startsInDigit_exponentText decimal (shortest_digits_ne_nil positive) _

/-- A whole number starts with a digit, after its sign. -/
theorem exists_startsInDigit_intText (value : Int) : ∃ magnitude,
    StartsInDigit magnitude ∧
      (toString value = magnitude ∨ toString value = "-" ++ magnitude) := by
  cases value with
  | ofNat value => exact ⟨toString value, startsInDigit_toString value, .inl rfl⟩
  | negSucc value => exact ⟨toString (value + 1), startsInDigit_toString (value + 1), .inr rfl⟩

end Formwright.Json
