import ParseKit.Proofs.Wording
import ParseKit.Value.Arithmetic

/-!
Results as text. Main statement: a number has a text, unless it is an integer with too many digits; a number in double
precision has one, as its integers have few digits.
-/

namespace ParseKit

namespace Binary64

theorem natAbs_signed (negative : Bool) (k : Nat) : (signed negative k).natAbs = k := by
  cases negative <;> simp [signed]

/-- The greatest number has 53 binary digits, and 971 zeros behind them. -/
theorem natAbs_toInt?_lt {x : Binary64} {n : Int} {limit : Nat} (whole : x.toInt? = some n) (large : 1024 ≤ limit) :
    n.natAbs < Nat.pow 10 limit := by
  cases x with
  | infinite negative => cases whole
  | nan => cases whole
  | finite negative mantissa exponent canonical =>
    have below : mantissa < 2 ^ 53 := canonical.1
    have bounded : 53 + exponent.toNat ≤ limit := by
      have greatest := canonical.2.2.1
      omega
    simp only [toInt?, Option.ite_none_right_eq_some, Option.some.injEq] at whole
    obtain ⟨-, rfl⟩ := whole
    have scaled := calc mantissa * 2 ^ exponent.toNat / (1 * 2 ^ (-exponent).toNat)
        ≤ mantissa * 2 ^ exponent.toNat := Nat.div_le_self _ _
      _ < 2 ^ 53 * 2 ^ exponent.toNat := Nat.mul_lt_mul_of_pos_right below (Nat.two_pow_pos _)
      _ = 2 ^ (53 + exponent.toNat) := (Nat.pow_add 2 53 _).symm
      _ ≤ 2 ^ limit := Nat.pow_le_pow_right (by decide) bounded
      _ ≤ 10 ^ limit := Nat.pow_le_pow_left (by decide) limit
    rwa [natAbs_signed]

end Binary64

namespace Value

theorem isShort_toInt? {x : Binary64} {n : Int} (whole : x.toInt? = some n) : IsShort n := by
  have large : 1024 ≤ Numeral.digitLimit := by decide
  exact isShort_iff.mpr (Binary64.natAbs_toInt?_lt whole large)

theorem formatNumber_int (n : Int) : formatNumber (.int n) = writeInt n := by simp only [formatNumber, display, write]

theorem formatNumber_float (x : Binary64) : ∃ text, formatNumber (.float x) = .ok text := by
  unfold formatNumber
  cases whole : x.toInt? with
  | none => exact ⟨floatLayout.render x, by simp only [whole, display, write]⟩
  | some n => exact ⟨Text.ofInt n, by simp only [whole, writeInt_of_short (isShort_toInt? whole)]⟩

/-- The only numbers without a text are the integers that are too long. -/
theorem formatNumber_cases (number : Number) :
    (∃ text, formatNumber number.toValue = .ok text) ∨
      ∃ n, number = .int n ∧ ¬ IsShort n ∧ formatNumber number.toValue = .error .integerTextTooLong := by
  cases number with
  | float x => exact .inl (formatNumber_float x)
  | int n =>
    rw [Number.toValue, formatNumber_int]
    by_cases short : IsShort n
    · exact .inl ⟨_, writeInt_of_short short⟩
    · exact .inr ⟨n, rfl, short, writeInt_of_long short⟩

end Value

end ParseKit
