import ParseKit.Value.Arithmetic

/-!
Operations on numbers that fault. Main statement: only integers beyond the range of double precision and divisors that
are zero make an operation on two numbers fault, as no other integer becomes zero in double precision.
-/

namespace ParseKit

namespace Binary64

theorem nearest_pos {n d : Nat} (positive : 0 < d) (least : d ≤ n) : 0 < nearest n d := by
  have quotient : 0 < n / d := Nat.div_pos least positive
  unfold nearest
  dsimp only
  split
  · exact quotient
  · split
    · omega
    · split <;> omega

theorem floorLog2_le (n d : Nat) : floorLog2 n d ≤ (n.log2 : Int) - d.log2 := by
  unfold floorLog2
  dsimp only
  split
  · exact Int.le_refl _
  · omega

/-- Scaled for rounding, a positive integer is not less than its new denominator. -/
theorem scaled_le {n : Nat} (positive : n ≠ 0) (exponent : Int) (bound : exponent ≤ max (floorLog2 n 1 - 52) (-1074)) :
    0 < (scale n 1 (-exponent)).2 ∧ (scale n 1 (-exponent)).2 ≤ (scale n 1 (-exponent)).1 := by
  have least := floorLog2_le n 1
  have unit : Nat.log2 1 = 0 := by decide
  have small : exponent.toNat ≤ n.log2 := by
    rw [unit] at least
    omega
  simp only [scale, Int.neg_neg, Nat.pow_eq, Nat.one_mul]
  refine ⟨Nat.two_pow_pos _, ?_⟩
  calc 2 ^ exponent.toNat
      ≤ 2 ^ n.log2 := Nat.pow_le_pow_right (by decide) small
    _ ≤ n := Nat.log2_self_le positive
    _ ≤ n * 2 ^ (-exponent).toNat := Nat.le_mul_of_pos_right n (Nat.two_pow_pos _)

theorem isZero_ofParts {negative : Bool} {mantissa : Nat} {exponent : Int} (nonzero : mantissa ≠ 0) :
    (ofParts negative mantissa exponent).isZero = false := by
  unfold ofParts
  split
  · simpa [isZero] using nonzero
  · rfl

theorem isZero_ofRatio (negative : Bool) {n : Nat} (positive : n ≠ 0) : (ofRatio negative n 1).isZero = false := by
  obtain ⟨some, least⟩ := scaled_le positive _ (Int.le_refl _)
  have mantissa := nearest_pos some least
  unfold ofRatio
  simp only [if_neg positive]
  split
  · exact isZero_ofParts (by decide)
  · exact isZero_ofParts (by omega)

theorem isZero_ofInt {n : Int} {x : Binary64} (converted : ofInt? n = some x) : x.isZero = decide (n = 0) := by
  by_cases zero : n = 0
  · subst zero
    cases converted
    rfl
  · have nonzero := isZero_ofRatio (n < 0) (Int.natAbs_ne_zero.mpr zero)
    unfold ofInt? at converted
    split at converted
    · cases converted
    · rw [Option.some.injEq] at converted
      rw [← converted, nonzero, decide_eq_false zero]

theorem div?_eq_none {x y : Binary64} : x.div? y = none ↔ y.isZero := by
  cases x <;> cases y <;> simp [div?, isZero]

end Binary64

namespace Fault

inductive Overflow : Fault → Prop where
  | integer : Overflow .integerTooLargeForFloat
  | quotient : Overflow .quotientTooLarge

inductive ZeroDivision : Fault → Prop where
  | integer : ZeroDivision .divisionByZero
  | float : ZeroDivision .floatDivisionByZero

end Fault

namespace Number

def isZero : Number → Bool
  | .int n => n = 0
  | .float x => x.isZero

theorem toFloat_error {a : Number} {fault : Fault} (failed : a.toFloat = .error fault) : fault.Overflow := by
  cases a with
  | float => cases failed
  | int n =>
    cases converted : Binary64.ofInt? n <;> rw [toFloat, converted] at failed <;> cases failed
    exact .integer

theorem isZero_toFloat {a : Number} {x : Binary64} (converted : a.toFloat = .ok x) : x.isZero = a.isZero := by
  cases a with
  | float =>
    cases converted
    rfl
  | int n =>
    cases given : Binary64.ofInt? n <;> rw [toFloat, given] at converted <;> cases converted
    exact Binary64.isZero_ofInt given

theorem toFloats_error {a b : Number} {next : Binary64 → Binary64 → Except Fault Number} {fault : Fault}
    (failed : (do next (← a.toFloat) (← b.toFloat)) = .error fault) :
    fault.Overflow ∨ ∃ x y, a.toFloat = .ok x ∧ b.toFloat = .ok y ∧ next x y = .error fault := by
  cases left : a.toFloat with
  | error fault' =>
    rw [left] at failed
    cases failed
    exact .inl (toFloat_error left)
  | ok x =>
    cases right : b.toFloat with
    | error fault' =>
      rw [left, right] at failed
      cases failed
      exact .inl (toFloat_error right)
    | ok y =>
      rw [left, right] at failed
      exact .inr ⟨x, y, rfl, rfl, failed⟩

theorem lift_error {exact : Int → Int → Int} {rounded : Binary64 → Binary64 → Binary64} {a b : Number} {fault : Fault}
    (failed : lift exact rounded a b = .error fault) : fault.Overflow := by
  unfold lift at failed
  split at failed
  · cases failed
  · rcases toFloats_error failed with overflow | ⟨x, y, -, -, failed⟩
    · exact overflow
    · cases failed

theorem divide_error {a b : Number} {fault : Fault} (failed : divide a b = .error fault) :
    fault.Overflow ∨ fault.ZeroDivision ∧ b.isZero := by
  unfold divide at failed
  split at failed
  · split at failed
    · rename_i zero
      cases failed
      exact .inr ⟨.integer, by simpa [isZero] using zero⟩
    · split at failed <;> cases failed
      exact .inl .quotient
  · rcases toFloats_error failed with overflow | ⟨x, y, -, right, failed⟩
    · exact .inl overflow
    · split at failed <;> cases failed
      rename_i undefined
      exact .inr ⟨.float, by rw [← isZero_toFloat right, ← Binary64.div?_eq_none, undefined]⟩

/-- An operation faults only where an integer is out of range, or where it divides by zero. -/
theorem operate_error {f : Operator} {a b : Number} {fault : Fault} (failed : operate f a b = .error fault) :
    fault.Overflow ∨ fault.ZeroDivision ∧ f = .truediv ∧ b.isZero := by
  cases f with
  | truediv =>
    rcases divide_error failed with overflow | ⟨division, zero⟩
    · exact .inl overflow
    · exact .inr ⟨division, rfl, zero⟩
  | _ => exact .inl (lift_error failed)

end Number

theorem Value.operate_toValue (f : Operator) (a b : Number) :
    Value.operate f a.toValue b.toValue = (Number.operate f a b).map Number.toValue := by
  cases a <;> cases b <;> rfl

end ParseKit
