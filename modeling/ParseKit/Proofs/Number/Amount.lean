import Mathlib
import ParseKit.Number.Binary64

/-!
The amount that a double precision number stands for. Main statements: numbers are equal if they stand for the same amount,
and a number is equal to an integer if it stands for exactly that.
-/

namespace ParseKit

inductive Amount where
  | finite (q : ℚ)
  | infinite (negative : Bool)

namespace Binary64

def amount? : Binary64 → Option Amount
  | .finite negative mantissa exponent _ => some (.finite (signed negative mantissa * 2 ^ exponent))
  | .infinite negative => some (.infinite negative)
  | .nan => none

theorem Canonical.mantissa_lt {mantissa : Nat} {exponent : Int} (canonical : Canonical mantissa exponent) :
    (mantissa : ℚ) < 2 ^ 53 := by
  have bound : mantissa < 2 ^ 53 := canonical.1
  exact_mod_cast bound

/-- The mantissa of a number whose exponent is not the least uses all its digits. -/
theorem Canonical.le_mantissa {mantissa : Nat} {exponent : Int} (canonical : Canonical mantissa exponent)
    (above : -1074 < exponent) : (2 ^ 52 : ℚ) ≤ mantissa := by
  obtain ⟨-, -, -, full | least⟩ := canonical
  · have bound : 2 ^ 52 ≤ mantissa := full
    exact_mod_cast bound
  · omega

section magnitude

variable {m k : Nat} {e f : Int}

theorem magnitude_lt (first : Canonical m e) (second : Canonical k f) (below : e < f) :
    (m : ℚ) * 2 ^ e < k * 2 ^ f := by
  have least : -1074 ≤ e := first.2.1
  have scaled : (2 : ℚ) ^ (e + 1) ≤ 2 ^ f := zpow_le_zpow_right₀ (by norm_num) (by omega)
  calc (m : ℚ) * 2 ^ e
      < 2 ^ 53 * 2 ^ e := by gcongr; exact first.mantissa_lt
    _ = 2 ^ 52 * 2 ^ (e + 1) := by rw [zpow_add₀ (by norm_num)]; ring
    _ ≤ k * 2 ^ f := by gcongr; exact second.le_mantissa (by omega)

/-- An amount has only one canonical mantissa and exponent. -/
theorem magnitude_unique (first : Canonical m e) (second : Canonical k f) (same : (m : ℚ) * 2 ^ e = k * 2 ^ f) :
    m = k ∧ e = f := by
  rcases lt_trichotomy e f with below | rfl | above
  · exact absurd same (magnitude_lt first second below).ne
  · have positive : (2 : ℚ) ^ e ≠ 0 := zpow_ne_zero e (by norm_num)
    exact ⟨by exact_mod_cast mul_right_cancel₀ positive same, rfl⟩
  · exact absurd same.symm (magnitude_lt second first above).ne

end magnitude

theorem abs_signed (negative : Bool) (mantissa : Nat) : |(signed negative mantissa : ℚ)| = mantissa := by
  cases negative <;> simp [signed]

theorem signed_inj {s t : Bool} {mantissa : Nat} (nonzero : mantissa ≠ 0) (same : signed s mantissa = signed t mantissa) :
    s = t := by
  cases s <;> cases t <;> simp only [signed] at same ⊢ <;> simp_all

theorem numericEq_iff {x y : Binary64} {a b : Amount} (first : x.amount? = some a) (second : y.amount? = some b) :
    x.numericEq y ↔ a = b := by
  cases x with
  | nan => cases first
  | infinite s =>
    cases first
    cases y with
    | nan => cases second
    | infinite t => cases second; simp [numericEq]
    | finite => cases second; simp [numericEq]
  | finite s m e canonical =>
    cases first
    cases y with
    | nan => cases second
    | infinite t => cases second; simp [numericEq]
    | finite t k f canonical' =>
      cases second
      simp only [numericEq, Bool.and_eq_true, Bool.or_eq_true, decide_eq_true_eq, Amount.finite.injEq]
      constructor
      · rintro ⟨rfl, rfl | ⟨rfl, rfl⟩⟩
        · simp [signed]
        · rfl
      · intro same
        have magnitudes : (m : ℚ) * 2 ^ e = k * 2 ^ f := by
          have lengths := congrArg abs same
          rwa [abs_mul, abs_mul, abs_signed, abs_signed, abs_of_pos (zpow_pos (by norm_num) e),
            abs_of_pos (zpow_pos (by norm_num) f)] at lengths
        obtain ⟨rfl, rfl⟩ := magnitude_unique canonical canonical' magnitudes
        by_cases zero : m = 0
        · exact ⟨rfl, .inl zero⟩
        · have signs := mul_right_cancel₀ (zpow_ne_zero e (by norm_num)) same
          exact ⟨rfl, .inr ⟨signed_inj zero (by exact_mod_cast signs), rfl⟩⟩

theorem zpow_eq_div (base : Nat) (exponent : Int) :
    (base : ℚ) ^ exponent = (base ^ exponent.toNat : Nat) / (base ^ (-exponent).toNat : Nat) := by
  rcases Int.eq_nat_or_neg exponent with ⟨n, rfl | rfl⟩
  · simp
  · simp

/-- A number as a fraction of integers. -/
theorem amount_eq_div (negative : Bool) (mantissa : Nat) (exponent : Int) :
    (signed negative mantissa : ℚ) * 2 ^ exponent =
      (signed negative (mantissa * 2 ^ exponent.toNat) : ℚ) / (2 ^ (-exponent).toNat : Nat) := by
  have power := zpow_eq_div 2 exponent
  rw [Nat.cast_ofNat] at power
  rw [power]
  cases negative <;> simp only [signed] <;> push_cast <;> ring_nf

theorem signed_div {numerator denominator : Nat} (negative : Bool) (positive : denominator ≠ 0)
    (divides : denominator ∣ numerator) :
    (signed negative numerator : ℚ) / denominator = signed negative (numerator / denominator) := by
  have nonzero : (denominator : ℚ) ≠ 0 := by exact_mod_cast positive
  have quotient : ((numerator / denominator : Nat) : ℚ) = numerator / denominator := Nat.cast_div divides nonzero
  cases negative
  · simp only [signed, Bool.false_eq_true, ite_false, Int.cast_natCast, quotient]
  · simp only [signed, ite_true, Int.cast_neg, Int.cast_natCast, quotient, neg_div]

theorem dvd_of_signed_div {numerator denominator : Nat} {negative : Bool} {n : Int} (positive : denominator ≠ 0)
    (same : (signed negative numerator : ℚ) / denominator = n) : denominator ∣ numerator := by
  have nonzero : (denominator : ℚ) ≠ 0 := by exact_mod_cast positive
  rw [div_eq_iff nonzero] at same
  have product : signed negative numerator = n * denominator := by exact_mod_cast same
  have divides : (denominator : Int) ∣ signed negative numerator := ⟨n, by rw [product, Int.mul_comm]⟩
  cases negative
  · exact Int.natCast_dvd_natCast.mp divides
  · exact Int.natCast_dvd_natCast.mp (Int.dvd_neg.mp divides)

theorem eqInt_iff {x : Binary64} {a : Amount} (stands : x.amount? = some a) (n : Int) :
    x.eqInt n ↔ a = .finite n := by
  cases x with
  | nan => cases stands
  | infinite s => cases stands; simp [eqInt, toInt?]
  | finite s m e canonical =>
    cases stands
    have positive : 2 ^ (-e).toNat ≠ 0 := (Nat.two_pow_pos _).ne'
    rw [Amount.finite.injEq, amount_eq_div]
    simp only [eqInt, toInt?, scale, Nat.pow_eq, Nat.one_mul, beq_iff_eq, ← Nat.dvd_iff_mod_eq_zero]
    split
    · rename_i divides
      rw [signed_div s positive divides, Option.some.injEq, Int.cast_inj]
    · rename_i apart
      exact ⟨by simp, fun same => absurd (dvd_of_signed_div positive same) apart⟩

end Binary64

end ParseKit
