import Mathlib
import ParseKit.Proofs.Number.Amount

/-!
Rounding a fraction. Main statements: what a fraction is rounded to depends on nothing but the amount it stands for; an
amount that a number has exactly is rounded to that number, and an amount that is too large or too small for any, to an
infinity or to zero.
-/

namespace ParseKit

namespace Binary64

section nearest

variable {n d n' d' : Nat}

theorem nearest_mul_right (n d : Nat) {k : Nat} (positive : 0 < k) : nearest (n * k) (d * k) = nearest n d := by
  have quotient : n * k / (d * k) = n / d := Nat.mul_div_mul_right n d positive
  have below : 2 * (n % d * k) < d * k ↔ 2 * (n % d) < d := by
    rw [← Nat.mul_assoc]
    exact Nat.mul_lt_mul_right positive
  have above : d * k < 2 * (n % d * k) ↔ d < 2 * (n % d) := by
    rw [← Nat.mul_assoc]
    exact Nat.mul_lt_mul_right positive
  simp only [nearest, quotient, Nat.mul_mod_mul_right, below, above]

theorem nearest_congr (positive : 0 < d) (positive' : 0 < d') (same : n * d' = n' * d) : nearest n d = nearest n' d' := by
  calc nearest n d
      = nearest (n * d') (d * d') := (nearest_mul_right n d positive').symm
    _ = nearest (n' * d) (d' * d) := by rw [same, Nat.mul_comm d d']
    _ = nearest n' d' := nearest_mul_right n' d' positive

theorem nearest_mul (m : Nat) (positive : 0 < d) : nearest (m * d) d = m := by
  simp [nearest, Nat.mul_div_cancel m positive, positive]

theorem nearest_eq_zero (small : 2 * n < d) : nearest n d = 0 := by
  have whole : n < d := by omega
  simp [nearest, Nat.mod_eq_of_lt whole, Nat.div_eq_of_lt whole, small]

end nearest

section ratio

variable {n d n' d' : Nat}

theorem ratio_eq_iff (positive : 0 < d) (positive' : 0 < d') : (n : ℚ) / d = n' / d' ↔ n * d' = n' * d := by
  rw [div_eq_div_iff (by positivity) (by positivity)]
  exact_mod_cast Iff.rfl

theorem scale_pos (n : Nat) (positive : 0 < d) (power : Int) : 0 < (scale n d power).2 :=
  Nat.mul_pos positive (Nat.two_pow_pos _)

theorem ratio_scale (n d : Nat) (power : Int) : ((scale n d power).1 : ℚ) / (scale n d power).2 = n / d * 2 ^ power := by
  have split := zpow_eq_div 2 power
  rw [Nat.cast_ofNat] at split
  rw [split]
  simp only [scale, Nat.pow_eq]
  push_cast
  exact mul_div_mul_comm _ _ _ _

theorem log_eq {q : ℚ} {k : Int} (positive : 0 < q) (least : (2 : ℚ) ^ k ≤ q) (below : q < 2 ^ (k + 1)) :
    Int.log 2 q = k := by
  have lower : k ≤ Int.log 2 q := (Int.zpow_le_iff_le_log (by decide) positive).mp (by exact_mod_cast least)
  have upper : Int.log 2 q < k + 1 := (Int.lt_zpow_iff_log_lt (by decide) positive).mp (by exact_mod_cast below)
  omega

/-- The logarithms of numerator and denominator give the one of the fraction but for one. -/
theorem ratio_bounds (nonzero : n ≠ 0) (positive : 0 < d) :
    (2 : ℚ) ^ ((n.log2 : Int) - d.log2 - 1) < n / d ∧ (n : ℚ) / d < 2 ^ ((n.log2 : Int) - d.log2 + 1) := by
  have denominator : (0 : ℚ) < d := by exact_mod_cast positive
  have nLeast : (2 : ℚ) ^ (n.log2 : Int) ≤ n := by exact_mod_cast Nat.log2_self_le nonzero
  have nBelow : (n : ℚ) < 2 ^ ((n.log2 : Int) + 1) := by exact_mod_cast Nat.lt_log2_self
  have dLeast : (2 : ℚ) ^ (d.log2 : Int) ≤ d := by exact_mod_cast Nat.log2_self_le positive.ne'
  have dBelow : (d : ℚ) < 2 ^ ((d.log2 : Int) + 1) := by exact_mod_cast Nat.lt_log2_self
  constructor
  · rw [lt_div_iff₀ denominator]
    calc (2 : ℚ) ^ ((n.log2 : Int) - d.log2 - 1) * d
        < 2 ^ ((n.log2 : Int) - d.log2 - 1) * 2 ^ ((d.log2 : Int) + 1) := by gcongr
      _ = 2 ^ (n.log2 : Int) := by
          rw [← zpow_add₀ two_ne_zero]
          congr 1
          omega
      _ ≤ n := nLeast
  · rw [div_lt_iff₀ denominator]
    calc (n : ℚ)
        < 2 ^ ((n.log2 : Int) + 1) := nBelow
      _ = 2 ^ ((n.log2 : Int) - d.log2 + 1) * 2 ^ (d.log2 : Int) := by
          rw [← zpow_add₀ two_ne_zero]
          congr 1
          omega
      _ ≤ 2 ^ ((n.log2 : Int) - d.log2 + 1) * d := by gcongr

/-- Scaled by a power of two, a fraction is at least one if it is at least that power. -/
theorem scale_le_iff (n : Nat) (positive : 0 < d) (k : Int) :
    (scale n d (-k)).2 ≤ (scale n d (-k)).1 ↔ (2 : ℚ) ^ k ≤ n / d := by
  have denominator : (0 : ℚ) < (scale n d (-k)).2 := by exact_mod_cast scale_pos n positive (-k)
  calc (scale n d (-k)).2 ≤ (scale n d (-k)).1
      ↔ ((scale n d (-k)).2 : ℚ) ≤ (scale n d (-k)).1 := Nat.cast_le.symm
    _ ↔ 1 ≤ ((scale n d (-k)).1 : ℚ) / (scale n d (-k)).2 := (one_le_div denominator).symm
    _ ↔ 1 ≤ (n : ℚ) / d / 2 ^ k := by rw [ratio_scale, zpow_neg, div_eq_mul_inv _ ((2 : ℚ) ^ k)]
    _ ↔ (2 : ℚ) ^ k ≤ n / d := one_le_div (by positivity)

theorem floorLog2_eq (nonzero : n ≠ 0) (positive : 0 < d) : floorLog2 n d = Int.log 2 ((n : ℚ) / d) := by
  have ratio : (0 : ℚ) < n / d := by positivity
  obtain ⟨above, below⟩ := ratio_bounds nonzero positive
  unfold floorLog2
  generalize (n.log2 : Int) - d.log2 = k at above below ⊢
  dsimp only
  split
  · rename_i least
    exact (log_eq ratio ((scale_le_iff n positive k).mp least) below).symm
  · rename_i less
    have short : (n : ℚ) / d < 2 ^ (k - 1 + 1) := by
      rw [Int.sub_add_cancel]
      exact not_le.mp fun least => less ((scale_le_iff n positive k).mpr least)
    exact (log_eq ratio above.le short).symm

end ratio

section rounding

variable {n d n' d' : Nat} {negative : Bool}

/-- Fractions that stand for the same amount are rounded to the same number. -/
theorem ofRatio_congr (positive : 0 < d) (positive' : 0 < d') (same : (n : ℚ) / d = n' / d') :
    ofRatio negative n d = ofRatio negative n' d' := by
  have crossed := (ratio_eq_iff positive positive').mp same
  by_cases zero : n = 0
  · have zero' : n' = 0 := by
      rw [zero, Nat.zero_mul] at crossed
      exact (Nat.mul_eq_zero.mp crossed.symm).resolve_right positive.ne'
    rw [zero, zero', ofRatio, ofRatio, if_pos rfl, if_pos rfl]
  · have nonzero' : n' ≠ 0 := by
      rintro rfl
      rw [Nat.zero_mul] at crossed
      exact (Nat.mul_pos (Nat.pos_of_ne_zero zero) positive').ne' crossed
    have logs : floorLog2 n d = floorLog2 n' d' := by rw [floorLog2_eq zero positive, floorLog2_eq nonzero' positive', same]
    have mantissas (power : Int) :
        nearest (scale n d power).1 (scale n d power).2 = nearest (scale n' d' power).1 (scale n' d' power).2 := by
      apply nearest_congr (scale_pos n positive power) (scale_pos n' positive' power)
      rw [← ratio_eq_iff (scale_pos n positive power) (scale_pos n' positive' power), ratio_scale, ratio_scale, same]
    simp only [ofRatio, if_neg zero, if_neg nonzero', logs, mantissas]

theorem ofParts_of_canonical {mantissa : Nat} {exponent : Int} (canonical : Canonical mantissa exponent) :
    ofParts negative mantissa exponent = .finite negative mantissa exponent canonical := dif_pos canonical

theorem ofParts_of_large {mantissa : Nat} {exponent : Int} (large : 971 < exponent) :
    ofParts negative mantissa exponent = .infinite negative :=
  dif_neg fun canonical => absurd canonical.2.2.1 (not_le.mpr large)

/-- An amount that a number has exactly is rounded to that number. -/
theorem ofRatio_exact {m : Nat} {e : Int} (canonical : Canonical m e) (nonzero : m ≠ 0) (positive : 0 < d)
    (same : (n : ℚ) / d = m * 2 ^ e) : ofRatio negative n d = .finite negative m e canonical := by
  have amount : (0 : ℚ) < m * 2 ^ e := by positivity
  have numerator : n ≠ 0 := by
    rintro rfl
    rw [Nat.cast_zero, zero_div] at same
    exact amount.ne same
  have exponent : max (floorLog2 n d - 52) (-1074) = e := by
    have least : -1074 ≤ e := canonical.2.1
    have upper : Int.log 2 ((m : ℚ) * 2 ^ e) < 53 + e := by
      apply (Int.lt_zpow_iff_log_lt (by decide) amount).mp
      push_cast
      rw [zpow_add₀ two_ne_zero]
      gcongr
      exact_mod_cast canonical.mantissa_lt
    rw [floorLog2_eq numerator positive, same]
    by_cases above : -1074 < e
    · have lower : 52 + e ≤ Int.log 2 ((m : ℚ) * 2 ^ e) := by
        apply (Int.zpow_le_iff_le_log (by decide) amount).mp
        push_cast
        rw [zpow_add₀ two_ne_zero]
        gcongr
        exact_mod_cast canonical.le_mantissa above
      omega
    · omega
  have mantissa : nearest (scale n d (-e)).1 (scale n d (-e)).2 = m := by
    have scaled := ratio_scale n d (-e)
    rw [same, mul_assoc, ← zpow_add₀ two_ne_zero, add_neg_cancel, zpow_zero, mul_one] at scaled
    rw [div_eq_iff (by exact_mod_cast (scale_pos n positive (-e)).ne')] at scaled
    have product : (scale n d (-e)).1 = m * (scale n d (-e)).2 := by exact_mod_cast scaled
    rw [product]
    exact nearest_mul m (scale_pos n positive (-e))
  have short : m ≠ Nat.pow 2 53 := canonical.1.ne
  simp only [ofRatio, if_neg numerator, exponent, mantissa, if_neg short]
  exact ofParts_of_canonical canonical

theorem ofRatio_large (positive : 0 < d) (large : (2 : ℚ) ^ (1024 : Int) ≤ n / d) :
    ofRatio negative n d = .infinite negative := by
  have ratio : (0 : ℚ) < n / d := lt_of_lt_of_le (by positivity) large
  have nonzero : n ≠ 0 := by
    rintro rfl
    simp at ratio
  have log : 1024 ≤ Int.log 2 ((n : ℚ) / d) := (Int.zpow_le_iff_le_log (by decide) ratio).mp (by exact_mod_cast large)
  simp only [ofRatio, if_neg nonzero, floorLog2_eq nonzero positive]
  split
  · exact ofParts_of_large (by omega)
  · exact ofParts_of_large (by omega)

/-- Less than half of the least number that is not zero. -/
theorem ofRatio_small (nonzero : n ≠ 0) (positive : 0 < d) (small : (n : ℚ) / d < 2 ^ (-1075 : Int)) :
    ofRatio negative n d = zero negative := by
  have ratio : (0 : ℚ) < n / d := by positivity
  have log : Int.log 2 ((n : ℚ) / d) < -1075 := (Int.lt_zpow_iff_log_lt (by decide) ratio).mp (by exact_mod_cast small)
  have exponent : max (floorLog2 n d - 52) (-1074) = -1074 := by
    rw [floorLog2_eq nonzero positive]
    omega
  have denominator : (0 : ℚ) < (scale n d 1074).2 := by exact_mod_cast scale_pos n positive 1074
  have half : 2 * (scale n d 1074).1 < (scale n d 1074).2 := by
    have scaled : 2 * ((scale n d 1074).1 : ℚ) / (scale n d 1074).2 < 1 := by
      calc 2 * ((scale n d 1074).1 : ℚ) / (scale n d 1074).2
          = 2 * (n / d * 2 ^ (1074 : Int)) := by rw [mul_div_assoc, ratio_scale]
        _ < 2 * (2 ^ (-1075 : Int) * 2 ^ (1074 : Int)) := by gcongr
        _ = 1 := by
            rw [← zpow_add₀ two_ne_zero]
            norm_num
    rw [div_lt_one denominator] at scaled
    exact_mod_cast scaled
  simp only [ofRatio, if_neg nonzero, exponent, Int.neg_neg, nearest_eq_zero half]
  rfl

theorem neg_ofParts (mantissa : Nat) (exponent : Int) :
    (ofParts false mantissa exponent).neg = ofParts true mantissa exponent := by
  unfold ofParts
  split <;> rfl

theorem neg_ofRatio (n d : Nat) : (ofRatio false n d).neg = ofRatio true n d := by
  unfold ofRatio
  split
  · rfl
  · dsimp only
    split
    · exact neg_ofParts _ _
    · exact neg_ofParts _ _

end rounding

end Binary64

end ParseKit
