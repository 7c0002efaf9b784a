import ParseKit.Number.Shortest
import ParseKit.Proofs.Number.Rounding

/-!
Decimals that identify a number. Main statement: the decimal that is chosen for a number reads back to it, with either sign.
-/

namespace ParseKit

namespace Decimal

def amount (d : Decimal) : ℚ := d.digits * 10 ^ d.exponent

theorem ten_zpow (exponent : Int) :
    (10 : ℚ) ^ exponent = (10 ^ exponent.toNat : Nat) / (10 ^ (-exponent).toNat : Nat) := by
  have power := Binary64.zpow_eq_div 10 exponent
  rwa [Nat.cast_ofNat] at power

/-- Inside the range of double precision, where it is neither too large nor too small for any number but zero. -/
structure InRange (d : Decimal) : Prop where
  nonzero : d.digits ≠ 0
  least : (2 : ℚ) ^ (-1075 : Int) ≤ d.amount
  most : d.amount < 2 ^ (1024 : Int)

def numerator (d : Decimal) : Nat := d.digits * Nat.pow 10 d.exponent.toNat

def denominator (d : Decimal) : Nat := Nat.pow 10 (-d.exponent).toNat

theorem denominator_pos (d : Decimal) : 0 < d.denominator := Nat.pow_pos (by decide)

theorem ratio_eq_amount (d : Decimal) : (d.numerator : ℚ) / d.denominator = d.amount := by
  rw [amount, ten_zpow, numerator, denominator, Nat.pow_eq, Nat.pow_eq, Nat.cast_mul, mul_div_assoc]

/-- The number in double precision that is nearest to a decimal. -/
def toNumber (negative : Bool) (d : Decimal) : Binary64 := .ofDecimal negative d.digits d.exponent

theorem toNumber_eq (negative : Bool) (d : Decimal) :
    d.toNumber negative = .ofRatio negative d.numerator d.denominator := rfl

section reading

variable {d d' : Decimal} {negative : Bool} {m : Nat} {e : Int}

theorem toNumber_congr (same : d.amount = d'.amount) : d.toNumber negative = d'.toNumber negative := by
  rw [toNumber_eq, toNumber_eq]
  apply Binary64.ofRatio_congr d.denominator_pos d'.denominator_pos
  rw [ratio_eq_amount, ratio_eq_amount, same]

theorem toNumber_exact (canonical : Binary64.Canonical m e) (nonzero : m ≠ 0) (exact : d.amount = m * 2 ^ e) :
    d.toNumber negative = .finite negative m e canonical := by
  rw [toNumber_eq]
  apply Binary64.ofRatio_exact canonical nonzero d.denominator_pos
  rw [ratio_eq_amount, exact]

theorem toNumber_signed {canonical : Binary64.Canonical m e} (read : d.toNumber false = .finite false m e canonical) :
    d.toNumber negative = .finite negative m e canonical := by
  cases negative with
  | false => exact read
  | true =>
    calc d.toNumber true
        = (d.toNumber false).neg := (Binary64.neg_ofRatio _ _).symm
      _ = .finite true m e canonical := by rw [read]; rfl

theorem inRange_of_read {canonical : Binary64.Canonical m e} (nonzero : m ≠ 0)
    (read : d.toNumber negative = .finite negative m e canonical) : d.InRange := by
  have digits : d.digits ≠ 0 := by
    intro none
    rw [toNumber_eq, numerator, none, Nat.zero_mul, Binary64.ofRatio, if_pos rfl] at read
    cases read
    exact nonzero rfl
  refine ⟨digits, ?_, ?_⟩
  · by_contra small
    have positive : d.numerator ≠ 0 := Nat.mul_ne_zero digits (Nat.pow_pos (by decide)).ne'
    rw [← ratio_eq_amount, not_le] at small
    rw [toNumber_eq, Binary64.ofRatio_small positive d.denominator_pos small] at read
    cases read
    exact nonzero rfl
  · by_contra large
    rw [← ratio_eq_amount, not_lt] at large
    rw [toNumber_eq, Binary64.ofRatio_large d.denominator_pos large] at read
    cases read

end reading

theorem amount_strip (limit : Nat) (d : Decimal) : (strip limit d).amount = d.amount := by
  induction limit generalizing d with
  | zero => rfl
  | succ limit ih =>
    unfold strip
    split
    · rename_i zero
      have tenfold : (d.digits : ℚ) = (d.digits / 10 : Nat) * 10 := by
        exact_mod_cast (Nat.div_mul_cancel (Nat.dvd_of_mod_eq_zero zero.2)).symm
      rw [ih, amount, amount, tenfold, zpow_add_one₀ (by norm_num)]
      ring
    · rfl

theorem amount_exact (mantissa : Nat) (exponent : Int) : (exact mantissa exponent).amount = mantissa * 2 ^ exponent := by
  unfold exact
  split
  · rename_i whole
    obtain ⟨k, rfl⟩ := Int.eq_ofNat_of_zero_le whole
    simp [amount]
  · rename_i fraction
    obtain ⟨k, rfl⟩ : ∃ k : Nat, exponent = -k := ⟨(-exponent).toNat, by omega⟩
    have ten : (10 : ℚ) ^ k = 5 ^ k * 2 ^ k := by rw [← mul_pow]; norm_num
    simp only [amount, neg_neg, Int.toNat_natCast, zpow_neg, zpow_natCast, ten, Nat.pow_eq]
    push_cast
    field_simp

theorem onGrid_accepts {accept : Decimal → Bool} {n d : Nat} {exponent : Int} {found : Decimal}
    (given : onGrid accept n d exponent = some found) : accept found := by
  unfold onGrid at given
  dsimp only at given
  split at given
  · split at given
    · cases given; assumption
    · cases given; assumption
  · cases given; assumption
  · cases given; assumption
  · cases given

theorem shortest_reads_back {m : Nat} {e : Int} (canonical : Binary64.Canonical m e) (nonzero : m ≠ 0) (negative : Bool) :
    (shortest m e).toNumber negative = .finite negative m e canonical := by
  apply toNumber_signed
  unfold shortest
  dsimp only
  rw [toNumber_congr (amount_strip _ _)]
  cases found : (List.range 17).findSome? _ with
  | none => exact toNumber_exact canonical nonzero (amount_exact m e)
  | some candidate =>
    obtain ⟨extra, -, given⟩ := List.exists_of_findSome?_eq_some found
    have accepted := onGrid_accepts given
    rw [decide_eq_true_eq, Binary64.ofParts_of_canonical canonical] at accepted
    exact accepted

end Decimal

end ParseKit
