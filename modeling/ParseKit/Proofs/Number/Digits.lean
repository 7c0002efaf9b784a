import Mathlib
import ParseKit.Number.Numeral

/-!
Decimal digits and their value by position. Main statement: the digits of an integer determine it.
-/

namespace ParseKit

namespace Numeral

theorem foldl_digits (s : Text) (n : Nat) :
    s.foldl (fun n c => n * 10 + (c.toNat - 48)) n = n * 10 ^ s.length + value s := by
  induction s generalizing n with
  | nil => simp [value]
  | cons c s ih =>
    simp only [value, List.foldl_cons, List.length_cons]
    rw [ih, ih (0 * 10 + (c.toNat - 48))]
    ring

theorem value_append (first second : Text) : value (first ++ second) = value first * 10 ^ second.length + value second := by
  rw [value, List.foldl_append, foldl_digits]
  rfl

theorem value_zeros (k : Nat) : value (List.replicate k '0') = 0 := by
  induction k with
  | zero => rfl
  | succ k ih =>
    rw [List.replicate_succ', value_append, ih]
    rfl

theorem value_zeros_append (k : Nat) (digits : Text) : value (List.replicate k '0' ++ digits) = value digits := by
  rw [value_append, value_zeros, Nat.zero_mul, Nat.zero_add]

theorem value_lt {digits : Text} (inside : ∀ c ∈ digits, c.isDigit) : value digits < 10 ^ digits.length := by
  induction digits with
  | nil => decide
  | cons c digits ih =>
    have first : c.toNat - 48 < 10 := by
      have digit := inside c List.mem_cons_self
      simp only [Char.isDigit, Bool.and_eq_true, decide_eq_true_eq, UInt32.le_iff_toNat_le] at digit
      have most : c.toNat ≤ 57 := digit.2
      omega
    have others := ih fun d member => inside d (List.mem_cons_of_mem c member)
    have split : value (c :: digits) = (c.toNat - 48) * 10 ^ digits.length + value digits := by
      rw [value, List.foldl_cons, foldl_digits, Nat.zero_mul, Nat.zero_add]
    rw [split, List.length_cons, Nat.pow_succ]
    nlinarith

theorem isDigit_zeros (k : Nat) : ∀ c ∈ List.replicate k '0', c.isDigit := by
  intro c member
  rw [List.eq_of_mem_replicate member]
  decide

theorem isDigit_zeros_append (k : Nat) {digits : Text} (inside : ∀ c ∈ digits, c.isDigit) :
    ∀ c ∈ List.replicate k '0' ++ digits, c.isDigit := List.forall_mem_append.mpr ⟨isDigit_zeros k, inside⟩

theorem isDigit_ofNat (n : Nat) : ∀ c ∈ Text.ofNat n, c.isDigit :=
  fun _ => Nat.isDigit_of_mem_toDigits (by decide) (by decide)

theorem value_ofNat (n : Nat) : value (Text.ofNat n) = n := by
  calc value (Text.ofNat n)
      = Nat.ofDigitChars 10 (Nat.toDigits 10 n) 0 := by
        rw [Nat.ofDigitChars_eq_foldl, value, Text.ofNat]
        simp only [Nat.mul_comm 10]
        rfl
    _ = n := Nat.ofDigitChars_ten_toDigits

end Numeral

namespace Text

theorem ofNat_ne_nil (n : Nat) : ofNat n ≠ [] := Nat.toDigits_ne_nil

/-- An integer has digits, with a minus in front of them if it is negative. -/
theorem ofInt_eq (n : Int) : ofInt n = if n < 0 then '-' :: ofNat n.natAbs else ofNat n.natAbs := by
  cases n with
  | ofNat n => exact (if_neg (Int.not_lt.mpr (Int.natCast_nonneg n))).symm
  | negSucc n => exact (if_pos (Int.negSucc_lt_zero n)).symm

/-- The decimal expansion of an integer: a minus if it is negative, and its digits without a zero in front of them. -/
def IsExpansion (s : Text) (n : Int) : Prop :=
  ∃ digits, s = (if n < 0 then '-' :: digits else digits) ∧ digits ≠ [] ∧ (∀ c ∈ digits, c.isDigit) ∧
    Numeral.value digits = n.natAbs ∧ (digits.head? = some '0' → digits = ['0'])

/-- With a zero in front the digits would stand for less than their number says. -/
theorem ofNat_of_zero {n : Nat} (zero : (ofNat n).head? = some '0') : ofNat n = ['0'] := by
  obtain ⟨rest, digits⟩ := List.head?_eq_some_iff.mp zero
  have inside : ∀ c ∈ rest, c.isDigit := fun c member => Numeral.isDigit_ofNat n c (digits ▸ List.mem_cons_of_mem _ member)
  have worth : Numeral.value rest = n := by
    rw [← Numeral.value_ofNat n, digits]
    exact (Numeral.value_zeros_append 1 rest).symm
  cases rest with
  | nil => exact digits
  | cons c rest =>
    have below := Numeral.value_lt inside
    rw [worth] at below
    have few := (Nat.length_toDigits_le_iff (by decide) (List.length_pos_of_ne_nil (List.cons_ne_nil c rest))).mpr below
    rw [← ofNat, digits, List.length_cons] at few
    omega

theorem isExpansion_ofInt (n : Int) : (ofInt n).IsExpansion n :=
  ⟨ofNat n.natAbs, ofInt_eq n, ofNat_ne_nil _, Numeral.isDigit_ofNat _, Numeral.value_ofNat _, ofNat_of_zero⟩

theorem IsExpansion.minus_or_digit {s : Text} {n : Int} (expansion : s.IsExpansion n) : ∀ c ∈ s, c = '-' ∨ c.isDigit := by
  obtain ⟨digits, rfl, -, inside, -⟩ := expansion
  intro c member
  split at member
  · rcases List.mem_cons.mp member with minus | member
    · exact .inl minus
    · exact .inr (inside c member)
  · exact .inr (inside c member)

theorem IsExpansion.unique {s : Text} {m n : Int} (first : s.IsExpansion m) (second : s.IsExpansion n) : m = n := by
  have minus {digits : Text} (inside : ∀ c ∈ digits, c.isDigit) : '-' ∉ digits :=
    fun member => absurd (inside '-' member) (by decide)
  obtain ⟨digits, rfl, -, inside, worth, -⟩ := first
  obtain ⟨digits', same, -, inside', worth', -⟩ := second
  split at same
  · split at same
    · cases same
      omega
    · exact absurd (same ▸ List.mem_cons_self) (minus inside')
  · split at same
    · exact absurd (same ▸ List.mem_cons_self) (minus inside)
    · cases same
      omega

theorem ofInt_injective : Function.Injective ofInt := by
  intro m n same
  have expansion := isExpansion_ofInt n
  rw [← same] at expansion
  exact (isExpansion_ofInt m).unique expansion

end Text

end ParseKit
