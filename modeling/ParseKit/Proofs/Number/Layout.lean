import ParseKit.Number.Layout
import ParseKit.Proofs.Arithmetic.Conversion
import ParseKit.Proofs.Number.Digits
import ParseKit.Proofs.Number.Shortest

/-!
Numbers in double precision as text. Main statement: the text of a number is read as that number, laid out by position or
with an exponent; so different numbers have different texts.
-/

namespace ParseKit

namespace Numeral

theorem splitDecimal_whole {whole rest : Text} (nonempty : whole ≠ []) (inside : ∀ c ∈ whole, c.isDigit)
    (ends : ∀ c, rest.head? = some c → c.isDigit = false ∧ c ≠ '.') :
    splitDecimal (whole ++ rest) = some (whole, [], rest) := by
  have stops : ∀ c, rest.head? = some c → c.isDigit = false := fun c first => (ends c first).1
  simp only [splitDecimal, Text.takeWhile_exact inside stops, Text.dropWhile_exact inside stops]
  split
  · exact absurd rfl (ends '.' rfl).2
  · simp [nonempty]

/-- A text without a sign is read as the number nearest to a decimal, whose digits it has in a number of places. -/
structure Reads (s : Text) (d : Decimal) (places : Nat) : Prop where
  first : ∃ c rest, s = c :: rest ∧ c.isDigit
  read : ∀ negative, readMagnitude negative s = some (nearest negative d.digits places d.exponent)

section reads

variable {whole fraction rest : Text} {exponent : Int}

theorem reads_point (nonempty : whole ≠ []) (inside : ∀ c ∈ whole, c.isDigit) (behind : ∀ c ∈ fraction, c.isDigit)
    (ends : ∀ c, rest.head? = some c → c.isDigit = false) (power : readExponent rest = some exponent) :
    Reads (whole ++ '.' :: (fraction ++ rest)) ⟨value (whole ++ fraction), exponent - fraction.length⟩
      (whole ++ fraction).length := by
  obtain ⟨c, whole, rfl⟩ := List.exists_cons_of_ne_nil nonempty
  have digit := inside c List.mem_cons_self
  exact ⟨⟨c, _, rfl, digit⟩, fun negative =>
    readMagnitude_digit negative digit (splitDecimal_point nonempty inside behind ends) power⟩

theorem reads_fraction (nonempty : whole ≠ []) (inside : ∀ c ∈ whole, c.isDigit) (behind : ∀ c ∈ fraction, c.isDigit) :
    Reads (whole ++ '.' :: fraction) ⟨value (whole ++ fraction), -fraction.length⟩ (whole ++ fraction).length := by
  have ends : ∀ c, ([] : Text).head? = some c → c.isDigit = false := fun c first => nomatch first
  have power : readExponent [] = some 0 := rfl
  have reads := reads_point nonempty inside behind ends power
  rwa [List.append_nil, Int.zero_sub] at reads

theorem reads_whole (nonempty : whole ≠ []) (inside : ∀ c ∈ whole, c.isDigit)
    (ends : ∀ c, rest.head? = some c → c.isDigit = false ∧ c ≠ '.') (power : readExponent rest = some exponent) :
    Reads (whole ++ rest) ⟨value whole, exponent⟩ whole.length := by
  obtain ⟨c, whole, rfl⟩ := List.exists_cons_of_ne_nil nonempty
  have digit := inside c List.mem_cons_self
  refine ⟨⟨c, _, rfl, digit⟩, fun negative => ?_⟩
  have read := readMagnitude_digit negative digit (splitDecimal_whole nonempty inside ends) power
  rwa [List.append_nil, List.length_nil, Int.natCast_zero, Int.sub_zero] at read

end reads

/-- A text without a sign stands for an amount, and has its digits at places where numbers are calculated. -/
def StandsFor (s : Text) (amount : ℚ) : Prop :=
  ∃ d places, Reads s d places ∧ d.amount = amount ∧ -400 ≤ d.exponent + places ∧ d.exponent ≤ 400

theorem StandsFor.first {s : Text} {amount : ℚ} (stands : StandsFor s amount) : ∃ c rest, s = c :: rest ∧ c.isDigit := by
  obtain ⟨d, places, reads, -⟩ := stands
  exact reads.first

theorem StandsFor.read {s : Text} {d : Decimal} (stands : StandsFor s d.amount) (nonzero : d.digits ≠ 0) (negative : Bool) :
    readMagnitude negative s = some (d.toNumber negative) := by
  obtain ⟨d', places, reads, same, least, most⟩ := stands
  have nonzero' : d'.digits ≠ 0 := by
    intro none
    rw [Decimal.amount, Decimal.amount, none, Nat.cast_zero, zero_mul, eq_comm, mul_eq_zero, Nat.cast_eq_zero] at same
    exact same.elim nonzero (zpow_ne_zero _ (by norm_num))
  rw [reads.read negative, ← Decimal.toNumber_congr same]
  unfold nearest
  rw [if_neg nonzero', if_neg (by omega), if_neg (by omega)]
  rfl

theorem readExponent_signed {digits : Text} (nonempty : digits ≠ []) (inside : ∀ c ∈ digits, c.isDigit) :
    readExponent ('e' :: '-' :: digits) = some (-(value digits : Int)) ∧
      readExponent ('e' :: '+' :: digits) = some (value digits : Int) := by
  have all : digits.all Char.isDigit := List.all_eq_true.mpr inside
  constructor <;> simp [readExponent, splitSign, nonempty, all, Binary64.signed]

end Numeral

namespace Layout

open Numeral

theorem readExponent_exponentText (layout : Layout) (exponent : Int) :
    readExponent ('e' :: layout.exponentText exponent) = some exponent := by
  unfold exponentText
  dsimp only
  have inside := isDigit_zeros_append (layout.width - (Text.ofNat exponent.natAbs).length) (isDigit_ofNat exponent.natAbs)
  have nonempty := List.append_ne_nil_of_right_ne_nil
    (List.replicate (layout.width - (Text.ofNat exponent.natAbs).length) '0') (Text.ofNat_ne_nil exponent.natAbs)
  have read := readExponent_signed nonempty inside
  rw [value_zeros_append, value_ofNat] at read
  split
  · rw [read.1, Option.some_inj]
    omega
  · rw [read.2, Option.some_inj]
    omega

section digits

variable {t : Text} (inside : ∀ c ∈ t, c.isDigit)

include inside

theorem standsFor_zeros (k : Nat) :
    StandsFor ('0' :: '.' :: (List.replicate k '0' ++ t)) (value t * 10 ^ (-k - t.length : Int)) := by
  have reads := reads_fraction (List.cons_ne_nil '0' []) (isDigit_zeros 1) (isDigit_zeros_append k inside)
  have same : value (['0'] ++ (List.replicate k '0' ++ t)) = value t := by
    rw [value_append, value_zeros_append, show value ['0'] = 0 from rfl, Nat.zero_mul, Nat.zero_add]
  rw [same] at reads
  refine ⟨_, _, reads, ?_, ?_, ?_⟩
  · rw [Decimal.amount, List.length_append, List.length_replicate, Nat.cast_add, neg_add']
  · simp only [List.length_append, List.length_singleton]
    omega
  · dsimp only
    omega

theorem standsFor_point_zero (nonempty : t ≠ []) (k : Nat) :
    StandsFor (t ++ List.replicate k '0' ++ ['.', '0']) (value t * 10 ^ (k : Int)) := by
  have before : ∀ c ∈ t ++ List.replicate k '0', c.isDigit :=
    List.forall_mem_append.mpr ⟨inside, isDigit_zeros k⟩
  refine ⟨_, _, reads_fraction (List.append_ne_nil_of_left_ne_nil nonempty _) before (isDigit_zeros 1), ?_, ?_, ?_⟩
  · rw [Decimal.amount, value_append, value_append, value_zeros, show value ['0'] = 0 from rfl]
    simp
  · simp only [List.length_append, List.length_replicate]
    omega
  · dsimp only
    omega

theorem standsFor_point (nonempty : t ≠ []) {count : Nat} (positive : 0 < count) (inner : count ≤ t.length) :
    StandsFor (t.take count ++ '.' :: t.drop count) (value t * 10 ^ (count - t.length : Int)) := by
  have some : t.take count ≠ [] := by
    rw [Ne, List.take_eq_nil_iff]
    exact not_or.mpr ⟨positive.ne', nonempty⟩
  have before : ∀ c ∈ t.take count, c.isDigit := fun c member => inside c (List.mem_of_mem_take member)
  have behind : ∀ c ∈ t.drop count, c.isDigit := fun c member => inside c (List.mem_of_mem_drop member)
  have reads := reads_fraction some before behind
  rw [List.take_append_drop, List.length_drop] at reads
  have exponent : (-(t.length - count : Nat) : Int) = count - t.length := by omega
  rw [exponent] at reads
  refine ⟨_, _, reads, rfl, ?_, ?_⟩
  · dsimp only
    omega
  · dsimp only
    omega

theorem standsFor_positional (nonempty : t ≠ []) (whole : Int) :
    StandsFor (positional t whole) (value t * 10 ^ (whole - t.length)) := by
  unfold positional
  split
  · have stands := standsFor_zeros inside (-whole).toNat
    rwa [show (-(-whole).toNat : Int) = whole by omega] at stands
  · dsimp only
    split
    · have stands := standsFor_point_zero inside nonempty (whole.toNat - t.length)
      rwa [show ((whole.toNat - t.length : Nat) : Int) = whole - t.length by omega] at stands
    · have positive : 0 < whole.toNat := by omega
      have stands := standsFor_point inside nonempty positive (by omega)
      rwa [show (whole.toNat : Int) = whole by omega] at stands

theorem standsFor_scientific (nonempty : t ≠ []) {layout : Layout} (mark : layout.mark = 'e') {exponent : Int}
    (least : -400 ≤ exponent + 1) (most : exponent + 1 - t.length ≤ 400) :
    StandsFor (layout.scientific t exponent) (value t * 10 ^ (exponent + 1 - t.length)) := by
  obtain ⟨c, others, rfl⟩ := List.exists_cons_of_ne_nil nonempty
  have first : ∀ d ∈ [c], d.isDigit := List.forall_mem_singleton.mpr (inside c List.mem_cons_self)
  have power := layout.readExponent_exponentText exponent
  have ends : ∀ d, ('e' :: layout.exponentText exponent).head? = some d → d.isDigit = false ∧ d ≠ '.' := by
    rintro d ⟨⟩
    decide
  unfold scientific
  rw [mark]
  cases others with
  | nil =>
    refine ⟨_, _, reads_whole (List.cons_ne_nil c []) first ends power, ?_, ?_, ?_⟩
    · simp [Decimal.amount]
    · simpa using least
    · simpa using most
  | cons d others =>
    have behind : ∀ c ∈ d :: others, c.isDigit := fun c member => inside c (List.mem_cons_of_mem _ member)
    have reads := reads_point (List.cons_ne_nil c []) first behind (fun d first => (ends d first).1) power
    have shift : exponent - (d :: others).length = exponent + 1 - (c :: d :: others).length := by
      simp only [List.length_cons]
      omega
    rw [shift] at reads
    refine ⟨_, _, reads, rfl, ?_, most⟩
    simp only [List.length_append, List.length_cons, List.length_nil]
    omega

theorem isPart_positional (whole : Int) : ∀ c ∈ positional t whole, IsPart c := by
  have zero : IsPart '0' := .inl (by decide)
  have point : IsPart '.' := .inr (.inl rfl)
  have parts : ∀ c ∈ t, IsPart c := fun c member => .inl (inside c member)
  have zeros (k : Nat) : ∀ c ∈ List.replicate k '0', IsPart c := fun c member => .inl (isDigit_zeros k c member)
  unfold positional
  split
  · exact List.forall_mem_cons.mpr ⟨zero, List.forall_mem_cons.mpr ⟨point, List.forall_mem_append.mpr ⟨zeros _, parts⟩⟩⟩
  · dsimp only
    split
    · have fraction : ∀ c ∈ ['.', '0'], IsPart c := List.forall_mem_cons.mpr ⟨point, List.forall_mem_singleton.mpr zero⟩
      exact List.forall_mem_append.mpr ⟨List.forall_mem_append.mpr ⟨parts, zeros _⟩, fraction⟩
    · exact List.forall_mem_append.mpr ⟨fun c member => parts c (List.mem_of_mem_take member),
        List.forall_mem_cons.mpr ⟨point, fun c member => parts c (List.mem_of_mem_drop member)⟩⟩

theorem isPart_scientific {layout : Layout} (mark : layout.mark = 'e') (exponent : Int) :
    ∀ c ∈ layout.scientific t exponent, IsPart c := by
  have digits := isDigit_zeros_append (layout.width - (Text.ofNat exponent.natAbs).length) (isDigit_ofNat exponent.natAbs)
  have power : ∀ c ∈ layout.exponentText exponent, IsPart c := by
    unfold exponentText
    refine List.forall_mem_cons.mpr ⟨?_, fun c member => .inl (digits c member)⟩
    split
    · exact .inr (.inr (.inr (.inr rfl)))
    · exact .inr (.inr (.inr (.inl rfl)))
  have before : ∀ c ∈ t.take 1, IsPart c := fun c member => .inl (inside c (List.mem_of_mem_take member))
  have behind : ∀ c ∈ '.' :: t.drop 1, IsPart c :=
    List.forall_mem_cons.mpr ⟨.inr (.inl rfl), fun c member => .inl (inside c (List.mem_of_mem_drop member))⟩
  unfold scientific
  rw [mark]
  refine List.forall_mem_append.mpr ⟨List.forall_mem_append.mpr ⟨before, ?_⟩, List.forall_mem_cons.mpr ⟨?_, power⟩⟩
  · split
    · exact List.forall_mem_nil _
    · exact behind
  · exact .inr (.inr (.inl rfl))

end digits

theorem two_zpow_le {k n : Nat} (enough : k ≤ 3 * n) : (2 : ℚ) ^ (k : Int) ≤ 10 ^ (n : Int) := by
  rw [zpow_natCast, zpow_natCast]
  calc (2 : ℚ) ^ k
      ≤ 2 ^ (3 * n) := pow_le_pow_right₀ (by norm_num) enough
    _ = (2 ^ 3) ^ n := pow_mul 2 3 n
    _ ≤ 10 ^ n := pow_le_pow_left₀ (by norm_num) (by norm_num) n

theorem ten_zpow_neg_le {k n : Nat} (enough : k ≤ 3 * n) : (10 : ℚ) ^ (-n : Int) ≤ 2 ^ (-k : Int) := by
  rw [zpow_neg, zpow_neg]
  exact inv_anti₀ (by positivity) (two_zpow_le enough)

/-- A decimal in the range of double precision has an exponent and a number of digits that are small. -/
theorem exponent_range {d : Decimal} (inside : d.InRange) :
    -400 ≤ d.exponent + (Text.ofNat d.digits).length ∧ d.exponent ≤ 400 := by
  constructor
  · by_contra small
    have places := value_lt (isDigit_ofNat d.digits)
    rw [value_ofNat] at places
    have bound : (d.digits : ℚ) < 10 ^ (Text.ofNat d.digits).length := by exact_mod_cast places
    have below := calc d.amount
        < 10 ^ (Text.ofNat d.digits).length * 10 ^ d.exponent := by unfold Decimal.amount; gcongr
      _ = (10 : ℚ) ^ (d.exponent + (Text.ofNat d.digits).length) := by
        rw [zpow_add₀ (by norm_num), zpow_natCast, mul_comm]
      _ ≤ 10 ^ (-401 : Int) := zpow_le_zpow_right₀ (by norm_num) (by omega)
      _ ≤ 2 ^ (-1075 : Int) := ten_zpow_neg_le (show 1075 ≤ 3 * 401 by decide)
    exact absurd inside.least (not_le.mpr below)
  · by_contra large
    have one : (1 : ℚ) ≤ d.digits := by exact_mod_cast Nat.pos_of_ne_zero inside.nonzero
    have above := calc (2 : ℚ) ^ (1024 : Int)
        ≤ 10 ^ (401 : Int) := two_zpow_le (show 1024 ≤ 3 * 401 by decide)
      _ ≤ 10 ^ d.exponent := zpow_le_zpow_right₀ (by norm_num) (by omega)
      _ ≤ d.amount := le_mul_of_one_le_left (by positivity) one
    exact absurd inside.most (not_lt.mpr above)

section decimal

variable {layout : Layout} (mark : layout.mark = 'e')

include mark

theorem standsFor_decimal {d : Decimal} (inside : d.InRange) : StandsFor (layout.decimal d) d.amount := by
  have small := exponent_range inside
  unfold decimal
  dsimp only
  generalize lead : d.exponent + (Text.ofNat d.digits).length - 1 = exponent
  have shift : exponent + 1 - (Text.ofNat d.digits).length = d.exponent := by omega
  split
  · have stands := standsFor_positional (isDigit_ofNat d.digits) (Text.ofNat_ne_nil d.digits) (exponent + 1)
    rw [value_ofNat, shift] at stands
    exact stands
  · have stands := standsFor_scientific (isDigit_ofNat d.digits) (Text.ofNat_ne_nil d.digits) mark
      (show -400 ≤ exponent + 1 by omega) (by omega)
    rw [value_ofNat, shift] at stands
    exact stands

theorem isPart_decimal (d : Decimal) : ∀ c ∈ layout.decimal d, IsPart c := by
  unfold decimal
  dsimp only
  split
  · exact isPart_positional (isDigit_ofNat d.digits) _
  · exact isPart_scientific (isDigit_ofNat d.digits) mark _

end decimal

/-- A decimal is no integer as text: it has a point or an exponent. -/
theorem point_or_mark_mem (layout : Layout) (d : Decimal) : '.' ∈ layout.decimal d ∨ layout.mark ∈ layout.decimal d := by
  unfold decimal
  dsimp only
  split
  · left
    unfold positional
    split
    · simp
    · dsimp only
      split <;> simp
  · right
    unfold scientific
    exact List.mem_append_right _ List.mem_cons_self

end Layout

end ParseKit
