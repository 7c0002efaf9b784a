import ParseKit.Proofs.Arithmetic.Longest
import ParseKit.Proofs.Number.Digits
import ParseKit.Proofs.Wording

/-!
The value of a literal. Main statement: a decimal is the longest literal at the start of a text, and without a point it
is the integer that its digits stand for by their positions, of whatever scripts they are.
-/

namespace ParseKit

namespace Arithmetic

def positional (digits : Text) : Nat := Nat.ofDigits 10 (digits.map digitValue).reverse

end Arithmetic

namespace Numeral

open Arithmetic

theorem value_toAscii {digits : Text} (inside : ∀ c ∈ digits, isDigit c) :
    value (toAscii digits) = positional digits := by
  have values : ∀ n, ∀ c ∈ digits, n * 10 + ((asciiDigit c).toNat - 48) = digitValue c + 10 * n := by
    intro n c member
    rw [toNat_asciiDigit (inside c member)]
    omega
  calc value (toAscii digits)
      = digits.foldl (fun n c => n * 10 + ((asciiDigit c).toNat - 48)) 0 := by
        rw [toAscii_digits inside, value, List.foldl_map]
    _ = digits.foldl (fun n c => digitValue c + 10 * n) 0 := List.foldl_ext _ _ _ values
    _ = positional digits := by
        rw [positional, Nat.ofDigits_eq_foldr, List.foldr_reverse, List.foldl_map]
        rfl

theorem positional_ofNat (n : Nat) : positional (Text.ofNat n) = n := by
  have inside : ∀ c ∈ Text.ofNat n, isDigit c := fun c member => (asciiDigit_of_ascii (isDigit_ofNat n c member)).2
  have parts : ∀ c ∈ Text.ofNat n, IsPart c := fun c member => .inl (isDigit_ofNat n c member)
  calc positional (Text.ofNat n)
      = value (toAscii (Text.ofNat n)) := (value_toAscii inside).symm
    _ = value (Text.ofNat n) := by rw [toAscii_parts parts]
    _ = n := value_ofNat n

end Numeral

namespace Arithmetic

open Text (LongestPrefix)

theorem IsLiteral.snoc {literal : Text} (valid : IsLiteral literal) {c : Char} (digit : isDigit c) :
    IsLiteral (literal ++ [c]) := by
  have one : ∀ d ∈ [c], isDigit d := by simp [digit]
  cases valid with
  | whole nonempty inside => exact .whole (by simp) (List.forall_mem_append.mpr ⟨inside, one⟩)
  | point nonempty inside fractional behind =>
    rw [List.append_assoc, List.cons_append]
    exact .point nonempty inside (by simp) (List.forall_mem_append.mpr ⟨behind, one⟩)

theorem IsLiteral.digits {literal : Text} (valid : IsLiteral literal) (whole : '.' ∉ literal) :
    literal ≠ [] ∧ ∀ c ∈ literal, isDigit c := by
  cases valid with
  | whole nonempty inside => exact ⟨nonempty, inside⟩
  | point => exact absurd (by simp) whole

section boundary

variable {literal rest : Text}

theorem not_longest {more : Text} (longest : LongestPrefix IsLiteral literal (literal ++ rest)) (begins : more <+: rest)
    (nonempty : more ≠ []) : ¬ IsLiteral (literal ++ more) := by
  intro valid
  have bound := (longest.most _ ((List.prefix_append_right_inj literal).mpr begins) valid).length_le
  rw [List.length_append] at bound
  exact nonempty (List.length_eq_zero_iff.mp (by omega))

/-- Behind the longest literal stands no digit. -/
theorem no_digit_behind (longest : LongestPrefix IsLiteral literal (literal ++ rest)) (d : Char)
    (first : rest.head? = some d) : isDigit d = false := by
  obtain ⟨behind, rfl⟩ := List.head?_eq_some_iff.mp first
  cases digit : isDigit d with
  | false => rfl
  | true => exact absurd (longest.belongs.snoc digit) (not_longest longest ⟨behind, rfl⟩ (by simp))

theorem no_fraction_behind (longest : LongestPrefix IsLiteral literal (literal ++ rest)) (whole : '.' ∉ literal)
    (d : Char) (behind : Text) (point : rest = '.' :: d :: behind) : isDigit d = false := by
  obtain ⟨nonempty, inside⟩ := longest.belongs.digits whole
  cases digit : isDigit d with
  | false => rfl
  | true =>
    have valid : IsLiteral (literal ++ '.' :: [d]) := .point nonempty inside (by simp) (by simp [digit])
    exact absurd valid (not_longest longest ⟨behind, point.symm⟩ (by simp))

theorem readLiteral_whole (nonempty : literal ≠ []) (inside : ∀ c ∈ literal, isDigit c)
    (ends : ∀ d, rest.head? = some d → isDigit d = false)
    (dangling : ∀ d behind, rest = '.' :: d :: behind → isDigit d = false) :
    readLiteral (literal ++ rest) = some (literal, rest) := by
  simp only [readLiteral, Text.takeWhile_exact inside ends, Text.dropWhile_exact inside ends, if_neg nonempty]
  split
  · rename_i behind
    have empty : behind.takeWhile isDigit = [] := by
      cases behind with
      | nil => rfl
      | cons d behind => simp [dangling d behind rfl]
    rw [if_pos empty]
  · rfl

end boundary

theorem readLiteral_eq_none {s : Text} : readLiteral s = none ↔ ∀ c, s.head? = some c → isDigit c = false := by
  refine ⟨not_isDigit_of_unread, fun ends => ?_⟩
  have empty : s.takeWhile isDigit = [] := by
    cases s with
    | nil => rfl
    | cons c s => simp [ends c rfl]
  simp [readLiteral, empty]

/-- What becomes of a literal: digits are an integer if they are not too many, and with a point it is a double precision
number. -/
inductive LiteralEnds (literal rest : Text) : Except Fault Outcome → Prop where
  | whole : '.' ∉ literal → literal.length ≤ Numeral.digitLimit →
      LiteralEnds literal rest (.ok (.success (.int (positional literal)) (.text rest)))
  | tooLong : '.' ∉ literal → Numeral.digitLimit < literal.length →
      LiteralEnds literal rest (.error (.integerTooLong literal.length))
  | point {x : Binary64} : '.' ∈ literal → Numeral.readFloat literal = some x →
      LiteralEnds literal rest (.ok (.success (.float x) (.text rest)))

theorem decimal_whole {literal rest : Text} (nonempty : literal ≠ []) (inside : ∀ c ∈ literal, isDigit c)
    (read : readLiteral (literal ++ rest) = some (literal, rest)) :
    decimal (.text (literal ++ rest)) =
      if Numeral.digitLimit < literal.length then ⟨[], .error (.integerTooLong literal.length)⟩
      else ⟨[], .ok (.success (.int (positional literal)) (.text rest))⟩ := by
  rw [decimal_text, read, ← Numeral.value_toAscii inside]
  simp only [toNumber_whole nonempty inside]
  split <;> rfl

theorem exists_literalEnds {literal rest : Text} (valid : IsLiteral literal)
    (read : readLiteral (literal ++ rest) = some (literal, rest)) :
    ∃ result, decimal (.text (literal ++ rest)) = ⟨[], result⟩ ∧ LiteralEnds literal rest result := by
  cases valid with
  | whole nonempty inside =>
    have whole : '.' ∉ literal := fun member => absurd (inside '.' member) (by decide)
    rw [decimal_whole nonempty inside read]
    split
    · rename_i long
      exact ⟨_, rfl, .tooLong whole long⟩
    · rename_i short
      exact ⟨_, rfl, .whole whole (Nat.not_lt.mp short)⟩
  | @point digits fraction nonempty inside _ behind =>
    obtain ⟨x, converted⟩ := Numeral.readFloat_point nonempty inside behind
    have number : Value.toNumber (.text (digits ++ '.' :: fraction)) = .ok (.float x) := by
      simp [Value.toNumber, converted]
    rw [decimal_text, read]
    simp only [number]
    exact ⟨_, rfl, .point (by simp) converted⟩

theorem decimal_ofNat {n : Nat} {rest : Text} (short : Value.IsShort n)
    (ends : ∀ d, rest.head? = some d → isDigit d = false)
    (dangling : ∀ d behind, rest = '.' :: d :: behind → isDigit d = false) :
    decimal (.text (Text.ofNat n ++ rest)) = ⟨[], .ok (.success (.int n) (.text rest))⟩ := by
  have nonempty : Text.ofNat n ≠ [] := Nat.toDigits_ne_nil
  have inside : ∀ c ∈ Text.ofNat n, isDigit c := fun c member =>
    (Numeral.asciiDigit_of_ascii (Nat.isDigit_of_mem_toDigits (by decide) (by decide) member)).2
  have fits : ¬ Numeral.digitLimit < (Text.ofNat n).length := Nat.not_lt.mpr short
  rw [decimal_whole nonempty inside (readLiteral_whole nonempty inside ends dangling), if_neg fits,
    Numeral.positional_ofNat]

theorem display_ofNat {n : Nat} (short : Value.IsShort n) : Value.display (.int n) = .ok (Text.ofNat n) := by
  simp only [Value.display, Value.write]
  exact Value.writeInt_of_short short

/-- A decimal fails exactly where no digit stands. Else it is the longest literal there, so that no digit stands behind
it, and no point with a digit behind one without a point; without a point it is the integer that its digits stand for,
or a fault if they are too many. What is written of an integer that is not too long is read as that integer. -/
theorem decimal_reads_longest (s : Text) :
    (decimal (.text s) = ⟨[], .ok (.failure (.ofString "a decimal") (.text s))⟩ ↔
      ∀ c, s.head? = some c → isDigit c = false) ∧
    (∀ c, s.head? = some c → isDigit c →
      ∃ literal rest result, decimal (.text s) = ⟨[], result⟩ ∧ LiteralEnds literal rest result ∧
        s = literal ++ rest ∧ LongestPrefix IsLiteral literal s ∧
        (∀ d, rest.head? = some d → isDigit d = false) ∧
        ('.' ∉ literal → ∀ d behind, rest = '.' :: d :: behind → isDigit d = false)) ∧
    ∀ (n : Nat) (t : Text), Value.IsShort n →
      (∀ d, t.head? = some d → isDigit d = false) →
      (∀ d behind, t = '.' :: d :: behind → isDigit d = false) →
      ∃ written, Value.display (.int n) = .ok written ∧
        decimal (.text (written ++ t)) = ⟨[], .ok (.success (.int n) (.text t))⟩ := by
  have written (n : Nat) (t : Text) (short : Value.IsShort n) (ends : ∀ d, t.head? = some d → isDigit d = false)
      (dangling : ∀ d behind, t = '.' :: d :: behind → isDigit d = false) :
      ∃ written, Value.display (.int n) = .ok written ∧
        decimal (.text (written ++ t)) = ⟨[], .ok (.success (.int n) (.text t))⟩ :=
    ⟨Text.ofNat n, display_ofNat short, decimal_ofNat short ends dangling⟩
  rcases read : readLiteral s with _ | ⟨literal, rest⟩
  · have ends := readLiteral_eq_none.mp read
    have fails : decimal (.text s) = ⟨[], .ok (.failure (.ofString "a decimal") (.text s))⟩ := by rw [decimal_text, read]
    refine ⟨⟨fun _ => ends, fun _ => fails⟩, fun c first digit => ?_, written⟩
    rw [ends c first] at digit
    cases digit
  · obtain ⟨valid, rfl⟩ := readLiteral_sound read
    have longest := longest_literal read
    obtain ⟨result, given, ends⟩ := exists_literalEnds valid read
    refine ⟨⟨fun fails => ?_, fun none => ?_⟩, fun c first digit => ?_, written⟩
    · rw [given] at fails
      cases fails
      cases ends
    · rw [readLiteral_eq_none.mpr none] at read
      cases read
    · exact ⟨literal, rest, result, given, ends, rfl, longest, no_digit_behind longest, no_fraction_behind longest⟩

/-- Digits of two scripts with a zero in front and a point behind them that belongs to no fraction. -/
theorem mixed_digits_read :
    let s : Text := ['٠', '4', '٢', '.', 'x']
    (∃ literal rest result, decimal (.text s) = ⟨[], result⟩ ∧ LiteralEnds literal rest result ∧
      s = literal ++ rest ∧ LongestPrefix IsLiteral literal s ∧
      (∀ d, rest.head? = some d → isDigit d = false) ∧
      ('.' ∉ literal → ∀ d behind, rest = '.' :: d :: behind → isDigit d = false)) ∧
    decimal (.text s) = ⟨[], .ok (.success (.int 42) (.text ['.', 'x']))⟩ ∧ positional ['٠', '4', '٢'] = 42 ∧
    Value.IsShort (120 : Nat) ∧ ∃ written, Value.display (.int (120 : Nat)) = .ok written ∧
      decimal (.text (written ++ ['.'])) = ⟨[], .ok (.success (.int (120 : Nat)) (.text ['.']))⟩ := by
  intro s
  have first : s.head? = some '٠' := rfl
  have short : Value.IsShort (120 : Nat) := by
    unfold Value.IsShort
    decide
  have ends : ∀ d, (['.'] : Text).head? = some d → isDigit d = false := by
    rintro d ⟨⟩
    decide
  have dangling : ∀ d behind, (['.'] : Text) = '.' :: d :: behind → isDigit d = false := by
    rintro d behind ⟨⟩
  obtain ⟨-, reads, written⟩ := decimal_reads_longest s
  have value : positional ['٠', '4', '٢'] = 42 := by decide
  have taken : decimal (.text s) = ⟨[], .ok (.success (.int 42) (.text ['.', 'x']))⟩ := by
    have read : readLiteral (['٠', '4', '٢'] ++ ['.', 'x']) = some (['٠', '4', '٢'], ['.', 'x']) := by decide
    have inside : ∀ c ∈ (['٠', '4', '٢'] : Text), isDigit c := List.all_eq_true.mp (by decide)
    have given := decimal_whole (by simp) inside read
    rwa [if_neg (by simp [Numeral.digitLimit]), value] at given
  exact ⟨reads '٠' first (by decide), taken, value, short, written 120 ['.'] short ends dangling⟩

end Arithmetic

end ParseKit
