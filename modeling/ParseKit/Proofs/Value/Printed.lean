import ParseKit.Proofs.Number.Layout
import ParseKit.Proofs.Value.Equality
import ParseKit.Proofs.Value.Format

/-!
Printed numbers. Main statement: numbers have the same text exactly if they are equal, whatever kind of number they are;
an integral number has the decimal expansion of its integer as text.
-/

namespace ParseKit

namespace Binary64

theorem toInt?_eq_some_iff {x : Binary64} {a : Amount} (stands : x.amount? = some a) (n : Int) :
    x.toInt? = some n ↔ a = .finite n := by
  rw [← eqInt_iff stands n, eqInt, beq_iff_eq]

theorem exists_amount {x : Binary64} (number : x ≠ .nan) : ∃ a, x.amount? = some a := by
  cases x with
  | nan => exact absurd rfl number
  | infinite => exact ⟨_, rfl⟩
  | finite => exact ⟨_, rfl⟩

theorem mantissa_ne_zero {negative : Bool} {mantissa : Nat} {exponent : Int} {canonical : Canonical mantissa exponent}
    (fractional : (Binary64.finite negative mantissa exponent canonical).toInt? = none) : mantissa ≠ 0 := by
  rintro rfl
  simp [toInt?, scale] at fractional

/-- Besides the two zeros, equal numbers are identical. -/
theorem eq_of_numericEq {x y : Binary64} (same : x.numericEq y) (fractional : x.toInt? = none) : x = y := by
  cases x with
  | nan => simp [numericEq] at same
  | infinite negative => cases y <;> simp_all [numericEq]
  | finite negative mantissa exponent canonical =>
    cases y with
    | nan => simp [numericEq] at same
    | infinite => simp [numericEq] at same
    | finite negative' mantissa' exponent' canonical' =>
      simp only [numericEq, Bool.and_eq_true, Bool.or_eq_true, decide_eq_true_eq] at same
      obtain ⟨rfl, zero | ⟨rfl, rfl⟩⟩ := same
      · exact absurd zero (mantissa_ne_zero fractional)
      · rfl

end Binary64

namespace Numeral

theorem readFloat_signed (negative : Bool) {body : Text} (first : ∃ c rest, body = c :: rest ∧ c.isDigit)
    (parts : ∀ c ∈ body, IsPart c) : readFloat (if negative then '-' :: body else body) = readMagnitude negative body := by
  cases negative with
  | false =>
    obtain ⟨c, rest, rfl, digit⟩ := first
    rw [if_neg Bool.false_ne_true, readFloat_parts (toAscii_parts parts) parts, splitSign_digit rest digit]
  | true =>
    have parts' : ∀ c ∈ '-' :: body, IsPart c := List.forall_mem_cons.mpr ⟨.inr (.inr (.inr (.inr rfl))), parts⟩
    rw [if_pos rfl, readFloat_parts (toAscii_parts parts') parts']
    rfl

end Numeral

namespace Value

open Numeral

theorem readFloat_render {x : Binary64} (number : x ≠ .nan) : readFloat (floatLayout.render x) = some x := by
  cases x with
  | nan => exact absurd rfl number
  | infinite negative => cases negative <;> rfl
  | finite negative mantissa exponent canonical =>
    unfold Layout.render
    dsimp only
    by_cases zero : mantissa = 0
    · subst zero
      have least : exponent = -1074 := by
        obtain ⟨-, -, -, full | least⟩ := canonical
        · exact absurd full (by decide)
        · exact least
      subst least
      cases negative <;> rfl
    · have back := Decimal.shortest_reads_back canonical zero negative
      have inside := Decimal.inRange_of_read zero back
      have stands := Layout.standsFor_decimal (show floatLayout.mark = 'e' from rfl) inside
      rw [if_neg zero, readFloat_signed negative stands.first (Layout.isPart_decimal rfl _), stands.read inside.nonzero, back]

/-- The text of what is no integer has a point, an exponent or a name. -/
theorem render_not_isExpansion {x : Binary64} (number : x ≠ .nan) (fractional : x.toInt? = Option.none) (n : Int) :
    ¬ Text.IsExpansion (floatLayout.render x) n := by
  intro expansion
  have plain := expansion.minus_or_digit
  cases x with
  | nan => exact number rfl
  | infinite negative =>
    have letter : 'i' ∈ floatLayout.render (.infinite negative) := by cases negative <;> decide
    exact absurd (plain 'i' letter) (by decide)
  | finite negative mantissa exponent canonical =>
    have inside : floatLayout.decimal (.shortest mantissa exponent) ⊆
        floatLayout.render (.finite negative mantissa exponent canonical) := by
      unfold Layout.render
      dsimp only
      rw [if_neg (Binary64.mantissa_ne_zero fractional)]
      cases negative with
      | false => exact List.Subset.refl _
      | true => exact List.subset_cons_self _ _
    rcases floatLayout.point_or_mark_mem (.shortest mantissa exponent) with point | mark
    · exact absurd (plain '.' (inside point)) (by decide)
    · exact absurd (plain 'e' (inside mark)) (by decide)

end Value

/-- An integer that is not too long, or a number in double precision. -/
def Number.Printable : Number → Prop
  | .int n => Value.IsShort n
  | .float x => x ≠ .nan

namespace Value

section printable

variable {a b : Number}

/-- A number stands for an integer, or it is in double precision and has a fraction or is infinite. -/
theorem whole_or_fractional (printable : a.Printable) :
    (∃ n : Int, a.toValue.amount? = some (.finite n)) ∨ ∃ x, a = .float x ∧ x ≠ .nan ∧ x.toInt? = Option.none := by
  cases a with
  | int n => exact .inl ⟨n, rfl⟩
  | float x =>
    cases whole : x.toInt? with
    | none => exact .inr ⟨x, rfl, printable, whole⟩
    | some n =>
      obtain ⟨amount, stands⟩ := Binary64.exists_amount printable
      rw [Binary64.toInt?_eq_some_iff stands] at whole
      exact .inl ⟨n, by rw [← whole]; exact stands⟩

theorem formatNumber_whole {n : Int} (printable : a.Printable) (whole : a.toValue.amount? = some (.finite n)) :
    IsShort n ∧ formatNumber a.toValue = .ok (Text.ofInt n) := by
  cases a with
  | int m =>
    have same : m = n := by simpa [Number.toValue, amount?] using whole
    subst same
    exact ⟨printable, by rw [Number.toValue, formatNumber_int, writeInt_of_short printable]⟩
  | float x =>
    have integral : x.toInt? = some n := (Binary64.toInt?_eq_some_iff whole n).mpr rfl
    have short := isShort_toInt? integral
    exact ⟨short, by simp only [Number.toValue, formatNumber, integral, writeInt_of_short short]⟩

theorem formatNumber_fractional {x : Binary64} (fractional : x.toInt? = Option.none) :
    formatNumber (.float x) = .ok (floatLayout.render x) := by
  simp only [formatNumber, fractional, display, write]

theorem equal_iff_amount (printable : a.Printable) : a.toValue.equal b.toValue ↔ a.toValue.amount? = b.toValue.amount? := by
  cases a with
  | int n =>
    rw [Number.toValue, equal_int, eq_comm]
    rfl
  | float x =>
    obtain ⟨amount, stands⟩ := Binary64.exists_amount printable
    rw [Number.toValue, equal_float stands, eq_comm, amount?, stands]

theorem amount_ne_of_fractional {x : Binary64} {n : Int} (fractional : x.toInt? = Option.none) :
    (Value.float x).amount? ≠ some (.finite n) := by
  intro whole
  rw [(Binary64.toInt?_eq_some_iff whole n).mpr rfl] at fractional
  cases fractional

theorem formatNumber_eq_iff (first : a.Printable) (second : b.Printable) :
    formatNumber a.toValue = formatNumber b.toValue ↔ a.toValue.amount? = b.toValue.amount? := by
  rcases whole_or_fractional first with ⟨m, whole⟩ | ⟨x, rfl, number, fractional⟩
  · rw [(formatNumber_whole first whole).2, whole]
    rcases whole_or_fractional second with ⟨n, whole'⟩ | ⟨y, rfl, number', fractional'⟩
    · rw [(formatNumber_whole second whole').2, whole', Except.ok.injEq, Text.ofInt_injective.eq_iff]
      simp
    · rw [Number.toValue, formatNumber_fractional fractional', Except.ok.injEq]
      refine iff_of_false (fun same => ?_) (amount_ne_of_fractional fractional').symm
      exact render_not_isExpansion number' fractional' m (same ▸ Text.isExpansion_ofInt m)
  · rw [Number.toValue, formatNumber_fractional fractional]
    rcases whole_or_fractional second with ⟨n, whole'⟩ | ⟨y, rfl, number', fractional'⟩
    · rw [(formatNumber_whole second whole').2, whole', Except.ok.injEq]
      refine iff_of_false (fun same => ?_) (amount_ne_of_fractional fractional)
      exact render_not_isExpansion number fractional n (same ▸ Text.isExpansion_ofInt n)
    · rw [Number.toValue, formatNumber_fractional fractional', Except.ok.injEq]
      constructor
      · intro same
        have read := readFloat_render number
        rw [same, readFloat_render number', Option.some_inj] at read
        rw [read]
      · intro same
        obtain ⟨amount, stands⟩ := Binary64.exists_amount number
        have equal := (Binary64.numericEq_iff stands (same.symm.trans stands)).mpr rfl
        rw [Binary64.eq_of_numericEq equal fractional]

/-- Numbers have the same text exactly if they are equal, that is, if they stand for the same amount; a number that is an
integer has the expansion of this integer as text, as the integer itself. -/
theorem same_text_iff_equal (first : a.Printable) (second : b.Printable) :
    (∃ text, formatNumber a.toValue = .ok text) ∧
      (formatNumber a.toValue = formatNumber b.toValue ↔ a.toValue.equal b.toValue) ∧
      (a.toValue.equal b.toValue ↔ a.toValue.amount? = b.toValue.amount?) ∧
      (∀ n : Int, a.toValue.amount? = some (.finite n) → ∃ text, formatNumber a.toValue = .ok text ∧ text.IsExpansion n ∧
        formatNumber (.int n) = .ok text) ∧
      ∀ negative, formatNumber (.float (.zero negative)) = .ok ['0'] := by
  have equal := equal_iff_amount (b := b) first
  refine ⟨?_, (formatNumber_eq_iff first second).trans equal.symm, equal, ?_, ?_⟩
  · rcases whole_or_fractional first with ⟨n, whole⟩ | ⟨x, rfl, -, fractional⟩
    · exact ⟨_, (formatNumber_whole first whole).2⟩
    · exact ⟨_, formatNumber_fractional fractional⟩
  · intro n whole
    obtain ⟨short, text⟩ := formatNumber_whole first whole
    exact ⟨_, text, Text.isExpansion_ofInt n, by rw [formatNumber_int, writeInt_of_short short]⟩
  · intro negative
    have zero : (Number.float (.zero negative)).toValue.amount? = some (.finite (0 : Int)) := by
      cases negative <;> simp [Number.toValue, amount?, Binary64.zero, Binary64.amount?, Binary64.signed]
    have number : (Number.float (.zero negative)).Printable := by
      intro same
      cases same
    exact (formatNumber_whole number zero).2

end printable

/-- The odd integer between two numbers in double precision has a text of its own. -/
theorem texts_of_neighbours :
    (Number.int 9007199254740993).Printable ∧ (Number.float (.finite false 4503599627370496 1 (by decide))).Printable ∧
      formatNumber (.int 9007199254740993) ≠ formatNumber (.float (.finite false 4503599627370496 1 (by decide))) := by
  have first : (Number.int 9007199254740993).Printable := by
    unfold Number.Printable IsShort
    decide
  have second : (Number.float (.finite false 4503599627370496 1 (by decide))).Printable := by
    intro same
    cases same
  have unequal : ¬ (Value.int 9007199254740993).equal (.float (.finite false 4503599627370496 1 (by decide))) := by decide
  exact ⟨first, second, (same_text_iff_equal first second).2.1.not.mpr unequal⟩

end Value

end ParseKit
