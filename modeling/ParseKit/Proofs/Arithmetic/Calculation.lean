import ParseKit.Proofs.Arithmetic.Language
import ParseKit.Proofs.Number.Division

/-!
Calculating a chain: its literals become numbers in their order, and then the operations are applied. Main statements:
a literal has no number only if it is an integer with too many digits, and an operation faults only where a number is out
of range or the right operand of a division is zero.
-/

namespace ParseKit

namespace Arithmetic

/-- An integer literal with more digits than are read. -/
def TooLong (literal : Text) : Prop := '.' ∉ literal ∧ Numeral.digitLimit < literal.length

theorem IsLiteral.toNumber_cases {literal : Text} (valid : IsLiteral literal) :
    (TooLong literal ∧ (∀ c ∈ literal, isDigit c) ∧
      Value.toNumber (.text literal) = .error (.integerTooLong literal.length)) ∨
    (¬ TooLong literal ∧ ∃ number : Number, Value.toNumber (.text literal) = .ok number.toValue) := by
  cases valid with
  | whole nonempty digits =>
    rw [toNumber_whole nonempty digits]
    by_cases long : Numeral.digitLimit < literal.length
    · have whole : '.' ∉ literal := fun member => absurd (digits '.' member) (by decide)
      exact .inl ⟨⟨whole, long⟩, digits, if_pos long⟩
    · exact .inr ⟨fun tooLong => long tooLong.2, .int _, if_neg long⟩
  | point nonempty digits _ fraction =>
    obtain ⟨x, read⟩ := toNumber_point nonempty digits fraction
    exact .inr ⟨fun tooLong => tooLong.1 (by simp), .float x, read⟩

/-- The steps with their numbers as values. -/
def valued (steps : List (Operator × Number)) : List (Operator × Value) :=
  steps.map fun step => (step.1, step.2.toValue)

theorem steps_cases {steps : List (Operator × Text)} (valid : ∀ step ∈ steps, IsLiteral step.2) :
    (∃ step ∈ steps, TooLong step.2 ∧ (∀ c ∈ step.2, isDigit c) ∧
      steps.mapM stepNumber = .error (.integerTooLong step.2.length)) ∨
    ((∀ step ∈ steps, ¬ TooLong step.2) ∧ ∃ numbers, steps.mapM stepNumber = .ok (valued numbers)) := by
  induction steps with
  | nil => exact .inr ⟨by simp, [], rfl⟩
  | cons step steps ih =>
    rw [List.mapM_cons, stepNumber]
    rcases (valid step (by simp)).toNumber_cases with ⟨long, digits, refused⟩ | ⟨short, number, converted⟩
    · exact .inl ⟨step, by simp, long, digits, by rw [refused]; rfl⟩
    rw [converted]
    rcases ih fun step member => valid step (by simp [member]) with ⟨other, member, long, digits, refused⟩ | ⟨fits, numbers, same⟩
    · exact .inl ⟨other, by simp [member], long, digits, by rw [refused]; rfl⟩
    · refine .inr ⟨?_, (step.1, number) :: numbers, by rw [same]; rfl⟩
      intro other member
      rcases List.mem_cons.mp member with rfl | member
      · exact short
      · exact fits other member

def Chain.literals (c : Chain) : List Text := c.first :: c.steps.map Prod.snd

/-- A chain has its numbers, or the first of its literals that is too long is the fault. -/
theorem Chain.numbers_cases {c : Chain} (valid : ∀ literal ∈ c.literals, IsLiteral literal) :
    (∃ literal ∈ c.literals, TooLong literal ∧ (∀ d ∈ literal, isDigit d) ∧
      c.numbers = .error (.integerTooLong literal.length)) ∨
    ((∀ literal ∈ c.literals, ¬ TooLong literal) ∧
      ∃ (first : Number) (steps : List (Operator × Number)), c.numbers = .ok (first.toValue, valued steps)) := by
  obtain ⟨literal, steps⟩ := c
  rcases (valid literal (by simp [literals])).toNumber_cases with ⟨long, digits, refused⟩ | ⟨short, first, converted⟩
  · exact .inl ⟨literal, by simp [literals], long, digits, by rw [numbers, refused]; rfl⟩
  have valid' : ∀ step ∈ steps, IsLiteral step.2 := fun step member =>
    valid step.2 (by simp only [literals, List.mem_cons, List.mem_map]; exact .inr ⟨step, member, rfl⟩)
  rcases steps_cases valid' with ⟨step, member, long, digits, refused⟩ | ⟨fits, rest, same⟩
  · refine .inl ⟨step.2, ?_, long, digits, by rw [numbers, converted, refused]; rfl⟩
    simp only [literals, List.mem_cons, List.mem_map]
    exact .inr ⟨step, member, rfl⟩
  · refine .inr ⟨?_, first, rest, by rw [numbers, converted, same]; rfl⟩
    intro other member
    simp only [literals, List.mem_cons, List.mem_map] at member
    rcases member with rfl | ⟨step, member, rfl⟩
    · exact short
    · exact fits step member

theorem StepsSpell.literals {steps : List (Operator × Text)} {s : Text} (spelled : StepsSpell steps s) :
    ∀ step ∈ steps, IsLiteral step.2 ∧ step.2 <:+: s := by
  induction spelled with
  | nil => simp
  | @cons f literal before behind rest steps _ valid _ _ ih =>
    intro step member
    rcases List.mem_cons.mp member with rfl | member
    · exact ⟨valid, signOf f :: before, behind ++ rest, by simp⟩
    · obtain ⟨valid', inside⟩ := ih step member
      exact ⟨valid', inside.trans ⟨signOf f :: (before ++ (literal ++ behind)), [], by simp⟩⟩

theorem Chain.Spells.literals {c : Chain} {s : Text} (spelled : c.Spells s) :
    ∀ literal ∈ c.literals, IsLiteral literal ∧ literal <:+: s := by
  obtain @⟨first, before, behind, rest, steps, _, valid, _, spelled⟩ := spelled
  intro literal member
  simp only [Chain.literals, List.mem_cons, List.mem_map] at member
  rcases member with rfl | ⟨step, member, rfl⟩
  · exact ⟨valid, before, behind ++ rest, by simp⟩
  · obtain ⟨valid', inside⟩ := spelled.literals step member
    exact ⟨valid', inside.trans ⟨before ++ (first ++ behind), [], by simp⟩⟩

theorem foldLeft_cases (first : Number) (steps : List (Operator × Number)) :
    (∃ total : Number, foldLeft first.toValue (valued steps) = .ok total.toValue) ∨
    ∃ fault, foldLeft first.toValue (valued steps) = .error fault ∧
      (fault.Overflow ∨ fault.ZeroDivision ∧ ∃ divisor, (.truediv, divisor) ∈ steps ∧ divisor.isZero) := by
  induction steps generalizing first with
  | nil => exact .inl ⟨first, rfl⟩
  | cons step steps ih =>
    obtain ⟨f, operand⟩ := step
    have split : foldLeft first.toValue (valued ((f, operand) :: steps)) =
        ((Number.operate f first operand).map Number.toValue >>= fun total => foldLeft total (valued steps)) := by
      rw [← Value.operate_toValue]
      rfl
    rw [split]
    cases applied : Number.operate f first operand with
    | error fault =>
      refine .inr ⟨fault, rfl, ?_⟩
      rcases Number.operate_error applied with overflow | ⟨division, rfl, zero⟩
      · exact .inl overflow
      · exact .inr ⟨division, operand, by simp, zero⟩
    | ok total =>
      rcases ih total with ends | ⟨fault, faults, overflow | ⟨division, divisor, member, zero⟩⟩
      · exact .inl ends
      · exact .inr ⟨fault, faults, .inl overflow⟩
      · exact .inr ⟨fault, faults, .inr ⟨division, divisor, by simp [member], zero⟩⟩

end Arithmetic

end ParseKit
