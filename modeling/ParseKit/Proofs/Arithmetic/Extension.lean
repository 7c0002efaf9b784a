import ParseKit.Proofs.Arithmetic.Binary
import ParseKit.Proofs.Arithmetic.Language

/-!
Chains as an extension of one operation. Main statement: whatever one operation gives that is no failure, a chain gives
as well, faults included, and a chain with one sign is nothing but that one operation.
-/

namespace ParseKit

namespace Arithmetic

/-- What one operation does behind its first operand. -/
def behindLeft (left : Value) : Parser :=
  (token operation).bind fun f => .ok ((token decimal).bind fun right =>
    .ok (Parser.endOfInput.bind fun _ => .ok (finish (calculate left f right)).meaning))

theorem binary_eq : binary = spaces.bind fun _ => .ok ((token decimal).bind fun left => .ok (behindLeft left)) := by
  rw [binary_eq_binaryScript]
  exact Parser.script_none _

section behind

variable {s rest literal : Text} {f : Operator}

theorem behindLeft_none (left : Value) (read : readStep s = none) :
    ∃ expected actual, behindLeft left (.text s) = ⟨[], .ok (.failure (.text expected) (.text actual))⟩ := by
  have sign := token_operation_text s
  rcases signed : readSign s with _ | ⟨f, behind⟩ <;> simp only [signed] at sign
  · exact ⟨_, _, Parser.bind_of_failure sign⟩
  · have operand := token_decimal_text (behind.dropWhile isBlank)
    rcases inside : readLiteral (behind.dropWhile isBlank) with _ | found <;> simp only [inside] at operand
    · refine ⟨"a decimal".toList, behind.dropWhile isBlank, ?_⟩
      rw [behindLeft, Parser.bind_of_success sign rfl, Run.precededBy_nil]
      exact Parser.bind_of_failure operand
    · simp [readStep, signed, inside] at read

theorem behindLeft_some (left : Value) (read : readStep s = some ((f, literal), rest)) :
    behindLeft left (.text s) = Run.ofExcept do
      let right ← Value.toNumber (.text literal)
      if rest = [] then return .success (← Value.operate f left right) (.text [])
      else return .failure (.ofString "end of input") (.text rest) := by
  obtain ⟨behind, after, rfl, inside, rfl⟩ := readStep_eq_some.mp read
  have sign := token_operation_text (signOf f :: behind)
  have operand := token_decimal_text (behind.dropWhile isBlank)
  rw [readSign_eq_some.mpr rfl] at sign
  simp only [inside] at operand
  rw [behindLeft, Parser.bind_of_success sign rfl, Run.precededBy_nil]
  cases converted : Value.toNumber (.text literal) with
  | error fault =>
    rw [converted] at operand
    exact Parser.bind_of_fault operand
  | ok right =>
    rw [converted] at operand
    have ends := endOfInput_text (after.dropWhile isBlank)
    refine (Parser.bind_of_success operand rfl).trans ?_
    rw [Run.precededBy_nil]
    by_cases consumed : after.dropWhile isBlank = []
    · rw [if_pos consumed] at ends
      rw [Parser.bind_of_success ends rfl, Run.precededBy_nil, finish_meaning]
      simp only [if_pos consumed]
      rfl
    · rw [if_neg consumed] at ends
      rw [Parser.bind_of_failure ends]
      simp only [if_neg consumed]
      rfl

theorem behindLeft_eq_behindFirst (left : Value) (read : readStep s = some ((f, literal), [])) :
    behindLeft left (.text s) = behindFirst left (.text s) := by
  -- nothing is left for a second step
  have alone : readSteps s = ([(f, literal)], []) := by rw [readSteps_some read, readSteps_none rfl]
  rw [behindLeft_some left read, behindFirst_text, alone]
  cases converted : Value.toNumber (.text literal) with
  | error fault =>
    have refused : [(f, literal)].mapM stepNumber = .error fault := by
      rw [List.mapM_cons, stepNumber, converted]
      rfl
    simp only [refused]
    rfl
  | ok right =>
    have number : [(f, literal)].mapM stepNumber = .ok [(f, right)] := by
      rw [List.mapM_cons, stepNumber, converted]
      rfl
    have single : foldLeft left [(f, right)] = Value.operate f left right := by
      rw [foldLeft, List.foldlM_cons]
      exact bind_pure _
    simp only [number, if_true]
    exact congrArg (fun total => Run.ofExcept do return Outcome.success (← total) (.text [])) single.symm

theorem behindLeft_cases (left : Value) (s : Text) :
    (∃ expected actual, behindLeft left (.text s) = ⟨[], .ok (.failure (.text expected) (.text actual))⟩) ∨
    ∃ step rest, readStep s = some (step, rest) ∧
      ((∃ fault, stepNumber step = .error fault ∧ behindLeft left (.text s) = ⟨[], .error fault⟩) ∨
        (rest = [] ∧ behindLeft left (.text s) = behindFirst left (.text s))) := by
  rcases read : readStep s with _ | ⟨⟨f, literal⟩, rest⟩
  · exact .inl (behindLeft_none left read)
  by_cases consumed : rest = []
  · subst consumed
    exact .inr ⟨_, [], rfl, .inr ⟨rfl, behindLeft_eq_behindFirst left read⟩⟩
  · have run := behindLeft_some left read
    cases converted : Value.toNumber (.text literal) with
    | error fault =>
      rw [converted] at run
      exact .inr ⟨_, rest, rfl, .inl ⟨fault, by rw [stepNumber, converted]; rfl, run⟩⟩
    | ok right =>
      rw [converted] at run
      exact .inl ⟨_, _, run.trans (by simp only [if_neg consumed]; rfl)⟩

end behind

theorem chain_of_unnumbered {s rest : Text} {c : Chain} {fault : Fault} (read : readChain s = some (c, rest))
    (refused : c.numbers = .error fault) : chain (.text s) = ⟨[], .error fault⟩ := by
  rw [chain_text, read]
  simp only [refused]
  rfl

/-- One operation fails, or it does what the chain does: either the literals of the chain at the start have no numbers, or
the text is a chain of that one operation. -/
theorem binary_cases (s : Text) :
    (∃ expected actual, binary (.text s) = ⟨[], .ok (.failure (.text expected) (.text actual))⟩) ∨
    ∃ c rest, readChain s = some (c, rest) ∧ binary (.text s) = chain (.text s) ∧
      ((∃ fault, c.numbers = .error fault) ∨ (rest = [] ∧ c.steps.length = 1)) := by
  have run := operand_first_text behindLeft s
  have run' := operand_first_text behindFirst s
  rw [← binary_eq] at run
  rw [← chain_eq] at run'
  rcases read : readLiteral (s.dropWhile isBlank) with _ | ⟨literal, behind⟩ <;> simp only [read] at run run'
  · exact .inl ⟨_, _, run⟩
  have found : readChain s = some (⟨literal, (readSteps (behind.dropWhile isBlank)).1⟩,
      (readSteps (behind.dropWhile isBlank)).2) := by
    simp only [readChain, read]
    rfl
  cases converted : Value.toNumber (.text literal) with
  | error fault =>
    rw [converted] at run run'
    exact .inr ⟨_, _, found, run.trans run'.symm, .inl ⟨fault, by simp only [Chain.numbers, converted]; rfl⟩⟩
  | ok first =>
    rw [converted] at run run'
    rcases behindLeft_cases first (behind.dropWhile isBlank) with ⟨expected, actual, fails⟩ | ⟨step, rest, stepped, ends⟩
    · exact .inl ⟨expected, actual, run.trans fails⟩
    rw [readSteps_some stepped] at found
    rcases ends with ⟨fault, refused, faults⟩ | ⟨rfl, same⟩
    · have unnumbered : Chain.numbers ⟨literal, step :: (readSteps rest).1⟩ = .error fault := by
        simp only [Chain.numbers, converted, List.mapM_cons, refused]
        rfl
      have same := chain_of_unnumbered found unnumbered
      exact .inr ⟨_, _, found, (run.trans faults).trans same.symm, .inl ⟨fault, unnumbered⟩⟩
    · rw [readSteps_none rfl] at found
      exact .inr ⟨_, _, found, (run.trans same).trans run'.symm, .inr ⟨rfl, rfl⟩⟩

theorem chain_eq_binary {s : Text} (passes : ∀ expected actual, (binary (.text s)).result ≠ .ok (.failure expected actual)) :
    chain (.text s) = binary (.text s) := by
  rcases binary_cases s with ⟨expected, actual, fails⟩ | ⟨c, rest, -, same, -⟩
  · exact absurd (by rw [fails]) (passes (.text expected) (.text actual))
  · exact same.symm

section signs

def isSign (c : Char) : Bool := (operators.lookup c).isSome

theorem isSign_iff {c : Char} : isSign c ↔ ∃ f, c = signOf f := by
  rw [isSign, Option.isSome_iff_exists]
  simp only [lookup_eq_some]

theorem countP_isSign_blanks {s : Text} (blank : Blanks s) : s.countP isSign = 0 := by
  rw [List.countP_eq_zero]
  intro c member sign
  obtain ⟨f, rfl⟩ := isSign_iff.mp sign
  exact absurd (blank _ member) (by simp [(signOf_apart f).2.1])

theorem IsLiteral.countP_isSign {literal : Text} (valid : IsLiteral literal) : literal.countP isSign = 0 := by
  rw [List.countP_eq_zero]
  intro c member sign
  obtain ⟨f, rfl⟩ := isSign_iff.mp sign
  have digitless (digits : Text) (inside : ∀ c ∈ digits, isDigit c) : signOf f ∉ digits := by
    intro member
    exact absurd (inside _ member) (by simp [(signOf_apart f).1])
  cases valid with
  | whole _ digits => exact digitless _ digits member
  | point _ digits _ fraction =>
    rcases List.mem_append.mp member with member | member
    · exact digitless _ digits member
    · rcases List.mem_cons.mp member with point | member
      · exact (signOf_apart f).2.2 point
      · exact digitless _ fraction member

theorem StepsSpell.countP_isSign {steps : List (Operator × Text)} {s : Text} (spelled : StepsSpell steps s) :
    s.countP isSign = steps.length := by
  induction spelled with
  | nil => rfl
  | cons blank valid blank' _ ih =>
    rw [List.countP_cons_of_pos (isSign_iff.mpr ⟨_, rfl⟩)]
    simp [countP_isSign_blanks blank, countP_isSign_blanks blank', valid.countP_isSign, ih]

theorem Chain.Spells.countP_isSign {c : Chain} {s : Text} (spelled : c.Spells s) : s.countP isSign = c.steps.length := by
  obtain ⟨blank, valid, blank', steps⟩ := spelled
  simp [countP_isSign_blanks blank, countP_isSign_blanks blank', valid.countP_isSign, steps.countP_isSign]

end signs

theorem spaces_other {input : Value} (other : ∀ s, input ≠ .text s) :
    spaces input = ⟨[], .ok (.failure (.pattern spacesPattern) input)⟩ := by
  cases input with
  | text s => exact absurd rfl (other s)
  | _ => rfl

theorem chain_other {input : Value} (other : ∀ s, input ≠ .text s) :
    chain input = ⟨[], .ok (.failure (.pattern spacesPattern) input)⟩ := by
  rw [chain_eq, Parser.bind_of_failure (spaces_other other)]

theorem binary_other {input : Value} (other : ∀ s, input ≠ .text s) :
    binary input = ⟨[], .ok (.failure (.pattern spacesPattern) input)⟩ := by
  rw [binary_eq, Parser.bind_of_failure (spaces_other other)]

theorem spells_of_success {s : Text} {data rest : Value} (ends : (chain (.text s)).result = .ok (.success data rest)) :
    ∃ c : Chain, c.Spells s := by
  rw [chain_text] at ends
  rcases read : readChain s with _ | ⟨c, left⟩ <;> rw [read] at ends
  · cases ends
  · obtain ⟨⟨first, steps⟩, -, ends⟩ := Run.except_bind_eq_ok ends
    by_cases consumed : left = []
    · subst consumed
      exact ⟨c, readChain_iff.mp read⟩
    · simp only [if_neg consumed] at ends
      cases ends

theorem binary_of_single {s : Text} {c : Chain} (spelled : c.Spells s) (single : c.steps.length = 1) :
    binary (.text s) = chain (.text s) := by
  rw [binary_eq, chain_eq, operand_first_text, operand_first_text]
  obtain ⟨blank, valid, blank', steps⟩ := spelled
  rw [valid.dropWhile_blanks blank, StepsSpell.readLiteral valid blank' steps]
  simp only [steps.dropWhile_blanks blank']
  cases steps with
  | nil => cases single
  | @cons f _ _ _ _ _ blank valid blank' others =>
    obtain rfl := List.length_eq_zero_iff.mp (Nat.succ.inj single)
    have read := readStep_of_spelled (f := f) blank valid blank' others
    cases others
    simp only [behindLeft_eq_behindFirst _ read]

/-- What one operation gives that is no failure, a chain gives as well: the same data and rest, or the same fault. Where a
chain succeeds on an input with exactly one sign, one operation has the same success. -/
theorem chain_extends_binary (input : Value) :
    ((∀ expected actual, (binary input).result ≠ .ok (.failure expected actual)) → chain input = binary input) ∧
    ∀ data rest, (chain input).result = .ok (.success data rest) →
      ∃ s, input = .text s ∧ (s.countP isSign = 1 → (binary input).result = .ok (.success data rest)) := by
  by_cases other : ∀ s, input ≠ .text s
  · rw [chain_other other, binary_other other]
    exact ⟨fun _ => rfl, fun data rest ends => nomatch ends⟩
  · obtain ⟨s, rfl⟩ : ∃ s, input = .text s := by simpa using other
    refine ⟨chain_eq_binary, fun data rest ends => ⟨s, rfl, fun one => ?_⟩⟩
    obtain ⟨c, spelled⟩ := spells_of_success ends
    rw [binary_of_single spelled (spelled.countP_isSign.symm.trans one)]
    exact ends

/-- A division by zero is the fault of both, and one operation with blanks around it gives the same in both. -/
theorem one_operation_extends :
    (binary (.text "1/0".toList)).result = .error .divisionByZero ∧
      chain (.text "1/0".toList) = binary (.text "1/0".toList) ∧
      (chain (.text " 6 * 7 ".toList)).result = .ok (.success (.int 42) (.text [])) ∧
      (binary (.text " 6 * 7 ".toList)).result = .ok (.success (.int 42) (.text [])) := by
  have faults : (binary (.text "1/0".toList)).result = .error .divisionByZero := rfl
  have never (expected actual : Value) : (binary (.text "1/0".toList)).result ≠ .ok (.failure expected actual) := by
    rw [faults]
    rintro ⟨⟩
  have ends : (chain (.text " 6 * 7 ".toList)).result = .ok (.success (.int 42) (.text [])) := by
    have read : readChain " 6 * 7 ".toList = some (⟨['6'], [(.mul, ['7'])]⟩, []) := by cbv
    rw [chain_text, read]
    rfl
  obtain ⟨s, same, once⟩ := (chain_extends_binary (.text " 6 * 7 ".toList)).2 _ _ ends
  obtain rfl := Value.text.inj same
  exact ⟨faults, (chain_extends_binary _).1 never, ends, once (by cbv)⟩

end Arithmetic

end ParseKit
