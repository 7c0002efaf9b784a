import ParseKit.Proofs.Arithmetic.Tokens
import ParseKit.Proofs.Sequencing

/-!
Reading a chain: which literals and operations the parser of chains takes from a text, and what it makes
of them. Main statement: its run is determined by what is read, the conversions and the operations.
-/

namespace ParseKit

namespace Arithmetic

structure Chain where
  first : Text
  steps : List (Operator × Text)

/-- An operation and the literal of its operand, and what stands behind them and their blanks. -/
def readStep (s : Text) : Option ((Operator × Text) × Text) := do
  let (f, behind) ← readSign s
  let (literal, rest) ← readLiteral (behind.dropWhile isBlank)
  return ((f, literal), rest.dropWhile isBlank)

theorem readStep_eq_some {s rest literal : Text} {f : Operator} :
    readStep s = some ((f, literal), rest) ↔
      ∃ behind after, s = signOf f :: behind ∧ readLiteral (behind.dropWhile isBlank) = some (literal, after) ∧
        rest = after.dropWhile isBlank := by
  simp only [readStep, bind, pure, Option.bind_eq_some_iff, Option.some.injEq, Prod.mk.injEq, Prod.exists,
    readSign_eq_some]
  constructor
  · rintro ⟨g, behind, rfl, literal', after, read, ⟨rfl, rfl⟩, rfl⟩
    exact ⟨behind, after, rfl, read, rfl⟩
  · rintro ⟨behind, after, rfl, read, rfl⟩
    exact ⟨f, behind, rfl, literal, after, read, ⟨rfl, rfl⟩, rfl⟩

theorem readStep_shorter {s rest : Text} {step : Operator × Text} (read : readStep s = some (step, rest)) :
    rest.length < s.length := by
  obtain ⟨f, literal⟩ := step
  obtain ⟨behind, after, rfl, inside, rfl⟩ := readStep_eq_some.mp read
  have split := congrArg List.length (readLiteral_sound inside).2
  have trimmed := (List.dropWhile_sublist (l := behind) isBlank).length_le
  have skipped := (List.dropWhile_sublist (l := after) isBlank).length_le
  rw [List.length_append] at split
  rw [List.length_cons]
  omega

/-- As many operations with their operands as there are, and what stands behind them. -/
def readSteps (s : Text) : List (Operator × Text) × Text :=
  match _read : readStep s with
  | none => ([], s)
  | some (step, rest) => (step :: (readSteps rest).1, (readSteps rest).2)
termination_by s.length
decreasing_by all_goals exact readStep_shorter ‹_›

theorem readSteps_none {s : Text} (read : readStep s = none) : readSteps s = ([], s) := by
  rw [readSteps]
  split
  · rfl
  · rename_i same
    rw [read] at same
    cases same

theorem readSteps_some {s rest : Text} {step : Operator × Text} (read : readStep s = some (step, rest)) :
    readSteps s = (step :: (readSteps rest).1, (readSteps rest).2) := by
  rw [readSteps]
  split <;> rename_i same <;> rw [read] at same <;> cases same
  rfl

/-- The chain at the start of a text, blanks skipped, and what stands behind it. -/
def readChain (s : Text) : Option (Chain × Text) := do
  let (first, behind) ← readLiteral (s.dropWhile isBlank)
  let (steps, rest) := readSteps (behind.dropWhile isBlank)
  return (⟨first, steps⟩, rest)

def stepNumber (step : Operator × Text) : Except Fault (Operator × Value) := do
  return (step.1, ← Value.toNumber (.text step.2))

def Chain.numbers (chain : Chain) : Except Fault (Value × List (Operator × Value)) := do
  let first ← Value.toNumber (.text chain.first)
  return (first, ← chain.steps.mapM stepNumber)

/-- The operations are applied from left to right, without precedence. -/
def foldLeft (first : Value) (steps : List (Operator × Value)) : Except Fault Value :=
  steps.foldlM (fun total step => Value.operate step.1 total step.2) first

/-- The value in which an operation and its operand are collected. -/
def pair (step : Operator × Value) : Value := .list [.operator step.1, step.2]

theorem fold_pairs (first : Value) (steps : List (Operator × Value)) :
    fold first (.list (steps.map pair)) = foldLeft first steps := by
  change Value.foldPairs first (steps.map pair) = foldLeft first steps
  induction steps generalizing first with
  | nil => rfl
  | cons step steps ih =>
    change (Value.operate step.1 first step.2 >>= fun total => Value.foldPairs total (steps.map pair)) = _
    simp only [ih]
    rfl

theorem step_text (s : Text) :
    Parser.collect [token operation, token decimal] (.text s) =
      match readSign s with
      | none => ⟨[], .ok (.failure (.ofString "an arithmetic operator") (.text s))⟩
      | some (f, behind) =>
        match readLiteral (behind.dropWhile isBlank) with
        | none => ⟨[], .ok (.failure (.ofString "a decimal") (.text (behind.dropWhile isBlank)))⟩
        | some (literal, after) => Run.ofExcept do
          return .success (pair (← stepNumber (f, literal))) (.text (after.dropWhile isBlank)) := by
  have sign := token_operation_text s
  rcases signed : readSign s with _ | ⟨f, behind⟩ <;> rw [signed] at sign
  · simp [Parser.collect, Parser.apply, Parser.inSequence, sign, Run.pure_def]
  · have operand := token_decimal_text (behind.dropWhile isBlank)
    rcases read : readLiteral (behind.dropWhile isBlank) with _ | ⟨literal, after⟩ <;>
      simp only [read] at operand ⊢
    · simp [Parser.collect, Parser.apply, Parser.inSequence, sign, operand, Run.pure_def]
    · simp only [Parser.collect, Parser.apply, Parser.inSequence, sign, operand, Run.ok_bind, Run.precededBy_nil]
      cases converted : Value.toNumber (.text literal) <;> simp only [stepNumber, converted] <;> rfl

theorem step_none {s : Text} (read : readStep s = none) :
    ∃ expected actual, Parser.collect [token operation, token decimal] (.text s) =
      ⟨[], .ok (.failure expected actual)⟩ := by
  rw [step_text]
  rcases signed : readSign s with _ | ⟨f, behind⟩
  · exact ⟨_, _, rfl⟩
  · rcases inside : readLiteral (behind.dropWhile isBlank) with _ | ⟨literal, after⟩
    · simp only [inside]
      exact ⟨_, _, rfl⟩
    · simp [readStep, signed, inside] at read

theorem step_some {s rest : Text} {step : Operator × Text} (read : readStep s = some (step, rest)) :
    Parser.collect [token operation, token decimal] (.text s) =
      Run.ofExcept do return .success (pair (← stepNumber step)) (.text rest) := by
  obtain ⟨f, literal⟩ := step
  obtain ⟨behind, after, rfl, inside, rfl⟩ := readStep_eq_some.mp read
  rw [step_text, readSign_eq_some.mpr rfl]
  simp only [inside]

/-- The repetition takes what is read as steps, and converts the operands in order until one has no number. -/
theorem manyFrom_steps (s : Text) (count : Nat) (done : List Value) :
    Parser.manyFrom (Parser.collect [token operation, token decimal]) s.length count done [] (.text s) =
      Run.ofExcept do
        let numbers ← (readSteps s).1.mapM stepNumber
        return .success (.list (done.reverse ++ numbers.map pair)) (.text (readSteps s).2) := by
  induction s using readSteps.induct generalizing count done with
  | case1 s read =>
    obtain ⟨expected, actual, given⟩ := step_none read
    rw [Parser.manyFrom_of_failure given, readSteps_none read]
    change _ = Run.ofExcept (.ok (Outcome.success (.list (done.reverse ++ [])) (.text s)))
    rw [List.append_nil done.reverse]
    rfl
  | case2 s step rest read ih =>
    have given := step_some read
    rw [readSteps_some read, List.mapM_cons]
    cases converted : stepNumber step with
    | error fault =>
      rw [converted] at given
      exact Parser.manyFrom_of_fault given
    | ok number =>
      rw [converted] at given
      -- a step is never empty, so the repetition goes on
      refine (Parser.manyFrom_of_success given rfl (readStep_shorter read)).trans ?_
      refine (ih (count + 1) (pair number :: done)).trans ?_
      cases (readSteps rest).1.mapM stepNumber with
      | error fault => rfl
      | ok numbers =>
        simp only [List.reverse_cons, List.append_assoc]
        rfl

theorem many_steps (s : Text) :
    Parser.many (Parser.collect [token operation, token decimal]) (.text s) = Run.ofExcept do
      let numbers ← (readSteps s).1.mapM stepNumber
      return .success (.list (numbers.map pair)) (.text (readSteps s).2) :=
  manyFrom_steps s 0 []

theorem endOfInput_text (s : Text) :
    Parser.endOfInput (.text s) = ⟨[], .ok (if s = [] then .success .none (.text [])
      else .failure (.ofString "end of input") (.text s))⟩ := by
  cases s <;> rfl

theorem finish_meaning (result : Except Fault Value) (input : Value) :
    (finish result).meaning input = Run.ofExcept do return .success (← result) input := by
  cases result <;> rfl

/-- What a chain does behind its first operand. -/
def behindFirst (first : Value) : Parser :=
  (Parser.many (.collect [token operation, token decimal])).bind fun rest =>
    .ok (Parser.endOfInput.bind fun _ => .ok (finish (fold first rest)).meaning)

theorem chain_eq : chain = spaces.bind fun _ => .ok ((token decimal).bind fun first => .ok (behindFirst first)) :=
  Parser.script_none _

theorem behindFirst_text (first : Value) (s : Text) :
    behindFirst first (.text s) = Run.ofExcept do
      let numbers ← (readSteps s).1.mapM stepNumber
      if (readSteps s).2 = [] then return .success (← foldLeft first numbers) (.text [])
      else return .failure (.ofString "end of input") (.text (readSteps s).2) := by
  have steps := many_steps s
  cases converted : (readSteps s).1.mapM stepNumber with
  | error fault =>
    rw [converted] at steps
    exact Parser.bind_of_fault steps
  | ok numbers =>
    rw [converted] at steps
    have ends := endOfInput_text (readSteps s).2
    refine (Parser.bind_of_success steps rfl).trans ?_
    by_cases consumed : (readSteps s).2 = []
    · rw [if_pos consumed] at ends
      refine (congrArg (Run.precededBy []) (Parser.bind_of_success ends rfl)).trans ?_
      rw [finish_meaning, fold_pairs]
      simp only [Run.precededBy_nil, if_pos consumed]
      rfl
    · rw [if_neg consumed] at ends
      refine (congrArg (Run.precededBy []) (Parser.bind_of_failure ends)).trans ?_
      simp only [Run.precededBy_nil, if_neg consumed]
      rfl

/-- Behind blanks and a literal, a parser that may depend on its number goes on. -/
theorem operand_first_text (q : Value → Parser) (s : Text) :
    (spaces.bind fun _ => .ok ((token decimal).bind fun first => .ok (q first))) (.text s) =
      match readLiteral (s.dropWhile isBlank) with
      | none => ⟨[], .ok (.failure (.ofString "a decimal") (.text (s.dropWhile isBlank)))⟩
      | some (literal, behind) =>
        Run.ofExcept (Value.toNumber (.text literal)) >>= fun number => q number (.text (behind.dropWhile isBlank)) := by
  have operand := token_decimal_text (s.dropWhile isBlank)
  rw [Parser.bind_of_success (spaces_text s) rfl, Run.precededBy_nil]
  rcases read : readLiteral (s.dropWhile isBlank) with _ | ⟨literal, behind⟩ <;> simp only [read] at operand
  · exact Parser.bind_of_failure operand
  · cases converted : Value.toNumber (.text literal) with
    | error fault =>
      simp only [converted] at operand ⊢
      exact Parser.bind_of_fault operand
    | ok number =>
      simp only [converted] at operand ⊢
      exact Parser.bind_of_success operand rfl

/-- A chain fails where no literal can be read first, and where something is left behind the chain. Else its
numbers are combined from left to right; what faults first is the fault. -/
theorem chain_text (s : Text) :
    chain (.text s) =
      match readChain s with
      | none => ⟨[], .ok (.failure (.ofString "a decimal") (.text (s.dropWhile isBlank)))⟩
      | some (read, rest) => Run.ofExcept do
        let (first, steps) ← read.numbers
        if rest = [] then return .success (← foldLeft first steps) (.text [])
        else return .failure (.ofString "end of input") (.text rest) := by
  rw [chain_eq, operand_first_text]
  rcases read : readLiteral (s.dropWhile isBlank) with _ | ⟨literal, behind⟩
  · simp [readChain, read]
  · simp only [readChain, read]
    cases converted : Value.toNumber (.text literal) with
    | error fault =>
      simp [Chain.numbers, converted, Run.ofExcept]
      rfl
    | ok number =>
      simp only [behindFirst_text]
      simp [Chain.numbers, converted, Run.ofExcept]
      rfl

end Arithmetic

end ParseKit
