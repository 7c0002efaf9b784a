import ParseKit.Parser.Basic

/-!
Running a parser where a failure is a fault.
-/

namespace ParseKit

structure Parsed where
  data : Value
  rest : Value

namespace Parser

def failureWording (expected actual : Value) : Except Fault Text := do
  let wanted ← expected.describe
  let found ← actual.render
  return "Parse error. Expected ".toList ++ wanted ++ ". Instead found ".toList ++ found ++ ['.']

def failureRecord (wanted : Text) : LogRecord where
  logger := "pcomb.parsing.driver".toList
  level := .debug
  message := "Parse failed; expected ".toList ++ wanted

/-- Runs a parser on a sequence; a failure is recorded and becomes a fault. -/
def parse (p : Parser) (input : Value) : Run Parsed :=
  if !input.isSequence then Run.fault .typeCheck
  else do
    match ← p input with
    | .success data rest => return ⟨data, rest⟩
    | .failure expected actual =>
      let wanted ← Run.ofExcept expected.describe
      Run.tell (.record (failureRecord wanted))
      let wording ← Run.ofExcept (failureWording expected actual)
      Run.fault (.unparsed expected actual wording)

section reports

variable {p : Parser} {input : Value}

theorem parse_of_success {data rest : Value} (sequence : input.isSequence)
    (given : (p input).result = .ok (.success data rest)) : p.parse input = ⟨(p input).events, .ok ⟨data, rest⟩⟩ := by
  rcases same : p input with ⟨events, result⟩
  rw [same] at given
  cases given
  simp [parse, sequence, same, Run.pure_def, Run.precededBy]

theorem parse_of_fault {fault : Fault} (sequence : input.isSequence) (given : (p input).result = .error fault) :
    p.parse input = ⟨(p input).events, .error fault⟩ := by
  rcases same : p input with ⟨events, result⟩
  rw [same] at given
  cases given
  simp [parse, sequence, same]

theorem parse_of_failure {expected actual : Value} {wanted wording : Text} (sequence : input.isSequence)
    (given : (p input).result = .ok (.failure expected actual)) (described : expected.describe = .ok wanted)
    (worded : failureWording expected actual = .ok wording) :
    p.parse input =
      ⟨(p input).events ++ [.record (failureRecord wanted)], .error (.unparsed expected actual wording)⟩ := by
  rcases same : p input with ⟨events, result⟩
  rw [same] at given
  cases given
  simp [parse, sequence, same, described, worded, Run.ofExcept, Run.tell, Run.fault, Run.precededBy]

theorem parse_of_undescribed {expected actual : Value} {fault : Fault} (sequence : input.isSequence)
    (given : (p input).result = .ok (.failure expected actual)) (undescribed : expected.describe = .error fault) :
    p.parse input = ⟨(p input).events, .error fault⟩ := by
  rcases same : p input with ⟨events, result⟩
  rw [same] at given
  cases given
  simp [parse, sequence, same, undescribed, Run.ofExcept, Run.precededBy]

end reports

end Parser

end ParseKit
