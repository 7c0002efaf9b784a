import ParseKit.Value.Display

/-!
What a parser gives.
-/

namespace ParseKit

/-- What a parser gives: a value with the rest of the input, or what it expected with the input where it
expected that. -/
inductive Outcome where
  | success (data rest : Value)
  | failure (expected actual : Value)

namespace Outcome

def isSuccess : Outcome → Bool
  | .success .. => true
  | .failure .. => false

def equal : Outcome → Outcome → Bool
  | .success data rest, .success data' rest' => data.equal data' && rest.equal rest'
  | .failure expected actual, .failure expected' actual' => expected.equal expected' && actual.equal actual'
  | _, _ => false

def write : Outcome → Except Fault Text
  | .success data rest => do
    return "Success(data=".toList ++ (← data.write) ++ ", rest=".toList ++ (← rest.write) ++ [')']
  | .failure expected actual => do
    return "Failure(expected=".toList ++ (← expected.write) ++ ", actual=".toList ++ (← actual.write)
      ++ [')']

end Outcome

end ParseKit
