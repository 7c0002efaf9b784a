import ParseKit.Proofs.Arithmetic.Reading

/-!
One operation between two operands, written in two ways: as parsers in sequence and as a script. Main statement:
both do the same on every input.
-/

namespace ParseKit

namespace Arithmetic

/-- The script of one operation hands out the parsers of the sequence, in its order. -/
theorem binaryScript_eq : binaryScript = Parser.script
    (Script.inOrder (fun data => finish (calculateBinary data))
      [spaces, token decimal, token operation, token decimal, .endOfInput] []) none := rfl

theorem binary_eq_binaryScript : binary = binaryScript := by
  rw [binaryScript_eq, Parser.script_none, binary, Parser.apply]
  exact Parser.inSequence_eq_meaning (fun data => finish_meaning (calculateBinary data)) _ _

/-- The two grammars of one operation give the same success, failure or fault on every input, of whatever kind,
and an expression has the same value, or none for the same reason, in both. -/
theorem binary_grammars_agree :
    (∀ input : Value, binary input = binaryScript input) ∧
    ∀ expression : Text, evaluate expression "binary".toList = evaluate expression "binary-go".toList := by
  refine ⟨fun input => by rw [binary_eq_binaryScript], fun expression => ?_⟩
  have first : grammars.lookup (String.ofList "binary".toList) = some binary := by
    simp [grammars]
  have second : grammars.lookup (String.ofList "binary-go".toList) = some binaryScript := by
    simp [grammars, List.lookup_cons]
  rw [evaluate, evaluate, first, second, binary_eq_binaryScript]

end Arithmetic

end ParseKit
