import ParseKit.Parser.Combinators
import ParseKit.Parser.Report
import ParseKit.Parser.Script
import ParseKit.Value.Conversion

/-!
Arithmetic expressions of decimals and the four operations. Three grammars: exactly one operation,
written in two ways, and a chain of any number of operations, which is evaluated from left to right.
Blanks may stand in front of and behind every decimal and operation.
-/

namespace ParseKit

namespace Arithmetic

def digit : Pattern.Node := .set false [.category .digit false]

def decimalPattern : Pattern where
  source := .text "\\d+(?:\\.\\d+)?".toList
  flags := { unicode := true }
  node := .sequence
    [.repetition .greedy 1 none digit,
      .repetition .greedy 0 (some 1)
        (.sequence [.sequence [.literal 46, .repetition .greedy 1 none digit]])]

def spacesPattern : Pattern where
  source := .text "\\s*".toList
  flags := { unicode := true }
  node := .repetition .greedy 0 none (.set false [.category .blank false])

def operators : List (Char × Operator) := [('+', .add), ('-', .sub), ('*', .mul), ('/', .truediv)]

def operatorOf (sign : Value) : Except Fault Value :=
  match sign with
  | .text [c] => match operators.lookup c with
    | some f => .ok (.operator f)
    | none => .error (.missingKey (Quoted.text [c]))
  | _ => do throw (.missingKey (← sign.write))

def sign (c : Char) : Parser := Parser.literalOr (.text ['\'', c, '\'']) (.text [c])

def operation : Parser :=
  .map operatorOf (.label (.firstOf (operators.map fun o => sign o.1)) (.ofString "an arithmetic operator"))

def decimal : Parser :=
  .map Value.toNumber (.label (.matching decimalPattern) (.ofString "a decimal"))

def spaces : Parser := .matching spacesPattern

def token (p : Parser) : Parser := .lexeme spaces p

def calculate (left operation right : Value) : Except Fault Value :=
  match operation with
  | .operator f => Value.operate f left right
  | _ => .error .typeMismatch

/-- The result of blanks, an operation between two operands, and the end. -/
def calculateBinary : List Value → Except Fault Value
  | [_, left, operation, right, _] => calculate left operation right
  | _ => .error .typeMismatch

def finish (result : Except Fault Value) : Script :=
  match result with
  | .ok value => .done value
  | .error fault => .raise fault

def binary : Parser :=
  .apply calculateBinary [spaces, token decimal, token operation, token decimal, .endOfInput]

def binaryScript : Parser := .script
  (.await spaces fun _ => .await (token decimal) fun left => .await (token operation) fun operation =>
    .await (token decimal) fun right => .await .endOfInput fun _ =>
      finish (calculate left operation right)) none

def fold (first rest : Value) : Except Fault Value := do Value.foldPairs first (← rest.elements)

def chain : Parser := .script
  (.await spaces fun _ => .await (token decimal) fun first =>
    .await (.many (.collect [token operation, token decimal])) fun rest => .await .endOfInput fun _ =>
      finish (fold first rest)) none

def grammars : List (String × Parser) :=
  [("binary", binary), ("binary-go", binaryScript), ("chain", chain)]

def evaluate (expression grammar : Text) : Run Value :=
  match grammars.lookup (String.ofList grammar) with
  | none => Run.fault (.missingKey (Quoted.text grammar))
  | some p => do return (← p.parse (.text expression)).data

end Arithmetic

end ParseKit
