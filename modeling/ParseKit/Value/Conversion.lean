import ParseKit.Value.Arithmetic
import ParseKit.Value.Display

/-!
Conversions of values: to integers and numbers, to elements and entries.
-/

namespace ParseKit

namespace Value

/-- The integer that a text denotes; the message about any other text shows its beginning. -/
def integerOfText (s shown : Text) : Except Fault Int :=
  match Numeral.readInt s with
  | .ok n => .ok n
  | .error .invalid => .error (.badInteger (shown.take 200))
  | .error (.tooLong digits) => .error (.integerTooLong digits)

/-- Bytes as the text of a numeral, which is ASCII. -/
def numeralOfBytes (b : List UInt8) : Text :=
  b.map fun byte => if byte.toNat < 0x80 then Char.ofNat byte.toNat else '?'

/-- The integer that a value denotes, without the fraction of a number. -/
def toInteger : Value → Except Fault Int
  | .text s => integerOfText s (Quoted.text s)
  | .bytes b | .bytearray b => integerOfText (numeralOfBytes b) (Quoted.bytes b)
  | .bool b => .ok (if b then 1 else 0)
  | .int n => .ok n
  | .float x => match x.truncate?, x with
    | some n, _ => .ok n
    | Option.none, .nan => .error .nanToInteger
    | Option.none, _ => .error .infinityToInteger
  | _ => .error .typeMismatch

/-- The number that a literal denotes: in double precision if it has a point, otherwise an integer. -/
def toNumber : Value → Except Fault Value
  | .text s =>
    if s.contains '.' then
      match Numeral.readFloat s with
      | some x => .ok (.float x)
      | Option.none => .error (.badFloat (Quoted.text s))
    else (toInteger (.text s)).map .int
  | _ => .error .typeMismatch

/-- An index into `count` elements; a negative one counts from the end. -/
def index? (count : Nat) (i : Int) : Option Nat :=
  let j := if i < 0 then i + count else i
  if 0 ≤ j ∧ j < count then some j.toNat else Option.none

/-- The element at an index, or the fault that there is none. -/
def pick {α : Type} (kind : String) (items : List α) (i : Int) : Except Fault α :=
  match (index? items.length i).bind (items[·]?) with
  | some x => .ok x
  | Option.none => .error (.outOfRange kind)

def element (x index : Value) : Except Fault Value :=
  match x with
  | .dict entries =>
    if !index.isKey then .error .typeMismatch
    else match lookupEntry entries index with
      | some found => .ok found
      | Option.none => do throw (.missingKey (← write index))
  | _ =>
    match Number.ofValue? index with
    | some (.int i) =>
      match x with
      | .text s => (pick "string " s i).map fun c => .text [c]
      | .bytes b => (pick "" b i).map fun byte => .int byte.toNat
      | .bytearray b => (pick "bytearray " b i).map fun byte => .int byte.toNat
      | .list items => pick "list " items i
      | .tuple items => pick "tuple " items i
      | _ => .error .typeMismatch
    | _ => .error .typeMismatch

/-- The elements of a value in order: characters, bytes as integers, items, or keys. -/
def elements : Value → Except Fault (List Value)
  | .text s => .ok (s.map fun c => .text [c])
  | .bytes b | .bytearray b => .ok (b.map fun byte => .int byte.toNat)
  | .list items | .tuple items => .ok items
  | .dict entries => .ok (entries.map (·.1))
  | _ => .error .typeMismatch

def reverse : Value → Except Fault Value
  | .text s => .ok (.text s.reverse)
  | .bytes b => .ok (.bytes b.reverse)
  | .bytearray b => .ok (.bytearray b.reverse)
  | .list items => .ok (.list items.reverse)
  | .tuple items => .ok (.tuple items.reverse)
  | _ => .error .typeMismatch

def upper : Value → Except Fault Value
  | .text s => .ok (.text (Text.upperAscii s))
  | .bytes b => .ok (.bytes (b.map fun byte => if 0x61 ≤ byte ∧ byte ≤ 0x7A then byte - 32 else byte))
  | .bytearray b =>
    .ok (.bytearray (b.map fun byte => if 0x61 ≤ byte ∧ byte ≤ 0x7A then byte - 32 else byte))
  | _ => .error .missingAttribute

def concat : List Value → Except Fault Text
  | [] => .ok []
  | .text s :: rest => (concat rest).map (s ++ ·)
  | _ :: _ => .error .typeMismatch

/-- Combines numbers from left to right: `pairs` holds an operation and an operand each. -/
def foldPairs (first : Value) : List Value → Except Fault Value
  | [] => .ok first
  | pair :: pairs => do
    let operation ← element pair (.int 0)
    let operand ← element pair (.int 1)
    match operation with
    | .operator f => foldPairs (← operate f first operand) pairs
    | _ => throw .typeMismatch

end Value

end ParseKit
