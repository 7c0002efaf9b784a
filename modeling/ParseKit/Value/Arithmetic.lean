import ParseKit.Fault

/-!
The four operations on values. Integers are exact; as soon as one operand is a double precision number,
both are. Sums join sequences, and products repeat them.
-/

namespace ParseKit

inductive Number where
  | int (n : Int)
  | float (x : Binary64)

namespace Number

/-- The number that a value is, truth values being zero and one. -/
def ofValue? : Value → Option Number
  | .bool b => some (.int (if b then 1 else 0))
  | .int n => some (.int n)
  | .float x => some (.float x)
  | _ => none

def toValue : Number → Value
  | .int n => .int n
  | .float x => .float x

def toFloat : Number → Except Fault Binary64
  | .float x => .ok x
  | .int n => match Binary64.ofInt? n with
    | some x => .ok x
    | none => .error .integerTooLargeForFloat

/-- An operation that is exact on integers and rounded on anything else. -/
def lift (exact : Int → Int → Int) (rounded : Binary64 → Binary64 → Binary64) :
    Number → Number → Except Fault Number
  | .int m, .int n => .ok (.int (exact m n))
  | a, b => do
    let x ← a.toFloat
    let y ← b.toFloat
    return .float (rounded x y)

def divide : Number → Number → Except Fault Number
  | .int m, .int n =>
    if n = 0 then .error .divisionByZero
    else match Binary64.ofQuotient? m n with
      | some x => .ok (.float x)
      | none => .error .quotientTooLarge
  | a, b => do
    let x ← a.toFloat
    let y ← b.toFloat
    match x.div? y with
    | some z => return .float z
    | none => throw .floatDivisionByZero

def operate : Operator → Number → Number → Except Fault Number
  | .add => lift (· + ·) Binary64.add
  | .sub => lift (· - ·) Binary64.sub
  | .mul => lift (· * ·) Binary64.mul
  | .truediv => divide

end Number

namespace Value

/-- Two sequences of one kind, one behind the other; a byte string takes the kind of the first. -/
def append : Value → Value → Except Fault Value
  | .text s, .text t => .ok (.text (s ++ t))
  | .bytes a, .bytes b | .bytes a, .bytearray b => .ok (.bytes (a ++ b))
  | .bytearray a, .bytes b | .bytearray a, .bytearray b => .ok (.bytearray (a ++ b))
  | .list a, .list b => .ok (.list (a ++ b))
  | .tuple a, .tuple b => .ok (.tuple (a ++ b))
  | _, _ => .error .typeMismatch

/-- A sequence several times over; a negative number of times is none. -/
def times (count : Int) : Value → Except Fault Value
  | .text s => .ok (.text (List.replicate count.toNat s).flatten)
  | .bytes b => .ok (.bytes (List.replicate count.toNat b).flatten)
  | .bytearray b => .ok (.bytearray (List.replicate count.toNat b).flatten)
  | .list items => .ok (.list (List.replicate count.toNat items).flatten)
  | .tuple items => .ok (.tuple (List.replicate count.toNat items).flatten)
  | _ => .error .typeMismatch

/-- What an operation does with operands that are not both numbers. -/
def operateOther : Operator → Value → Value → Except Fault Value
  | .add, a, b => append a b
  | .mul, a, b =>
    match Number.ofValue? a, Number.ofValue? b with
    | some (.int n), Option.none => times n b
    | Option.none, some (.int n) => times n a
    | _, _ => .error .typeMismatch
  | _, _, _ => .error .typeMismatch

def operate (f : Operator) (a b : Value) : Except Fault Value :=
  match Number.ofValue? a, Number.ofValue? b with
  | some m, some n => (Number.operate f m n).map Number.toValue
  | _, _ => operateOther f a b

end Value

end ParseKit
