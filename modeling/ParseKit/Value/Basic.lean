import ParseKit.Number.Binary64
import ParseKit.Pattern.Basic

/-!
Values: what parsers read from, what they give, and what they say they expected.
-/

namespace ParseKit

inductive Operator where
  | add
  | sub
  | mul
  | truediv
  deriving DecidableEq

inductive Value where
  | none
  | bool (b : Bool)
  | int (n : Int)
  | float (x : Binary64)
  | text (s : Text)
  | bytes (b : List UInt8)
  /-- bytes of a changeable kind, equal to `bytes` of the same content -/
  | bytearray (b : List UInt8)
  | list (items : List Value)
  | tuple (items : List Value)
  /-- keys with their values, in order of first arrival -/
  | dict (entries : List (Value × Value))
  | pattern (p : Pattern)
  | operator (f : Operator)

instance : Inhabited Value := ⟨.none⟩

namespace Value

def ofString (s : String) : Value := .text s.toList

/-- Values that are read from left to right and can be cut. -/
def isSequence : Value → Bool
  | .text _ | .bytes _ | .bytearray _ | .list _ | .tuple _ => true
  | _ => false

def length? : Value → Option Nat
  | .text s => some s.length
  | .bytes b | .bytearray b => some b.length
  | .list items | .tuple items => some items.length
  | .dict entries => some entries.length
  | _ => Option.none

/-- Whether a value that has elements has none; the same as comparing its length with zero. -/
def isEmpty? : Value → Option Bool
  | .text s => some s.isEmpty
  | .bytes b | .bytearray b => some b.isEmpty
  | .list items | .tuple items => some items.isEmpty
  | .dict entries => some entries.isEmpty
  | _ => Option.none

/-- The first `count` elements of a sequence, as a sequence of its kind. -/
def take? (count : Nat) : Value → Option Value
  | .text s => some (.text (s.take count))
  | .bytes b => some (.bytes (b.take count))
  | .bytearray b => some (.bytearray (b.take count))
  | .list items => some (.list (items.take count))
  | .tuple items => some (.tuple (items.take count))
  | _ => Option.none

/-- A sequence without its first `count` elements. -/
def drop? (count : Nat) : Value → Option Value
  | .text s => some (.text (s.drop count))
  | .bytes b => some (.bytes (b.drop count))
  | .bytearray b => some (.bytearray (b.drop count))
  | .list items => some (.list (items.drop count))
  | .tuple items => some (.tuple (items.drop count))
  | _ => Option.none

def isTrue : Value → Bool
  | .none => false
  | .bool b => b
  | .int n => n != 0
  | .float x => !x.isZero
  | .text s => !s.isEmpty
  | .bytes b | .bytearray b => !b.isEmpty
  | .list items | .tuple items => !items.isEmpty
  | .dict entries => !entries.isEmpty
  | .pattern _ | .operator _ => true

mutual

/-- Equality. Truth values are the integers zero and one, numbers are compared exactly whatever their
kind, both kinds of byte strings by content, and dictionaries without regard to order. -/
def equal : Value → Value → Bool
  | .none, .none => true
  | .bool a, .bool b => a = b
  | .bool a, .int n => (if a then 1 else 0) = n
  | .bool a, .float x => x.eqInt (if a then 1 else 0)
  | .int m, .bool b => m = if b then 1 else 0
  | .int m, .int n => m = n
  | .int m, .float x => x.eqInt m
  | .float x, .bool b => x.eqInt (if b then 1 else 0)
  | .float x, .int n => x.eqInt n
  | .float x, .float y => x.numericEq y
  | .text s, .text t => s = t
  | .bytes a, .bytes b | .bytes a, .bytearray b => a = b
  | .bytearray a, .bytes b | .bytearray a, .bytearray b => a = b
  | .list a, .list b | .tuple a, .tuple b => equalItems a b
  | .dict a, .dict b => a.length = b.length && equalEntries a b
  | .pattern p, .pattern q => p.same q
  | .operator f, .operator g => f = g
  | _, _ => false

def equalItems : List Value → List Value → Bool
  | [], [] => true
  | x :: xs, y :: ys => equal x y && equalItems xs ys
  | _, _ => false

/-- Whether every entry has an equal one in the other dictionary. -/
def equalEntries : List (Value × Value) → List (Value × Value) → Bool
  | [], _ => true
  | (k, v) :: entries, others =>
    others.any (fun other => equal k other.1 && equal v other.2) && equalEntries entries others

end

/-- Puts an entry into a dictionary: a key that is present keeps its place. -/
def insertEntry (entries : List (Value × Value)) (key value : Value) : List (Value × Value) :=
  if entries.any fun entry => entry.1.equal key then
    entries.map fun entry => if entry.1.equal key then (entry.1, value) else entry
  else entries ++ [(key, value)]

def lookupEntry (entries : List (Value × Value)) (key : Value) : Option Value :=
  (entries.find? fun entry => entry.1.equal key).map (·.2)

def ofEntries (entries : List (Value × Value)) : Value :=
  .dict (entries.foldl (fun done entry => insertEntry done entry.1 entry.2) [])

mutual

def isKey : Value → Bool
  | .bytearray _ | .list _ | .dict _ => false
  | .tuple items => areKeys items
  | _ => true

def areKeys : List Value → Bool
  | [] => true
  | item :: items => isKey item && areKeys items

end

end Value

end ParseKit
