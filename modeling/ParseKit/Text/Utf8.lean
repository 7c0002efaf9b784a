import ParseKit.Text.Basic

/-!
UTF-8. Invalid bytes are found as maximal subparts: a well-formed beginning of a character that is cut
off is one unit, any other byte is a unit of its own.
-/

namespace ParseKit

namespace Utf8

def encodeChar (c : Char) : List UInt8 :=
  let n := c.toNat
  let tail (shift : Nat) : UInt8 := .ofNat (0x80 + n / Nat.pow 2 shift % 0x40)
  if n < 0x80 then [.ofNat n]
  else if n < 0x800 then [.ofNat (0xC0 + n / Nat.pow 2 6), tail 0]
  else if n < 0x10000 then [.ofNat (0xE0 + n / Nat.pow 2 12), tail 6, tail 0]
  else [.ofNat (0xF0 + n / Nat.pow 2 18), tail 12, tail 6, tail 0]

def encode (s : Text) : List UInt8 := s.flatMap encodeChar

/-- What a first byte announces: how many bytes follow, the bounds of the first of them, and the bits
that the byte itself gives. -/
def lead? (b : Nat) : Option (Nat × Nat × Nat × Nat) :=
  if b < 0x80 then some (0, 0, 0, b)
  else if b < 0xC2 then none
  else if b < 0xE0 then some (1, 0x80, 0xBF, b - 0xC0)
  else if b = 0xE0 then some (2, 0xA0, 0xBF, 0)
  else if b = 0xED then some (2, 0x80, 0x9F, 0xD)
  else if b < 0xF0 then some (2, 0x80, 0xBF, b - 0xE0)
  else if b = 0xF0 then some (3, 0x90, 0xBF, 0)
  else if b < 0xF4 then some (3, 0x80, 0xBF, b - 0xF0)
  else if b = 0xF4 then some (3, 0x80, 0x8F, 4)
  else none

/-- The continuation bytes of a character: the value with their bits, or the number of bytes that fit. -/
def continuation (low high : Nat) : Nat → Nat → Nat → List UInt8 → Except Nat Nat
  | 0, value, _, _ => .ok value
  | _ + 1, _, taken, [] => .error taken
  | count + 1, value, taken, b :: rest =>
    if low ≤ b.toNat ∧ b.toNat ≤ high then
      continuation 0x80 0xBF count (value * 0x40 + (b.toNat - 0x80)) (taken + 1) rest
    else .error taken

inductive Item where
  /-- a character of `size` bytes -/
  | char (c : Char) (size : Nat)
  /-- `size` invalid bytes; `starts` tells whether they begin like a character -/
  | invalid (size : Nat) (starts : Bool)

/-- Reads one unit that starts with the byte `b`. -/
def item (b : UInt8) (rest : List UInt8) : Item :=
  match lead? b.toNat with
  | none => .invalid 1 false
  | some (count, low, high, bits) =>
    match continuation low high count bits 0 rest with
    | .ok code => .char (Char.ofNat code) (count + 1)
    | .error taken => .invalid (taken + 1) true

def escapeByte (b : UInt8) : Text := '\\' :: 'x' :: Text.ofHex 2 b.toNat

/-- Decodes bytes; the first argument counts bytes of a unit that has been dealt with already. -/
def decodeFrom : Nat → List UInt8 → Text
  | _, [] => []
  | skip + 1, _ :: rest => decodeFrom skip rest
  | 0, b :: rest =>
    match item b rest with
    | .char c size => c :: decodeFrom (size - 1) rest
    | .invalid size _ =>
      (b :: rest.take (size - 1)).flatMap escapeByte ++ decodeFrom (size - 1) rest

def decode (bytes : List UInt8) : Text := decodeFrom 0 bytes

structure Fault where
  /-- the first invalid byte -/
  byte : UInt8
  position : Nat
  /-- number of bytes of the invalid unit -/
  size : Nat
  reason : String
  deriving DecidableEq

/-- Decodes valid bytes; the first argument counts bytes of a unit that has been dealt with already. -/
def decodeStrictFrom : Nat → Nat → List UInt8 → Except Fault Text
  | _, _, [] => .ok []
  | skip + 1, position, _ :: rest => decodeStrictFrom skip (position + 1) rest
  | 0, position, b :: rest =>
    match item b rest with
    | .char c size => (decodeStrictFrom (size - 1) (position + 1) rest).map (c :: ·)
    | .invalid size starts =>
      let reason :=
        if !starts then "invalid start byte"
        else if rest.length < size then "unexpected end of data"
        else "invalid continuation byte"
      .error ⟨b, position, size, reason⟩

def decode? (bytes : List UInt8) : Except Fault Text := decodeStrictFrom 0 0 bytes

def Fault.message (f : Fault) : Text :=
  let place : Text :=
    if f.size = 1 then
      "byte 0x".toList ++ Text.ofHex 2 f.byte.toNat ++ " in position ".toList ++ Text.ofNat f.position
    else
      "bytes in position ".toList ++ Text.ofNat f.position ++ '-' :: Text.ofNat (f.position + f.size - 1)
  "'utf-8' codec can't decode ".toList ++ place ++ ": ".toList ++ f.reason.toList

end Utf8

end ParseKit
