import ParseKit.Number.Binary64

/-!
The shortest decimal that reads back to a given double precision number, by exact arithmetic.
-/

namespace ParseKit

/-- The number `digits * 10 ^ exponent`. -/
structure Decimal where
  digits : Nat
  exponent : Int
  deriving DecidableEq

namespace Decimal

/-- Moves trailing zeros of the digits into the exponent, at most `limit` of them. -/
def strip : Nat → Decimal → Decimal
  | 0, d => d
  | limit + 1, d =>
    if d.digits ≠ 0 ∧ d.digits % 10 = 0 then strip limit ⟨d.digits / 10, d.exponent + 1⟩ else d

def powerAtMost (k : Int) (n d : Nat) : Bool :=
  Nat.pow 10 k.toNat * d ≤ n * Nat.pow 10 (-k).toNat

/-- The greatest `k` with `10 ^ k ≤ n / d` for a positive fraction in the range of double precision. -/
def floorLog10 (n d : Nat) : Int :=
  let guess := (Binary64.floorLog2 n d * 30103).fdiv 100000
  if powerAtMost (guess + 1) n d then guess + 1
  else if powerAtMost guess n d then guess else guess - 1

/-- Of the two neighbours of `n / d` on the grid `10 ^ exponent`, those that `accept` takes; of two, the
nearer one, and of two that are equally near, the even one. -/
def onGrid (accept : Decimal → Bool) (n d : Nat) (exponent : Int) : Option Decimal :=
  let numerator := n * Nat.pow 10 (-exponent).toNat
  let denominator := d * Nat.pow 10 exponent.toNat
  let below := numerator / denominator
  let low : Decimal := ⟨below, exponent⟩
  let high : Decimal := ⟨below + 1, exponent⟩
  match accept low, accept high with
  | true, true => if Binary64.nearest numerator denominator = below then some low else some high
  | true, false => some low
  | false, true => some high
  | false, false => none

def exact (mantissa : Nat) (exponent : Int) : Decimal :=
  if 0 ≤ exponent then ⟨mantissa * Nat.pow 2 exponent.toNat, 0⟩
  else ⟨mantissa * Nat.pow 5 (-exponent).toNat, exponent⟩

/-- The fewest digits that read back to `mantissa * 2 ^ exponent`, a positive canonical number. -/
def shortest (mantissa : Nat) (exponent : Int) : Decimal :=
  let (n, d) := Binary64.scale mantissa 1 exponent
  let lead := floorLog10 n d
  let accept (candidate : Decimal) : Bool :=
    Binary64.ofDecimal false candidate.digits candidate.exponent = Binary64.ofParts false mantissa exponent
  let found := (List.range 17).findSome? fun (extra : Nat) => onGrid accept n d (lead - extra)
  strip 20 (found.getD (exact mantissa exponent))

end Decimal

end ParseKit
