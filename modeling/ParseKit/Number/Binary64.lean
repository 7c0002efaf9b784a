/-!
Double precision numbers, written as sign, mantissa and exponent. Every operation is the exact result
in the integers or rationals, rounded once to the nearest number, a tie to the even mantissa.
-/

namespace ParseKit

/-- The pairs that stand for `mantissa * 2 ^ exponent` in double precision: each value has one pair. -/
def Binary64.Canonical (mantissa : Nat) (exponent : Int) : Prop :=
  mantissa < Nat.pow 2 53 ∧ -1074 ≤ exponent ∧ exponent ≤ 971 ∧ (Nat.pow 2 52 ≤ mantissa ∨ exponent = -1074)

instance (mantissa : Nat) (exponent : Int) : Decidable (Binary64.Canonical mantissa exponent) := by
  unfold Binary64.Canonical
  infer_instance

inductive Binary64 where
  | finite (negative : Bool) (mantissa : Nat) (exponent : Int)
      (canonical : Binary64.Canonical mantissa exponent)
  | infinite (negative : Bool)
  | nan
  deriving DecidableEq

namespace Binary64

/-- The number with the given parts; parts beyond the largest exponent give an infinity. -/
def ofParts (negative : Bool) (mantissa : Nat) (exponent : Int) : Binary64 :=
  if canonical : Canonical mantissa exponent then .finite negative mantissa exponent canonical
  else .infinite negative

def zero (negative : Bool) : Binary64 := .finite negative 0 (-1074) (by decide)

instance : Inhabited Binary64 := ⟨zero false⟩

/-- `n / d` rounded to the nearest natural number, a tie to the even one. -/
def nearest (n d : Nat) : Nat :=
  let quotient := n / d
  let twice := 2 * (n % d)
  if twice < d then quotient
  else if d < twice then quotient + 1
  else if quotient % 2 = 0 then quotient else quotient + 1

/-- Multiplies a fraction by a power of two: the new numerator and denominator. -/
def scale (n d : Nat) (power : Int) : Nat × Nat :=
  (n * Nat.pow 2 power.toNat, d * Nat.pow 2 (-power).toNat)

/-- The greatest `k` with `2 ^ k ≤ n / d`, for positive `n` and `d`. -/
def floorLog2 (n d : Nat) : Int :=
  let k : Int := n.log2 - d.log2
  let (n', d') := scale n d (-k)
  if d' ≤ n' then k else k - 1

/-- The number nearest to `n / d`, for positive `d`. -/
def ofRatio (negative : Bool) (n d : Nat) : Binary64 :=
  if n = 0 then zero negative
  else
    let exponent := max (floorLog2 n d - 52) (-1074)
    let (n', d') := scale n d (-exponent)
    let mantissa := nearest n' d'
    if mantissa = Nat.pow 2 53 then ofParts negative (Nat.pow 2 52) (exponent + 1)
    else ofParts negative mantissa exponent

/-- The number nearest to `digits * 10 ^ exponent`. -/
def ofDecimal (negative : Bool) (digits : Nat) (exponent : Int) : Binary64 :=
  ofRatio negative (digits * Nat.pow 10 exponent.toNat) (Nat.pow 10 (-exponent).toNat)

def ofInt? (n : Int) : Option Binary64 :=
  match ofRatio (n < 0) n.natAbs 1 with
  | .infinite _ => none
  | x => some x

/-- The number nearest to `n * 2 ^ exponent`, where an exact zero takes the sign `zeroSign`. -/
def ofScaled (zeroSign : Bool) (n exponent : Int) : Binary64 :=
  if n = 0 then zero zeroSign
  else
    let (numerator, denominator) := scale n.natAbs 1 exponent
    ofRatio (n < 0) numerator denominator

def signed (negative : Bool) (mantissa : Nat) : Int := if negative then -mantissa else mantissa

def neg : Binary64 → Binary64
  | .finite negative mantissa exponent canonical => .finite (!negative) mantissa exponent canonical
  | .infinite negative => .infinite (!negative)
  | .nan => .nan

def add : Binary64 → Binary64 → Binary64
  | .nan, _ => .nan
  | _, .nan => .nan
  | .infinite s, .infinite t => if s = t then .infinite s else .nan
  | .infinite s, .finite .. => .infinite s
  | .finite .., .infinite t => .infinite t
  | .finite s m e _, .finite t k f _ =>
    let low := min e f
    ofScaled (s && t) (signed s (m * Nat.pow 2 (e - low).toNat) + signed t (k * Nat.pow 2 (f - low).toNat)) low

def sub (x y : Binary64) : Binary64 := x.add y.neg

def mul : Binary64 → Binary64 → Binary64
  | .nan, _ => .nan
  | _, .nan => .nan
  | .infinite s, .infinite t => .infinite (s != t)
  | .infinite s, .finite t k _ _ => if k = 0 then .nan else .infinite (s != t)
  | .finite s m _ _, .infinite t => if m = 0 then .nan else .infinite (s != t)
  | .finite s m e _, .finite t k f _ => ofScaled (s != t) (signed s m * signed t k) (e + f)

def isZero : Binary64 → Bool
  | .finite _ mantissa _ _ => mantissa = 0
  | _ => false

/-- The quotient, or nothing if the divisor is zero. -/
def div? : Binary64 → Binary64 → Option Binary64
  | .finite s m e _, .finite t k f _ =>
    if k = 0 then none
    else
      let (numerator, denominator) := scale m k (e - f)
      some (ofRatio (s != t) numerator denominator)
  | .nan, .finite _ k _ _ => if k = 0 then none else some .nan
  | .infinite s, .finite t k _ _ => if k = 0 then none else some (.infinite (s != t))
  | .finite s _ _ _, .infinite t => some (zero (s != t))
  | _, _ => some .nan

/-- Equality of numbers: zeros are equal, and nothing equals a NaN. -/
def numericEq : Binary64 → Binary64 → Bool
  | .finite s m e _, .finite t k f _ => m = k && ((m = 0) || (s = t && e = f))
  | .infinite s, .infinite t => s = t
  | _, _ => false

/-- The integer that a number is exactly, if it is one. -/
def toInt? : Binary64 → Option Int
  | .finite negative mantissa exponent _ =>
    let (n, d) := scale mantissa 1 exponent
    if n % d = 0 then some (signed negative (n / d)) else none
  | _ => none

def eqInt (x : Binary64) (n : Int) : Bool := x.toInt? == some n

def truncate? : Binary64 → Option Int
  | .finite negative mantissa exponent _ =>
    let (n, d) := scale mantissa 1 exponent
    some (signed negative (n / d))
  | _ => none

/-- The quotient of two integers rounded once, or nothing if it is out of range; `d` is not zero. -/
def ofQuotient? (n d : Int) : Option Binary64 :=
  match ofRatio ((n < 0) != (d < 0)) n.natAbs d.natAbs with
  | .infinite _ => none
  | x => some x

end Binary64

end ParseKit
