import ParseKit.Text.Basic
import ParseKit.Text.Blank
import ParseKit.Text.DecimalDigit
import ParseKit.Number.Binary64

/-!
Numerals: reading integers and double precision numbers from text, with digits of any script, and
writing integers. Integers of more digits than a fixed limit are neither read nor written.
-/

namespace ParseKit

namespace Numeral

/-- The greatest number of digits of an integer that is read or written. -/
def digitLimit : Nat := 4300

inductive Fault where
  | invalid
  | tooLong (digits : Nat)
  deriving DecidableEq

/-- The blanks of ASCII that may surround a numeral. -/
def isBlank (c : Char) : Bool := c = ' ' || ('\x09' ≤ c && c ≤ '\x0d')

/-- A text with blanks and digits of every script brought to ASCII. It ends at the first other character
beyond ASCII, which is left as a question mark and so belongs to no numeral. -/
def toAscii : Text → Text
  | [] => []
  | c :: s =>
    if c.toNat < 127 then c :: toAscii s
    else if Blank.holds c.toNat then ' ' :: toAscii s
    else match DecimalDigit.value? c.toNat with
      | some digit => Char.ofNat (48 + digit) :: toAscii s
      | none => ['?']

/-- Splits off a sign: whether it is a minus, and the rest. -/
def splitSign : Text → Bool × Text
  | '-' :: s => (true, s)
  | '+' :: s => (false, s)
  | s => (false, s)

def value (digits : Text) : Nat := digits.foldl (fun n c => n * 10 + (c.toNat - 48)) 0

/-- The digits of a run of digits and underscores, if every underscore stands between two digits. -/
def ungroup : Text → Option Text
  | [] => some []
  | ['_'] => none
  | '_' :: _ => none
  | c :: '_' :: d :: s => if d.isDigit then (ungroup (d :: s)).map (c :: ·) else none
  | [_, '_'] => none
  | c :: s => (ungroup s).map (c :: ·)

/-- The integer that a text denotes: blanks, a sign, digits with single underscores between them, blanks. -/
def readInt (s : Text) : Except Fault Int :=
  let (negative, body) := splitSign ((toAscii s).dropWhile isBlank)
  let isPart (c : Char) : Bool := c.isDigit || c = '_'
  match ungroup (body.takeWhile isPart) with
  | none => .error .invalid
  | some digits =>
    if digitLimit < digits.length then .error (.tooLong digits.length)
    else if digits.isEmpty || !(body.dropWhile isPart).all isBlank then .error .invalid
    else .ok (Binary64.signed negative (value digits))

/-- The digits in front of and behind a point, and the rest; at least one digit is needed. -/
def splitDecimal (s : Text) : Option (Text × Text × Text) :=
  let whole := s.takeWhile Char.isDigit
  let (fraction, rest) : Text × Text := match s.dropWhile Char.isDigit with
    | '.' :: rest => (rest.takeWhile Char.isDigit, rest.dropWhile Char.isDigit)
    | rest => ([], rest)
  if whole.isEmpty && fraction.isEmpty then none else some (whole, fraction, rest)

/-- The exponent that a text consists of; an empty text is the exponent zero. -/
def readExponent : Text → Option Int
  | [] => some 0
  | mark :: s =>
    let (negative, digits) := splitSign s
    if (mark = 'e' || mark = 'E') && !digits.isEmpty && digits.all Char.isDigit then
      some (Binary64.signed negative (value digits))
    else none

/-- The number nearest to `digits * 10 ^ exponent`; far outside the range no power is computed. -/
def nearest (negative : Bool) (digits : Nat) (size : Nat) (exponent : Int) : Binary64 :=
  if digits = 0 then .zero negative
  else if exponent + size < -400 then .zero negative
  else if 400 < exponent then .infinite negative
  else .ofDecimal negative digits exponent

/-- A number without sign, blanks and underscores. -/
def readMagnitude (negative : Bool) (s : Text) : Option Binary64 :=
  let name := Text.lowerAscii s
  if name = "inf".toList ∨ name = "infinity".toList then some (.infinite negative)
  else if name = "nan".toList then some .nan
  else do
    let (whole, fraction, rest) ← splitDecimal s
    let exponent ← readExponent rest
    let digits := whole ++ fraction
    return nearest negative (value digits) digits.length (exponent - fraction.length)

/-- Removes underscores, each of which has to stand between two digits. -/
def dropUnderscores (previous : Char) : Text → Option Text
  | [] => if previous = '_' then none else some []
  | c :: s =>
    if c = '_' then if previous.isDigit then dropUnderscores c s else none
    else if previous = '_' ∧ !c.isDigit then none
    else (dropUnderscores c s).map (c :: ·)

def readFloat (s : Text) : Option Binary64 := do
  let body ← dropUnderscores ' ' (Text.trim isBlank (toAscii s))
  let (negative, magnitude) := splitSign body
  readMagnitude negative magnitude

/-- The digits of an integer, if they are not too many. -/
def ofInt? (n : Int) : Option Text :=
  if n.natAbs < Nat.pow 10 digitLimit then some (Text.ofInt n) else none

end Numeral

end ParseKit
