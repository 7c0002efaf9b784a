import ParseKit.Toml.Basic

/-!
Numbers and moments at the start of a text. Each reader gives what it read and the rest.
-/

namespace ParseKit

namespace Toml

inductive Flaw where
  /-- the text is no document -/
  | malformed
  | integerTooLong (digits : Nat)
  deriving DecidableEq

def isHexDigit (c : Char) : Bool := c.isDigit || ('a' ≤ c && c ≤ 'f') || ('A' ≤ c && c ≤ 'F')

def digitValue (c : Char) : Nat :=
  if c.isDigit then c.toNat - 48 else if c.isLower then c.toNat - 87 else c.toNat - 55

def valueIn (base : Nat) (digits : Text) : Nat := digits.foldl (fun n c => n * base + digitValue c) 0

/-- The digits that follow a digit, without the single underscores between them. -/
def moreDigits (isDigit : Char → Bool) : Text → Text × Text
  | [] => ([], [])
  | ['_'] => ([], ['_'])
  | '_' :: c :: s =>
    if isDigit c then
      let (digits, rest) := moreDigits isDigit s
      (c :: digits, rest)
    else ([], '_' :: c :: s)
  | c :: s =>
    if isDigit c then
      let (digits, rest) := moreDigits isDigit s
      (c :: digits, rest)
    else ([], c :: s)

def digits? (isDigit : Char → Bool) : Text → Option (Text × Text)
  | [] => none
  | c :: s =>
    if isDigit c then
      let (digits, rest) := moreDigits isDigit s
      some (c :: digits, rest)
    else none

def basedInteger? (mark : Char) (s : Text) : Option (Int × Text) :=
  let inBase (base : Nat) (isDigit : Char → Bool) : Option (Int × Text) :=
    (digits? isDigit s).map fun (digits, rest) => (valueIn base digits, rest)
  match mark with
  | 'x' => inBase 16 isHexDigit
  | 'o' => inBase 8 fun c => '0' ≤ c && c ≤ '7'
  | 'b' => inBase 2 fun c => c = '0' || c = '1'
  | _ => none

/-- The digits in front of a point; a zero at the start stands alone. -/
def whole? : Text → Option (Text × Text)
  | '0' :: s => some (['0'], s)
  | s => digits? Char.isDigit s

def fraction : Text → Text × Text
  | '.' :: s =>
    match digits? Char.isDigit s with
    | some (digits, rest) => ('.' :: digits, rest)
    | none => ([], '.' :: s)
  | s => ([], s)

def exponent : Text → Text × Text
  | [] => ([], [])
  | mark :: s =>
    if mark = 'e' ∨ mark = 'E' then
      let (sign, body) : Text × Text := match s with
        | '+' :: body => ([], body)
        | '-' :: body => (['-'], body)
        | body => ([], body)
      match digits? Char.isDigit body with
      | some (digits, rest) => ('e' :: sign ++ digits, rest)
      | none => ([], mark :: s)
    else ([], mark :: s)

/-- An integer or a number with a fraction or an exponent, in decimal digits. -/
def decimal? (s : Text) : Option (Except Flaw (Datum × Text)) := do
  let (negative, body) := Numeral.splitSign s
  let (whole, rest) ← whole? body
  let (fraction, rest) := fraction rest
  let (exponent, rest) := exponent rest
  if fraction = [] ∧ exponent = [] then
    if Numeral.digitLimit < whole.length then return .error (.integerTooLong whole.length)
    return .ok (.integer (Binary64.signed negative (Numeral.value whole)), rest)
  else
    let number ← Numeral.readMagnitude negative (whole ++ fraction ++ exponent)
    return .ok (.float number, rest)

def named? (s : Text) : Option (Datum × Text) :=
  let (negative, body) := Numeral.splitSign s
  match body with
  | 'i' :: 'n' :: 'f' :: rest => some (.float (.infinite negative), rest)
  | 'n' :: 'a' :: 'n' :: rest => some (.float .nan, rest)
  | _ => none

def number? (s : Text) : Option (Except Flaw (Datum × Text)) :=
  let based : Option (Int × Text) := match s with
    | '0' :: mark :: body => basedInteger? mark body
    | _ => none
  match based with
  | some (n, rest) => some (.ok (.integer n, rest))
  | none =>
    match decimal? s with
    | some result => some result
    | none => (named? s).map .ok

def pair? (low high : Nat) : Text → Option (Nat × Text)
  | a :: b :: rest =>
    let n := Numeral.value [a, b]
    if a.isDigit ∧ b.isDigit ∧ low ≤ n ∧ n ≤ high then some (n, rest) else none
  | _ => none

/-- A mark and a number of two digits within bounds. -/
def markedPair? (mark : Char) (low high : Nat) : Text → Option (Nat × Text)
  | c :: s => if c = mark then pair? low high s else none
  | [] => none

/-- A day; whether it is in the calendar is not asked. -/
def day? : Text → Option (Date × Text)
  | a :: b :: c :: d :: s => do
    if !([a, b, c, d].all Char.isDigit) then none
    let (month, s) ← markedPair? '-' 1 12 s
    let (day, s) ← markedPair? '-' 1 31 s
    return (⟨Numeral.value [a, b, c, d], month, day⟩, s)
  | _ => none

/-- The microseconds behind a point, of which no more than six digits count, or nothing. -/
def microseconds : Text → Nat × Text
  | '.' :: s =>
    let digits := s.takeWhile Char.isDigit
    let counted := digits.take 6
    if digits = [] then (0, '.' :: s)
    else (Numeral.value (counted ++ List.replicate (6 - counted.length) '0'), s.dropWhile Char.isDigit)
  | s => (0, s)

def time? (s : Text) : Option (Time × Text) := do
  let (hour, s) ← pair? 0 23 s
  let (minute, s) ← markedPair? ':' 0 59 s
  match markedPair? ':' 0 59 s with
  | none => return (⟨hour, minute, 0, 0⟩, s)
  | some (second, s) =>
    let (microsecond, s) := microseconds s
    return (⟨hour, minute, second, microsecond⟩, s)

/-- How far a time is ahead of universal time, in minutes, if that is told. -/
def offset : Text → Option Int × Text
  | [] => (none, [])
  | c :: s =>
    let apart : Option (Nat × Text) := do
      let (hour, rest) ← pair? 0 23 s
      let (minute, rest) ← markedPair? ':' 0 59 rest
      return (hour * 60 + minute, rest)
    match c, apart with
    | 'Z', _ | 'z', _ => (some 0, s)
    | '+', some (minutes, rest) => (some minutes, rest)
    | '-', some (minutes, rest) => (some (-(minutes : Int)), rest)
    | _, _ => (none, c :: s)

/-- A time of day behind a day, and what separates them. -/
def timeBehind? : Text → Option (Time × Text)
  | c :: s => if c = 'T' ∨ c = 't' ∨ c = ' ' then time? s else none
  | [] => none

def moment? (s : Text) : Option (Except Flaw (Datum × Text)) :=
  match day? s with
  | some (day, rest) =>
    let (moment, rest) : Moment × Text := match timeBehind? rest with
      | some (time, rest) =>
        let (ahead, rest) := offset rest
        (.both day time ahead, rest)
      | none => (.date day, rest)
    some (if day.isValid then .ok (.moment moment, rest) else .error .malformed)
  | none => (time? s).map fun (time, rest) => .ok (.moment (.time time), rest)

end Toml

end ParseKit
