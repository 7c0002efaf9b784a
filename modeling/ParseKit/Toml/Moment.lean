import ParseKit.Text.Basic

/-!
Dates and times of day, and their texts.
-/

namespace ParseKit

namespace Toml

structure Date where
  year : Nat
  month : Nat
  day : Nat
  deriving DecidableEq

structure Time where
  hour : Nat
  minute : Nat
  second : Nat
  microsecond : Nat
  deriving DecidableEq

/-- A date, a time of day, or both, which may tell how many minutes they are ahead of universal time. -/
inductive Moment where
  | date (day : Date)
  | time (clock : Time)
  | both (day : Date) (clock : Time) (offset : Option Int)
  deriving DecidableEq

namespace Date

/-- Every fourth year has one more day, of the full centuries only every fourth. -/
def isLeap (year : Nat) : Bool := year % 4 = 0 ∧ (year % 100 ≠ 0 ∨ year % 400 = 0)

def daysOf (year month : Nat) : Nat :=
  if month = 2 then if isLeap year then 29 else 28
  else if month = 4 ∨ month = 6 ∨ month = 9 ∨ month = 11 then 30
  else 31

def isValid (date : Date) : Bool :=
  1 ≤ date.year ∧ 1 ≤ date.month ∧ date.month ≤ 12 ∧ 1 ≤ date.day
    ∧ date.day ≤ daysOf date.year date.month

end Date

namespace Moment

def padded (width n : Nat) : Text :=
  let digits := Text.ofNat n
  List.replicate (width - digits.length) '0' ++ digits

def dateText (date : Date) : Text :=
  padded 4 date.year ++ '-' :: padded 2 date.month ++ '-' :: padded 2 date.day

def timeText (time : Time) : Text :=
  padded 2 time.hour ++ ':' :: padded 2 time.minute ++ ':' :: padded 2 time.second
    ++ (if time.microsecond = 0 then [] else '.' :: padded 6 time.microsecond)

def offsetText (offset : Int) : Text :=
  (if offset < 0 then '-' else '+') :: padded 2 (offset.natAbs / 60)
    ++ ':' :: padded 2 (offset.natAbs % 60)

def text : Moment → Text
  | .date day => dateText day
  | .time clock => timeText clock
  | .both day clock offset =>
    dateText day ++ ' ' :: timeText clock ++ (match offset with
      | some offset => offsetText offset
      | none => [])

def constructed (name : String) (arguments : List Text) : Text :=
  "datetime.".toList ++ name.toList ++ '(' :: Text.join ", ".toList arguments ++ [')']

/-- The numbers of a time of day, without the last ones that are zero; hour and minute are always told. -/
def timeNumbers (time : Time) : List Nat :=
  if time.microsecond ≠ 0 then [time.hour, time.minute, time.second, time.microsecond]
  else if time.second ≠ 0 then [time.hour, time.minute, time.second]
  else [time.hour, time.minute]

def dateNumbers (date : Date) : List Nat := [date.year, date.month, date.day]

/-- A difference from universal time: whole days, rounded down, and the seconds of the last one. -/
def zoneWritten (offset : Int) : Text :=
  if offset = 0 then "datetime.timezone.utc".toList
  else
    let days : List Text := if offset < 0 then ["days=-1".toList] else []
    let seconds := "seconds=".toList ++ Text.ofInt ((offset % 1440) * 60)
    constructed "timezone" [constructed "timedelta" (days ++ [seconds])]

def written : Moment → Text
  | .date day => constructed "date" ((dateNumbers day).map Text.ofNat)
  | .time clock => constructed "time" ((timeNumbers clock).map Text.ofNat)
  | .both day clock offset =>
    let zone : List Text := match offset with
      | some offset => ["tzinfo=".toList ++ zoneWritten offset]
      | none => []
    constructed "datetime" ((dateNumbers day ++ timeNumbers clock).map Text.ofNat ++ zone)

end Moment

end Toml

end ParseKit
