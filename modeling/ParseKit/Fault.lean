import ParseKit.Text.Utf8
import ParseKit.Value.Basic

/-!
Why something cannot be done. A parser that does not match is no fault: it gives a failure.
-/

namespace ParseKit

inductive Raised where
  | badValue
  | missingKey
  | zeroDivision
  deriving DecidableEq

inductive Fault where
  /-- an argument of the wrong type where types are checked -/
  | typeCheck
  /-- an operation on values that do not have it -/
  | typeMismatch
  /-- a method of a value that does not have it -/
  | missingAttribute
  /-- the input does not parse; the wording is made from what was expected and what was found -/
  | unparsed (expected actual : Value) (wording : Text)
  | refusedPattern (source : Source) (refusal : Pattern.Refusal)
  | flagsOnCompiled
  /-- the text of a value that is no integer -/
  | badInteger (shown : Text)
  | badFloat (shown : Text)
  | integerTooLong (digits : Nat)
  | integerTextTooLong
  | nanToInteger
  | infinityToInteger
  | divisionByZero
  | floatDivisionByZero
  | integerTooLargeForFloat
  | quotientTooLarge
  | outOfRange (kind : String)
  /-- a key that a table lacks, by its text -/
  | missingKey (shown : Text)
  | raised (kind : Raised) (text : Text)
  | unknownLevel (shown : Text)
  | undecodable (fault : Utf8.Fault)
  | noSuchFile (path : Text)
  | isDirectory (path : Text)
  | notADirectory (path : Text)
  | fileExists (path : Text)
  | accessDenied (path : Text)
  | nameTooLong (path : Text)
  | tooDeep

namespace Fault

def aboutFile (number : String) (name : String) (path : Text) : Text :=
  "[Errno ".toList ++ number.toList ++ "] ".toList ++ name.toList ++ ": ".toList ++ Quoted.text path

/-- The wording of a fault; the faults about types have none of their own. -/
def message? : Fault → Option Text
  | .typeCheck | .typeMismatch | .missingAttribute => none
  | .unparsed _ _ wording => some wording
  | .refusedPattern source refusal => some (refusal.message source.isText source.characters)
  | .flagsOnCompiled => some "cannot process flags argument with a compiled pattern".toList
  | .badInteger shown => some ("invalid literal for int() with base 10: ".toList ++ shown)
  | .badFloat shown => some ("could not convert string to float: ".toList ++ shown)
  | .integerTooLong digits => some <|
    "Exceeds the limit (4300 digits) for integer string conversion: value has ".toList
      ++ Text.ofNat digits
      ++ " digits; use sys.set_int_max_str_digits() to increase the limit".toList
  | .integerTextTooLong => some <|
    ("Exceeds the limit (4300 digits) for integer string conversion; " ++
      "use sys.set_int_max_str_digits() to increase the limit").toList
  | .nanToInteger => some "cannot convert float NaN to integer".toList
  | .infinityToInteger => some "cannot convert float infinity to integer".toList
  | .divisionByZero => some "division by zero".toList
  | .floatDivisionByZero => some "float division by zero".toList
  | .integerTooLargeForFloat => some "int too large to convert to float".toList
  | .quotientTooLarge => some "integer division result too large for a float".toList
  | .outOfRange kind => some (kind.toList ++ "index out of range".toList)
  | .missingKey shown => some shown
  | .raised .missingKey text => some (Quoted.text text)
  | .raised _ text => some text
  | .unknownLevel shown => some ("Unknown level: ".toList ++ shown)
  | .undecodable fault => some fault.message
  | .noSuchFile path => some (aboutFile "2" "No such file or directory" path)
  | .isDirectory path => some (aboutFile "21" "Is a directory" path)
  | .notADirectory path => some (aboutFile "20" "Not a directory" path)
  | .fileExists path => some (aboutFile "17" "File exists" path)
  | .accessDenied path => some (aboutFile "13" "Permission denied" path)
  | .nameTooLong path => some (aboutFile "36" "File name too long" path)
  | .tooDeep => some "maximum recursion depth exceeded".toList

end Fault

end ParseKit
