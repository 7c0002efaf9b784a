import ParseKit.Keyed
import ParseKit.Toml.Moment
import ParseKit.Value.Display

/-!
The data of a configuration: what stands behind the keys of its tables.
-/

namespace ParseKit

namespace Toml

inductive Datum where
  | text (s : Text)
  | integer (n : Int)
  | float (x : Binary64)
  | boolean (b : Bool)
  | moment (m : Moment)
  | array (items : List Datum)
  /-- keys with their data, in order of first arrival -/
  | table (entries : List (Text × Datum))

instance : Inhabited Datum := ⟨.table []⟩

abbrev Table := Keyed Datum

namespace Datum

mutual

def written : Datum → Text
  | .text s => Quoted.text s
  | .integer n => Text.ofInt n
  | .float x => Value.floatLayout.render x
  | .boolean b => if b then "True".toList else "False".toList
  | .moment m => m.written
  | .array items => '[' :: (Text.join ", ".toList (writtenItems items) ++ [']'])
  | .table entries => '\x7b' :: (Text.join ", ".toList (writtenEntries entries) ++ ['\x7d'])

def writtenItems : List Datum → List Text
  | [] => []
  | item :: items => written item :: writtenItems items

def writtenEntries : List (Text × Datum) → List Text
  | [] => []
  | (key, datum) :: entries =>
    (Quoted.text key ++ ": ".toList ++ written datum) :: writtenEntries entries

end

/-- A datum as it is shown: texts and moments stand for themselves. -/
def shown : Datum → Text
  | .text s => s
  | .moment m => m.text
  | datum => datum.written

end Datum

end Toml

end ParseKit
