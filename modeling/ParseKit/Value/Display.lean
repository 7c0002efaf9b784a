import ParseKit.Fault
import ParseKit.Number.Layout
import ParseKit.Number.Numeral

/-!
Values as text: written out so that their kind shows, shown to a reader, described as an expectation,
and rendered as an input. Integers with too many digits have no text.
-/

namespace ParseKit

namespace Value

/-- Numbers have the fewest digits that identify them, positionally from 10^-4 to below 10^16, otherwise
with a signed exponent of at least two digits. -/
def floatLayout : Layout where
  plainFrom := -4
  plainBelow := 16
  mark := 'e'
  width := 2
  infinity := "inf".toList
  notANumber := "nan".toList

def writeInt (n : Int) : Except Fault Text :=
  match Numeral.ofInt? n with
  | some digits => .ok digits
  | Option.none => .error .integerTextTooLong

/-- A pattern with its switches; that it knows every script goes without saying. Only the beginning of a
long source is shown. -/
def writePattern (p : Pattern) : Text :=
  let source : Text := match p.source with
    | .text s => Quoted.text s
    | .bytes b => Quoted.bytes b
  let flags := if p.source.isText && !p.flags.ascii then { p.flags with unicode := false } else p.flags
  let listed : Text := match flags.names with
    | [] => []
    | names => ", ".toList ++ Text.join ['|'] (names.map String.toList)
  "re.compile(".toList ++ source.take 200 ++ listed ++ [')']

def operatorName : Operator → String
  | .add => "add"
  | .sub => "sub"
  | .mul => "mul"
  | .truediv => "truediv"

mutual

def write : Value → Except Fault Text
  | .none => .ok "None".toList
  | .bool b => .ok (if b then "True".toList else "False".toList)
  | .int n => writeInt n
  | .float x => .ok (floatLayout.render x)
  | .text s => .ok (Quoted.text s)
  | .bytes b => .ok (Quoted.bytes b)
  | .bytearray b => .ok (Quoted.bytearray b)
  | .list items => do return '[' :: (Text.join ", ".toList (← writeItems items) ++ [']'])
  | .tuple items => do
    match ← writeItems items with
    | [item] => return '(' :: (item ++ [',', ')'])
    | pieces => return '(' :: (Text.join ", ".toList pieces ++ [')'])
  | .dict entries => do return '\x7b' :: (Text.join ", ".toList (← writeEntries entries) ++ ['\x7d'])
  | .pattern p => .ok (writePattern p)
  | .operator f => .ok ("<built-in function ".toList ++ (operatorName f).toList ++ ['>'])

def writeItems : List Value → Except Fault (List Text)
  | [] => .ok []
  | item :: items => do
    let first ← write item
    return first :: (← writeItems items)

def writeEntries : List (Value × Value) → Except Fault (List Text)
  | [] => .ok []
  | (key, value) :: entries => do
    let left ← write key
    let right ← write value
    return (left ++ ": ".toList ++ right) :: (← writeEntries entries)

end

def display : Value → Except Fault Text
  | .text s => .ok s
  | v => write v

def sourceText : Source → Text
  | .text s => s
  | .bytes b => Utf8.decode b

mutual

/-- What is expected, in words: a text stands for itself, a pattern between slashes, and of several
expectations one. -/
def describe : Value → Except Fault Text
  | .text s => .ok s
  | .pattern p => .ok ('/' :: (sourceText p.source ++ ['/']))
  | .list items | .tuple items => do
    return "one of ".toList ++ Text.join ", ".toList (← describeItems items)
  | v => display v

def describeItems : List Value → Except Fault (List Text)
  | [] => .ok []
  | item :: items => do
    let first ← describe item
    return first :: (← describeItems items)

end

def render : Value → Except Fault Text
  | .bytes b => .ok (Utf8.decode b)
  | v => display v

/-- A number as a result: without a fraction if it has none. -/
def formatNumber : Value → Except Fault Text
  | .float x => match x.toInt? with
    | some n => writeInt n
    | Option.none => display (.float x)
  | v => display v

end Value

end ParseKit
