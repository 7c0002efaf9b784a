import ParseKit.Command.Basic

/-!
Command lines taken apart: which options are given with what, and what is left for the arguments.
-/

namespace ParseKit

namespace Command

/-- What a command line gives: the values of parameters by their names, in the order in which they were
given, and the words that are left. -/
structure Line where
  given : List (Text × Toml.Datum)
  words : List Text

namespace Line

def give (line : Line) (p : Parameter) (datum : Toml.Datum) : Line :=
  { line with given := line.given ++ [(p.name, datum)] }

def last? (line : Line) (name : Text) : Option Toml.Datum := line.given.reverse.lookup name

end Line

def unknownOption (spec : Spec) (label : Text) : Ending :=
  .misused (some spec) ("No such option '".toList ++ label ++ "'.".toList)

def Spec.labelled? (spec : Spec) (label : Text) : Option Parameter :=
  spec.parameters.find? fun p => (p.shape = .option ∨ p.shape = .switch) ∧ p.label = label

/-- A word with a hyphen. It may hold the value behind an equals sign; an option that is to take the next
word as its value is handed back. -/
def readOption (spec : Spec) (word : Text) (line : Line) : Except Ending (Line × Option Parameter) :=
  let (label, value) : Text × Option Text := match Text.splitFirst '=' word with
    | some (label, value) => (label, some value)
    | none => (word, none)
  match spec.labelled? label with
  | none =>
    if word.take 2 = ['-', '-'] then .error (unknownOption spec label)
    else .error (unknownOption spec (word.take 2))
  | some p =>
    match p.shape, value with
    | .option, some value => .ok (line.give p (.text value), none)
    | .option, none => .ok (line, some p)
    | _, some _ =>
      .error (.misused none ("Option '".toList ++ label ++ "' does not take a value.".toList))
    | _, none => .ok (line.give p (.boolean true), none)

/-- Reads words, of which the first one may be the value of an option. -/
def readWords (spec : Spec) : Option Parameter → List Text → Line → Except Ending Line
  | none, [], line => .ok line
  | some p, [], _ =>
    .error (.misused none ("Option '".toList ++ p.label ++ "' requires an argument.".toList))
  | some p, word :: words, line => readWords spec none words (line.give p (.text word))
  | none, word :: words, line =>
    if word = ['-', '-'] then .ok { line with words := line.words ++ words }
    else if word.head? = some '-' ∧ 1 < word.length then do
      let (line, waiting) ← readOption spec word line
      readWords spec waiting words line
    else if spec.mixed then readWords spec none words { line with words := line.words ++ [word] }
    else .ok { line with words := line.words ++ word :: words }

/-- Hands the words that are left to the arguments. One that gets no word counts as given all the same,
though without a value. -/
def placeWords : List Parameter → List Text → List (Text × Option Toml.Datum) × List Text
  | [], words => ([], words)
  | p :: ps, words =>
    match p.shape, words with
    | .argument, [] =>
      let (placed, rest) := placeWords ps []
      ((p.name, none) :: placed, rest)
    | .argument, word :: words =>
      let (placed, rest) := placeWords ps words
      ((p.name, some (.text word)) :: placed, rest)
    | .arguments, words =>
      let (placed, rest) := placeWords ps []
      let datum := if words.isEmpty then none else some (.array (words.map .text))
      ((p.name, datum) :: placed, rest)
    | _, words => placeWords ps words

def Spec.read (spec : Spec) (words : List Text) : Except Ending Line :=
  readWords spec none words ⟨[], []⟩

end Command

end ParseKit
