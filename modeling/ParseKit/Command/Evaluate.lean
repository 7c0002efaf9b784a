import ParseKit.Arithmetic
import ParseKit.Command.Pages
import ParseKit.Command.Setting
import ParseKit.Logging.Basic

/-!
The command that evaluates expressions, one after the other, up to the first that has no result.
-/

namespace ParseKit

namespace Command

def commandLogger : Text := "pcomb".toList

def recordsOf (events : List Event) : List LogRecord :=
  events.filterMap fun
    | .record r => some r
    | _ => none

namespace Evaluate

def spec : Spec where
  path := "pcomb eval".toList
  usage := "[OPTIONS] EXPRESSIONS...".toList
  mixed := true
  parameters :=
    [{ name := "grammar".toList
       label := "--grammar".toList
       shape := .option
       kind := .choice (Arithmetic.grammars.map fun grammar => grammar.1.toList)
       default := some (.text "chain".toList) },
      { name := "expressions".toList
        label := "EXPRESSIONS...".toList
        shape := .arguments
        kind := .text },
      { name := "help".toList
        label := "--help".toList
        shape := .switch
        kind := .switch
        default := some (.boolean false)
        action := some (.show evaluatePage) }]

def unparsedRecord (grammar expression : Text) : LogRecord where
  logger := commandLogger
  level := .info
  message := "Could not parse ".toList ++ Quoted.text expression ++ " with grammar '".toList ++ grammar
    ++ ['\'']

/-- The text of the result of an expression, and what is logged on the way. -/
def result (grammar expression : Text) : List LogRecord × Except Ending Text :=
  let r := Arithmetic.evaluate expression grammar
  let records := recordsOf r.events
  match r.result with
  | .ok value => (records, (Value.formatNumber value).mapError .failed)
  | .error (.unparsed _ _ wording) =>
    (records ++ [unparsedRecord grammar expression], .error (.refused wording))
  | .error .divisionByZero | .error .floatDivisionByZero =>
    (records, .error (.refused ("Division by zero in ".toList ++ Quoted.text expression)))
  | .error fault => (records, .error (.failed fault))

/-- Prints the results of expressions in order, up to the first that has none. -/
def printResults (grammar : Text) : List Text → Logging → Logging × Except Ending Unit
  | [], l => (l, .ok ())
  | expression :: expressions, l =>
    let (records, text) := result grammar expression
    let l := l.logAll records
    match text with
    | .ok text =>
      printResults grammar expressions { l with output := l.output.print (text ++ ['\n']) }
    | .error ending => (l, .error ending)

def run (settings : Settings) (l : Logging) : Logging × Except Ending Unit :=
  printResults ((settings.text? "grammar".toList).getD []) (settings.texts "expressions".toList) l

end Evaluate

end Command

end ParseKit
