import ParseKit.Command.Evaluate
import ParseKit.Text.Json

/-!
The command that tries out one primitive parser on an input.
-/

namespace ParseKit

namespace Command

namespace Match

def spec : Spec where
  path := "pcomb match".toList
  usage := "[OPTIONS] PATTERN INPUT".toList
  mixed := true
  parameters :=
    [{ name := "use_regex".toList
       label := "--regex".toList
       shape := .switch
       kind := .switch
       default := some (.boolean false) },
      { name := "pattern".toList
        label := "PATTERN".toList
        shape := .argument
        kind := .text },
      { name := "input_".toList
        label := "INPUT".toList
        shape := .argument
        kind := .text },
      { name := "help".toList
        label := "--help".toList
        shape := .switch
        kind := .switch
        default := some (.boolean false)
        action := some (.show matchPage) }]

def parser (characters : CharacterNames) (isPattern : Bool) (pattern : Text) : Except Ending Parser :=
  if isPattern then
    match Parser.compile characters (.text pattern) {} with
    | .ok p => .ok (.matching p)
    | .error (.refusedPattern _ (.malformed flaw position)) =>
      let reason := (Pattern.Refusal.malformed flaw position).message true pattern
      .error (.misused (some spec) ("Invalid value: ".toList ++ Quoted.text pattern
        ++ " is not a valid regular expression: ".toList ++ reason))
    | .error fault => .error (.failed fault)
  else (Parser.literal (.text pattern)).mapError .failed

/-- A text value; others do not occur where texts are parsed. -/
def textOf : Value → Text
  | .text s => s
  | _ => []

def objectLine (parsed : Parsed) : Text :=
  "\x7b\"data\": ".toList ++ Json.quote (textOf parsed.data) ++ ", \"rest\": ".toList
    ++ Json.quote (textOf parsed.rest) ++ ['\x7d', '\n']

/-- The line about an input, and what is logged on the way. -/
def result (p : Parser) (input : Text) : List LogRecord × Except Ending Text :=
  let r := p.parse (.text input)
  let records := recordsOf r.events
  match r.result with
  | .ok parsed => (records, .ok (objectLine parsed))
  | .error (.unparsed _ _ wording) => (records, .error (.refused wording))
  | .error fault => (records, .error (.failed fault))

def run (characters : CharacterNames) (settings : Settings) (l : Logging) : Logging × Except Ending Unit :=
  match parser characters (settings.isOn "use_regex".toList) ((settings.text? "pattern".toList).getD []) with
  | .error ending => (l, .error ending)
  | .ok p =>
    let (records, line) := result p ((settings.text? "input_".toList).getD [])
    let l := l.logAll records
    match line with
    | .ok line => ({ l with output := l.output.print line }, .ok ())
    | .error ending => (l, .error ending)

end Match

end Command

end ParseKit
