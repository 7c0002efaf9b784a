import ParseKit.Logging.Handler
import ParseKit.Toml.Decoder

/-!
Commands: the parameters that they take, and how they end.
-/

namespace ParseKit

namespace Command

inductive Kind where
  | text
  | integer
  | choice (names : List Text)
  /-- a path where no folder stands -/
  | file
  /-- a path where no file stands -/
  | folder
  | switch
  deriving DecidableEq

inductive Shape where
  /-- by its label, with a value behind it -/
  | option
  /-- by its label alone -/
  | switch
  /-- by its place -/
  | argument
  /-- by all places that are left -/
  | arguments
  deriving DecidableEq

/-- What a parameter does as soon as it is read. Such parameters are read before all others. -/
inductive Action where
  /-- reads defaults from a table of a file -/
  | loadTable (name : Text) (decode : Toml.Decoder)
  /-- answers with a text instead of running the command, if it is switched on -/
  | show (text : Text)

structure Parameter where
  /-- its key in tables of defaults -/
  name : Text
  /-- how messages and the command line call it -/
  label : Text
  shape : Shape
  kind : Kind
  /-- what holds if it is given nowhere; there is no command without its arguments -/
  default : Option Toml.Datum := none
  action : Option Action := none

structure Spec where
  /-- the words that call it -/
  path : Text
  /-- what may follow these words -/
  usage : Text
  parameters : List Parameter
  /-- whether options may also stand behind the first argument -/
  mixed : Bool

inductive Ending where
  /-- it answers with a text instead -/
  | answered (text : Text)
  /-- it tells how it is used, since it was given nothing -/
  | unused (help : Text)
  /-- it was called in a wrong way, which a usage may go with -/
  | misused (spec : Option Spec) (message : Text)
  /-- it cannot do its work -/
  | refused (message : Text)
  /-- a fault that it does not handle -/
  | failed (fault : Fault)

namespace Ending

def errorLine (message : Text) : Text := "Error: ".toList ++ message ++ ['\n']

def usageLines (spec : Spec) : Text :=
  "Usage: ".toList ++ spec.path ++ ' ' :: spec.usage ++ "\nTry '".toList ++ spec.path
    ++ " --help' for help.\n\n".toList

def status : Ending → Nat
  | .answered _ => 0
  | .unused _ | .misused .. => 2
  | .refused _ | .failed _ => 1

/-- Writes what an ending says. A fault that is not handled says nothing. -/
def tell (o : Output) : Ending → Output
  | .answered text => o.print text
  | .unused help => o.complain help
  | .misused (some spec) message => o.complain (usageLines spec ++ errorLine message)
  | .misused none message | .refused message => o.complain (errorLine message)
  | .failed _ => o

def fault? : Ending → Option Fault
  | .failed fault => some fault
  | _ => none

def badValue (spec : Spec) (label message : Text) : Ending :=
  .misused (some spec) ("Invalid value for '".toList ++ label ++ "': ".toList ++ message)

end Ending

end Command

end ParseKit
