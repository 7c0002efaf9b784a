import ParseKit.Command.Match
import ParseKit.Version

/-!
The toolkit on the command line: its own parameters set up logging, then one of its commands runs.
-/

namespace ParseKit

namespace Command

namespace Toolkit

def levelNames : List Text :=
  ["DEBUG".toList, "INFO".toList, "WARNING".toList, "ERROR".toList, "CRITICAL".toList]

def configParameter (table standardPath : Text) : Parameter where
  name := "config".toList
  label := "--config".toList
  shape := .option
  kind := .file
  default := some (.text standardPath)
  action := some (.loadTable table Toml.decode)

def answerParameter (name text : Text) : Parameter where
  name := name
  label := '-' :: '-' :: name
  shape := .switch
  kind := .switch
  default := some (.boolean false)
  action := some (.show text)

def spec (version : Text) : Spec where
  path := "pcomb".toList
  usage := "[OPTIONS] COMMAND [ARGS]...".toList
  mixed := false
  parameters :=
    [configParameter "pcomb".toList Config.standardPath,
      { name := "log_level".toList
        label := "--log-level".toList
        shape := .option
        kind := .choice levelNames
        default := some (.text "WARNING".toList) },
      { name := "log_folder".toList
        label := "--log-folder".toList
        shape := .option
        kind := .folder },
      { name := "stdout".toList
        label := "--stdout".toList
        shape := .switch
        kind := .switch
        default := some (.boolean false) },
      answerParameter "version".toList ("pcomb, version ".toList ++ version ++ ['\n']),
      answerParameter "help".toList (toolkitPage version)]

structure Work where
  spec : Spec
  run : Settings → Logging → Logging × Except Ending Unit

def commands : List (String × Work) :=
  [("eval", ⟨Evaluate.spec, Evaluate.run⟩), ("match", ⟨Match.spec, Match.run CharacterName.ascii⟩)]

def setup (settings : Settings) : Except Ending Logging.Setup :=
  let level := ((settings.text? "log_level".toList).bind Level.ofName?).getD .warning
  let base : Logging.Setup :=
    { logger := commandLogger, level := .int level, toOut := settings.isOn "stdout".toList }
  match settings.get? "log_folder".toList with
  | none => .ok base
  | some (.text folder) => .ok { base with folder := some folder }
  | some _ => .error (.failed .typeCheck)

/-- Runs a command on the words behind its name, with the defaults that the toolkit has for it. -/
def work (work : Work) (words : List Text) (defaults : Option Toml.Datum) (l : Logging) :
    Logging × Except Ending Unit :=
  let (records, result) := work.spec.settingsOnly l.output.storage words defaults
  let l := l.logAll records
  match result with
  | .error ending => (l, .error ending)
  | .ok settings => work.run settings l

/-- Finds the command and sets up logging before its words are read. -/
def dispatch (version : Text) (settings : Settings) (words : List Text) (l : Logging) :
    Logging × Except Ending Unit :=
  match words with
  | [] => (l, .error (.misused (some (spec version)) "Missing command.".toList))
  | name :: words =>
    match commands.lookup (String.ofList name) with
    | none =>
      if name.head?.any fun c => !(Alphanumeric.holds c.toNat) then
        (l, .error (.unused (toolkitPage version)))
      else
        (l, .error (.misused (some (spec version))
          ("No such command ".toList ++ Quoted.text name ++ ['.'])))
    | some found =>
      match setup settings with
      | .error ending => (l, .error ending)
      | .ok setup =>
        match l.configure setup with
        | (l, .error fault) => (l, .error (.failed fault))
        | (l, .ok _) => work found words (settings.table.get? name) l

theorem work_of_settings {command : Work} {words : List Text} {defaults : Option Toml.Datum} {l : Logging}
    {records : List LogRecord} {settings : Settings}
    (reads : command.spec.settingsOnly l.output.storage words defaults = (records, .ok settings)) :
    work command words defaults l = command.run settings (l.logAll records) := by
  simp only [work, reads]

theorem dispatch_of_setup {settings : Settings} {name : Text} {command : Work} {made : Logging.Setup} {l l' : Logging}
    {handler : Handler} (known : commands.lookup (String.ofList name) = some command) (setUp : setup settings = .ok made)
    (configured : l.configure made = (l', .ok handler)) (version : Text) (words : List Text) :
    dispatch version settings (name :: words) l = work command words (settings.table.get? name) l' := by
  simp only [dispatch, known, setUp, configured]

def run (version : Text) (words : List Text) (l : Logging) : Logging × Except Ending Unit :=
  if words = [] then (l, .error (.unused (toolkitPage version)))
  else
    match (spec version).read words with
    | .error ending => (l, .error ending)
    | .ok line =>
      let (records, result) := (spec version).settings l.output.storage line none
      let l := l.logAll records
      match result with
      | .error ending => (l, .error ending)
      | .ok (settings, words) => dispatch version settings words l

/-- The paths that a command line may speak of: words, and what stands behind an equals sign. -/
def mentionedPaths (words : List Text) : List Text :=
  Config.standardPath :: words ++ words.filterMap fun word => (Text.splitFirst '=' word).map Prod.snd

def logPaths (version : Text) (words : List Text) (s : Storage) : List Text :=
  match (spec version).read words with
  | .error _ => []
  | .ok line =>
    match ((spec version).settings s line none).2 with
    | .error _ => []
    | .ok (settings, _) => ((setup settings).toOption.map Logging.Setup.paths).getD []

end Toolkit

structure Answer where
  status : Nat
  output : Output
  /-- a fault that was not handled -/
  fault : Option Fault

def Answer.ofRun : Logging × Except Ending Unit → Answer
  | (l, .ok ()) => ⟨0, l.output, none⟩
  | (l, .error ending) => ⟨ending.status, ending.tell l.output, ending.fault?⟩

def Toolkit.answer (version time : Text) (words : List Text) (s : Storage) : Answer :=
  .ofRun (Toolkit.run version words (.start s time))

end Command

end ParseKit
