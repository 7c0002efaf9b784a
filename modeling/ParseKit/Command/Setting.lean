import ParseKit.Command.Line
import ParseKit.Command.Config
import ParseKit.Value.Conversion

/-!
The settings of a command. Each parameter takes its value from the command line, else from the defaults,
else from its own default.
-/

namespace ParseKit

namespace Command

inductive Setting where
  | text (s : Text)
  | texts (items : List Text)
  | integer (n : Int)
  | switch (on : Bool)
  deriving DecidableEq

inductive Complaint where
  | unsuitable (message : Text)
  | fault (fault : Fault)

def switchWords : List (String × Bool) :=
  [("", false), ("0", false), ("1", true), ("f", false), ("false", false), ("n", false),
    ("no", false), ("off", false), ("on", true), ("t", true), ("true", true), ("y", true),
    ("yes", true)]

def toSwitch : Toml.Datum → Except Complaint Setting
  | .boolean on => .ok (.switch on)
  | .text s =>
    let word := Text.lowerAscii (Text.trim (fun c => Blank.holds c.toNat) s)
    match switchWords.lookup (String.ofList word) with
    | some on => .ok (.switch on)
    | none =>
      let listed := Text.join ", ".toList (switchWords.map fun word => word.1.toList)
      .error (.unsuitable (Quoted.text s ++ " is not a valid boolean. Recognized values: ".toList
        ++ listed))
  | _ => .error (.fault .missingAttribute)

/-- The value that a datum stands for where numbers are computed. -/
def number? : Toml.Datum → Option Value
  | .text s => some (.text s)
  | .integer n => some (.int n)
  | .float x => some (.float x)
  | .boolean b => some (.bool b)
  | _ => none

def toInteger (datum : Toml.Datum) : Except Complaint Setting :=
  match number? datum with
  | none => .error (.fault .typeMismatch)
  | some value =>
    match value.toInteger with
    | .ok n => .ok (.integer n)
    | .error .infinityToInteger => .error (.fault .infinityToInteger)
    | .error _ => .error (.unsuitable (datum.written ++ " is not a valid integer.".toList))

def toChoice (names : List Text) (datum : Toml.Datum) : Except Complaint Setting :=
  if datum.shown ∈ names then .ok (.text datum.shown)
  else
    let listed := Text.join ", ".toList (names.map Quoted.text)
    .error (.unsuitable (datum.written ++ " is not one of ".toList ++ listed ++ ['.']))

/-- A path where no folder stands, in its plain spelling. -/
def toFile (s : Storage) : Toml.Datum → Except Complaint Setting
  | .text path =>
    if path.contains '\x00' then .error (.fault (Storage.faultOf path .unnameable))
    else if s.isFolder path then
      .error (.unsuitable ("File ".toList ++ Quoted.text path ++ " is a directory.".toList))
    else .ok (.text (Path.plain path))
  | _ => .error (.fault .typeMismatch)

/-- A path where no file stands. A number could mean an open file, and is passed on. -/
def toFolder (s : Storage) : Toml.Datum → Except Complaint Setting
  | .text path =>
    if path.contains '\x00' then .error (.fault (Storage.faultOf path .unnameable))
    else if s.isFile path then
      .error (.unsuitable ("Directory ".toList ++ Quoted.text path ++ " is a file.".toList))
    else .ok (.text path)
  | .integer n => .ok (.integer n)
  | .boolean on => .ok (.switch on)
  | _ => .error (.fault .typeMismatch)

def Kind.convert (s : Storage) (datum : Toml.Datum) : Kind → Except Complaint Setting
  | .text => .ok (.text datum.shown)
  | .integer => toInteger datum
  | .choice names => toChoice names datum
  | .file => toFile s datum
  | .folder => toFolder s datum
  | .switch => toSwitch datum

/-- The setting of several texts: the items of an array, or the keys of a table. -/
def toTexts : Toml.Datum → Except Complaint Setting
  | .array items => .ok (.texts (items.map Toml.Datum.shown))
  | .table entries => .ok (.texts (entries.map Prod.fst))
  | _ => .error (.unsuitable "Value must be an iterable.".toList)

def Parameter.convert (p : Parameter) (s : Storage) (datum : Toml.Datum) : Except Complaint Setting :=
  match p.shape with
  | .arguments => toTexts datum
  | _ => p.kind.convert s datum

/-- The default behind a key. Where the defaults are no table, nothing can be looked up. -/
def default? (defaults : Option Toml.Datum) (name : Text) : Except Fault (Option Toml.Datum) :=
  match defaults with
  | none => .ok none
  | some (.table table) => .ok (Keyed.get? table name)
  | some _ => .error .missingAttribute

structure Settings where
  /-- the defaults, which a parameter may have added to -/
  defaults : Option Toml.Datum
  values : Keyed Setting

namespace Settings

def get? (settings : Settings) (name : Text) : Option Setting := settings.values.get? name

def text? (settings : Settings) (name : Text) : Option Text :=
  match settings.get? name with
  | some (.text s) => some s
  | _ => none

def texts (settings : Settings) (name : Text) : List Text :=
  match settings.get? name with
  | some (.texts items) => items
  | _ => []

def isOn (settings : Settings) (name : Text) : Bool := settings.get? name = some (.switch true)

def table? (settings : Settings) : Option Toml.Table :=
  match settings.defaults with
  | some (.table table) => some table
  | _ => none

def table (settings : Settings) : Toml.Table := settings.table?.getD []

end Settings

def Setting.isEmpty : Setting → Bool
  | .texts [] => true
  | _ => false

def Parameter.isRequired (p : Parameter) : Bool := p.shape = .argument ∨ p.shape = .arguments

def Complaint.ending (spec : Spec) (p : Parameter) : Complaint → Ending
  | .unsuitable message => .badValue spec p.label message
  | .fault f => .failed f

/-- The setting of a parameter: from the command line, else from the defaults, else its own default. -/
def Parameter.setting? (spec : Spec) (p : Parameter) (s : Storage) (given : Option Toml.Datum)
    (defaults : Option Toml.Datum) : Except Ending (Option Setting) := do
  let datum ← match given with
    | some datum => .ok (some datum)
    | none =>
      match default? defaults p.name with
      | .error fault => .error (.failed fault)
      | .ok (some datum) => .ok (some datum)
      | .ok none => .ok p.default
  let setting ← match datum with
    | none => .ok none
    | some datum => ((p.convert s datum).mapError (Complaint.ending spec p)).map some
  if p.isRequired ∧ setting.all Setting.isEmpty then
    .error (.misused (some spec) ("Missing argument '".toList ++ p.label ++ "'.".toList))
  else return setting

/-- Does what a parameter does as soon as it is read. -/
def Parameter.act (spec : Spec) (p : Parameter) (s : Storage) (settings : Settings) :
    Action → Setting → List LogRecord × Except Ending Settings
  | .loadTable name decode, .text path =>
    let loading := Config.load decode s name path settings.table?
    (loading.records, match loading.refusal with
      | none => .ok { settings with defaults := loading.defaults.map .table }
      | some (.fault fault) => .error (.failed fault)
      | some refusal => .error (.badValue spec p.label (refusal.message?.getD [])))
  | .show text, .switch true => ([], .error (.answered text))
  | _, _ => ([], .ok settings)

def Parameter.read (spec : Spec) (p : Parameter) (s : Storage) (given : Option Toml.Datum)
    (settings : Settings) : List LogRecord × Except Ending Settings :=
  match p.setting? spec s given settings.defaults with
  | .error ending => ([], .error ending)
  | .ok none => ([], .ok settings)
  | .ok (some setting) =>
    match p.action with
    | some action => p.act spec s settings action setting
    | none => ([], .ok { settings with values := settings.values ++ [(p.name, setting)] })

/-- Reads parameters in order, up to the first that ends the command. -/
def readParameters (spec : Spec) (s : Storage) (given : Text → Option Toml.Datum) :
    List Parameter → Settings → List LogRecord × Except Ending Settings
  | [], settings => ([], .ok settings)
  | p :: ps, settings =>
    match p.read spec s (given p.name) settings with
    | (records, .error ending) => (records, .error ending)
    | (records, .ok settings) =>
      let (more, result) := readParameters spec s given ps settings
      (records ++ more, result)

/-- The order in which parameters are read: those that act first, and among each other those that are
given first, in the order in which they are. -/
def Spec.readingOrder (spec : Spec) (given : List Text) : List Parameter :=
  let named := given.eraseDups.filterMap fun name => spec.parameters.find? (·.name = name)
  let others := spec.parameters.filter fun p => p.name ∉ given
  let all := named ++ others
  all.filter (·.action.isSome) ++ all.filter (·.action.isNone)

def Spec.settings (spec : Spec) (s : Storage) (line : Line) (defaults : Option Toml.Datum) :
    List LogRecord × Except Ending (Settings × List Text) :=
  let (placed, rest) := placeWords spec.parameters line.words
  let given (name : Text) : Option Toml.Datum :=
    match placed.lookup name with
    | some datum => datum
    | none => line.last? name
  let order := spec.readingOrder (line.given.map Prod.fst ++ placed.map Prod.fst)
  let (records, result) := readParameters spec s given order ⟨defaults, []⟩
  (records, result.map fun settings => (settings, rest))

/-- The settings of a command that takes no more words than its arguments. -/
def Spec.settingsOnly (spec : Spec) (s : Storage) (words : List Text) (defaults : Option Toml.Datum) :
    List LogRecord × Except Ending Settings :=
  match spec.read words with
  | .error ending => ([], .error ending)
  | .ok line =>
    match spec.settings s line defaults with
    | (records, .error ending) => (records, .error ending)
    | (records, .ok (settings, [])) => (records, .ok settings)
    | (records, .ok (_, [word])) =>
      (records, .error (.misused (some spec)
        ("Got unexpected extra argument (".toList ++ word ++ [')'])))
    | (records, .ok (_, words)) =>
      (records, .error (.misused (some spec)
        ("Got unexpected extra arguments (".toList ++ Text.join [' '] words ++ [')'])))

end Command

end ParseKit
