import ParseKit.Keyed
import ParseKit.Logging.Handler
import ParseKit.Value.Basic

/-!
Loggers and their set-up. The name of a logger is a path with dots: a record goes to the handlers of its
logger, of the loggers above it and of the root, if its level reaches the first level set on that way.
-/

namespace ParseKit

namespace Level

/-- A level is given by its number or by its name. -/
def ofValue : Value → Except Fault Level
  | .int n => .ok n
  | .bool b => .ok (if b then 1 else 0)
  | .text name =>
    match ofName? name with
    | some level => .ok level
    | none => .error (.unknownLevel (Quoted.text name))
  | _ => .error .typeMismatch

end Level

/-- A logger: level 0 leaves the choice to the loggers above. -/
structure Logger where
  level : Level
  handlers : List Handler
  deriving DecidableEq

namespace Logger

def unset : Logger := ⟨0, []⟩

def root : Text := "root".toList

def key (name : Text) : Text := if name = [] then root else name

/-- Some pieces and the longer beginnings of a path, longest first. -/
def beginnings (pieces : List Text) : Nat → List Text
  | 0 => []
  | n + 1 => Text.join ['.'] (pieces.take (n + 1)) :: beginnings pieces n

/-- A logger, those above it from the nearest on, and the root. -/
def ancestry (name : Text) : List Text :=
  let pieces := Text.splitAll '.' name
  let above := (beginnings pieces (pieces.length - 1)).filter (· ≠ [])
  if name = root then [root] else name :: above ++ [root]

end Logger

structure Logging where
  loggers : Keyed Logger
  output : Output

namespace Logging

/-- Only the root has a level, and no logger has a handler. -/
def start (storage : Storage) (time : Text) : Logging :=
  { loggers := [(Logger.root, ⟨.warning, []⟩)], output := { out := [], err := [], storage, time } }

def logger (l : Logging) (name : Text) : Logger := (l.loggers.get? (Logger.key name)).getD .unset

def update (l : Logging) (name : Text) (change : Logger → Logger) : Logging :=
  { l with loggers := l.loggers.insert (Logger.key name) (change (l.logger name)) }

theorem logger_update (l : Logging) (name other : Text) (change : Logger → Logger) :
    (l.update name change).logger other =
      if Logger.key other = Logger.key name then change (l.logger name) else l.logger other := by
  by_cases same : Logger.key other = Logger.key name <;> simp [logger, update, Keyed.get?_insert, same]

def setLevel (l : Logging) (name : Text) (level : Level) : Logging := l.update name fun logger => { logger with level }

def addHandler (l : Logging) (name : Text) (handler : Handler) : Logging :=
  l.update name fun logger => { logger with handlers := logger.handlers ++ [handler] }

def withStorage (l : Logging) (storage : Storage) : Logging := { l with output := { l.output with storage } }

@[simp] theorem logger_withStorage (l : Logging) (storage : Storage) (name : Text) :
    (l.withStorage storage).logger name = l.logger name := rfl

theorem logger_congr (l : Logging) {name other : Text} (same : Logger.key other = Logger.key name) :
    l.logger other = l.logger name := by
  simp only [logger, same]

theorem level_setLevel (l : Logging) (name other : Text) (level : Level) :
    ((l.setLevel name level).logger other).level =
      if Logger.key other = Logger.key name then level else (l.logger other).level := by
  rw [setLevel, logger_update]
  split <;> rfl

theorem handlers_setLevel (l : Logging) (name other : Text) (level : Level) :
    ((l.setLevel name level).logger other).handlers = (l.logger other).handlers := by
  rw [setLevel, logger_update]
  split
  · rename_i same
    rw [logger_congr l same]
  · rfl

theorem level_addHandler (l : Logging) (name other : Text) (handler : Handler) :
    ((l.addHandler name handler).logger other).level = (l.logger other).level := by
  rw [addHandler, logger_update]
  split
  · rename_i same
    rw [logger_congr l same]
  · rfl

theorem handlers_addHandler (l : Logging) (name other : Text) (handler : Handler) :
    ((l.addHandler name handler).logger other).handlers =
      (l.logger other).handlers ++ if Logger.key other = Logger.key name then [handler] else [] := by
  rw [addHandler, logger_update]
  split
  · rename_i same
    rw [logger_congr l same]
  · rw [List.append_nil]

/-- The first level that is set from a logger upwards. -/
def effectiveLevel (l : Logging) (name : Text) : Level :=
  (((Logger.ancestry (Logger.key name)).map fun name => (l.logger name).level).find? (· ≠ 0)).getD 0

def passes (l : Logging) (record : LogRecord) : Bool :=
  0 < record.level ∧ l.effectiveLevel record.logger ≤ record.level

def writeFor (record : LogRecord) : List Text → Logging → Logging
  | [], l => l
  | name :: names, l =>
    let (handlers, output) := Handler.writeAll record (l.logger name).handlers l.output
    let l := if handlers.isEmpty then l else l.update name fun logger => { logger with handlers }
    writeFor record names { l with output }

/-- Logs a record. Where no handler would see it, a warning or worse is told to the second stream. -/
def log (l : Logging) (record : LogRecord) : Logging :=
  let record := { record with logger := Logger.key record.logger }
  let names := Logger.ancestry record.logger
  if !l.passes record then l
  else if names.all fun name => (l.logger name).handlers.isEmpty then
    if .warning ≤ record.level then
      { l with output := l.output.complain (record.message ++ ['\n']) }
    else l
  else writeFor record names l

def logAll (l : Logging) (records : List LogRecord) : Logging := records.foldl log l

structure Setup where
  logger : Text
  level : Value := .int Level.warning
  /-- the folder of the log file, if there is to be one -/
  folder : Option Text := none
  fileName : Text := "pcomb.log".toList
  limit : Int := 1048576
  backups : Int := 2
  toOut : Bool := false
  style : LineStyle := .full

def Setup.paths (setup : Setup) : List Text :=
  match setup.folder with
  | none => []
  | some folder =>
    let path := Path.join folder setup.fileName
    path :: (List.range setup.backups.toNat).map fun n => LogFile.backup path (n + 1)

/-- What is to be written to. What has been made for a file stays if the file cannot be opened. -/
def openTarget (setup : Setup) (s : Storage) : Storage × Except Fault Target :=
  match setup.folder with
  | none => (s, .ok (if setup.toOut then .out else .err))
  | some folder =>
    let path := Path.join folder setup.fileName
    match s.addFolders (Path.parent path) with
    | (s, .error fault) => (s, .error fault)
    | (s, .ok ()) =>
      match s.openAtEnd path with
      | .error fault => (s, .error fault)
      | .ok (s, opened) => (s, .ok (.file { path, opened, limit := setup.limit, backups := setup.backups.toNat }))

/-- Sets the level of a logger and gives it one more handler. The level stays set if the handler cannot
be made. -/
def configure (setup : Setup) (l : Logging) : Logging × Except Fault Handler :=
  match Level.ofValue setup.level with
  | .error fault => (l, .error fault)
  | .ok level =>
    let (storage, result) := openTarget setup l.output.storage
    let l := (l.setLevel setup.logger level).withStorage storage
    match result with
    | .error fault => (l, .error fault)
    | .ok target =>
      let handler : Handler := { target, style := setup.style }
      (l.addHandler setup.logger handler, .ok handler)

end Logging

end ParseKit
