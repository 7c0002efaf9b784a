import ParseKit.Logging.Record
import ParseKit.Storage.Basic
import ParseKit.Text.Utf8

/-!
Where log records are written: to one of two streams, or to a file that is put aside when it would grow
too large.
-/

namespace ParseKit

structure Output where
  out : Text
  err : Text
  storage : Storage
  /-- the time of day, as log lines tell it -/
  time : Text

namespace Output

def print (o : Output) (text : Text) : Output := { o with out := o.out ++ text }

def complain (o : Output) (text : Text) : Output := { o with err := o.err ++ text }

end Output

inductive LineStyle where
  /-- time, level, logger and message -/
  | full
  /-- the message alone -/
  | bare
  deriving DecidableEq

namespace LineStyle

def line (time : Text) (record : LogRecord) : LineStyle → Text
  | .bare => record.message
  | .full =>
    '[' :: time ++ "] - [".toList ++ record.level.name ++ "] - [".toList ++ record.logger
      ++ "] - ".toList ++ record.message

end LineStyle

structure LogFile where
  path : Text
  /-- the number of the open file, unless what is written is swallowed -/
  opened : Option Nat
  /-- the size that the file is to stay below; it has no bound if this is not positive -/
  limit : Int
  /-- how many older files are kept -/
  backups : Nat
  deriving DecidableEq

namespace LogFile

/-- The path of an older file: the newest one has number 1. -/
def backup (path : Text) (number : Nat) : Text := path ++ '.' :: Text.ofNat number

/-- Whether the file would reach its limit with one more line, whose end is part of it. The line counts by its characters and
what is there by its bytes. -/
def isFull (file : LogFile) (line : Text) (s : Storage) : Bool :=
  let other := s.has file.path ∧ !s.isFile file.path
  let size := match file.opened with
    | some number => (s.bytes number).length
    | none => 0
  !other ∧ 0 < file.limit ∧ file.limit ≤ size + line.length

/-- Gives each of the files numbered from `n` downwards the next number, and the newest one number 1. -/
def shift (path : Text) : Nat → Storage → Storage
  | 0, s => s.rename path (backup path 1)
  | n + 1, s => shift path n (s.rename (backup path (n + 1)) (backup path (n + 2)))

/-- Puts the file aside and opens it anew; without older files to keep, the same file is gone on with. -/
def rollOver (file : LogFile) (s : Storage) : LogFile × Storage :=
  let shifted := match file.backups with
    | 0 => s
    | n + 1 => shift file.path n s
  match shifted.openAtEnd file.path with
  | .ok (s, opened) => ({ file with opened }, s)
  | .error _ => ({ file with opened := none }, shifted)

def write (file : LogFile) (line : Text) (s : Storage) : LogFile × Storage :=
  let whole := line ++ ['\n']
  let (file, s) := if file.isFull whole s then file.rollOver s else (file, s)
  match file.opened with
  | some number => (file, s.append number (Utf8.encode whole))
  | none => (file, s)

end LogFile

inductive Target where
  | out
  | err
  | file (file : LogFile)
  deriving DecidableEq

structure Handler where
  target : Target
  style : LineStyle
  deriving DecidableEq

namespace Handler

def write (handler : Handler) (record : LogRecord) (o : Output) : Handler × Output :=
  let line := handler.style.line o.time record
  match handler.target with
  | .out => (handler, o.print (line ++ ['\n']))
  | .err => (handler, o.complain (line ++ ['\n']))
  | .file file =>
    let (file, storage) := file.write line o.storage
    ({ handler with target := .file file }, { o with storage })

def writeAll (record : LogRecord) : List Handler → Output → List Handler × Output
  | [], o => ([], o)
  | handler :: handlers, o =>
    let (handler, o) := handler.write record o
    let (handlers, o) := writeAll record handlers o
    (handler :: handlers, o)

end Handler

end ParseKit
