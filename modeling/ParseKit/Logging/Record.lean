import ParseKit.Text.Basic

/-!
Log records and their levels.
-/

namespace ParseKit

/-- The importance of a log record; greater numbers are more important. -/
abbrev Level := Int

namespace Level

def debug : Level := 10
def info : Level := 20
def warning : Level := 30
def error : Level := 40
def critical : Level := 50

def name (level : Level) : Text :=
  if level = debug then "DEBUG".toList
  else if level = info then "INFO".toList
  else if level = warning then "WARNING".toList
  else if level = error then "ERROR".toList
  else if level = critical then "CRITICAL".toList
  else if level = 0 then "NOTSET".toList
  else "Level ".toList ++ Text.ofInt level

def ofName? (name : Text) : Option Level :=
  [("DEBUG", debug), ("INFO", info), ("WARNING", warning), ("WARN", warning), ("ERROR", error),
    ("CRITICAL", critical), ("FATAL", critical), ("NOTSET", 0)].lookup (String.ofList name)

end Level

structure LogRecord where
  logger : Text
  level : Level
  message : Text
  deriving DecidableEq

end ParseKit
