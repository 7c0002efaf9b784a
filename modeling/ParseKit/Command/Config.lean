import ParseKit.Logging.Record
import ParseKit.Storage.Basic
import ParseKit.Toml.Decoder

/-!
Defaults from a table of a configuration file.
-/

namespace ParseKit

namespace Config

def standardPath : Text := "/etc/pcomb/config.toml".toList

def nowhere : Text := "/dev/null".toList

inductive Refusal where
  | malformed (path : Text)
  | noSuchTable (name path : Text) (names : List Text)
  | fault (fault : Fault)

def record (message : Text) : LogRecord where
  logger := "pcomb.click".toList
  level := .info
  message

/-- The wording about a configuration that is none, or has no such table. -/
def Refusal.message? : Refusal → Option Text
  | .malformed path => some (path ++ " does not contain valid TOML.".toList)
  | .noSuchTable name path names => some <|
    '\'' :: name ++ "' is not a top-level table name in ".toList ++ path ++ ". Valid names: [".toList
      ++ Text.join ", ".toList (names.map Quoted.text) ++ [']']
  | .fault _ => none

/-- Why the configuration at a path is refused if it cannot be decoded. -/
def Refusal.ofTrouble (path : Text) : Toml.Trouble → Refusal
  | .malformed => .malformed path
  | .fault raised => .fault raised

/-- The table of a document under a name. -/
def tableOf (name path : Text) (document : Toml.Table) : Except Refusal Toml.Table :=
  match document.get? name with
  | none => .error (.noSuchTable name path (document.map Prod.fst))
  | some (.table table) => .ok table
  | some _ => .error (.fault .typeCheck)

/-- The table under a name in the document that stands at a path. -/
def tableAt (decode : Toml.Decoder) (s : Storage) (name path : Text) : Except Refusal Toml.Table := do
  let content ← (s.read path).mapError .fault
  let document ← (decode content).mapError (.ofTrouble path)
  tableOf name path document

/-- What a loading leaves: the records that it made, the defaults, and why the configuration was refused,
if it was. -/
structure Loading where
  records : List LogRecord
  defaults : Option Toml.Table
  refusal : Option Refusal

/-- Lays a table of a configuration file over the defaults that there are, which stay as they are until the
table has been found. A file that is not there changes nothing; it may be that this cannot be found out. -/
def load (decode : Toml.Decoder) (s : Storage) (name path : Text) (defaults : Option Toml.Table) : Loading :=
  match s.exists? path with
  | .error fault => ⟨[], defaults, some (.fault fault)⟩
  | .ok there =>
    if !there ∨ path = nowhere then ⟨[], defaults, none⟩
    else
      let reading := record ("Reading config from ".toList ++ path ++ "...".toList)
      match tableAt decode s name path with
      | .error refusal => ⟨[reading], defaults, some refusal⟩
      | .ok table =>
        let loaded := record ("Loaded table '".toList ++ name ++ "'.".toList)
        ⟨[reading, loaded], some ((defaults.getD []).overlay table), none⟩

end Config

end ParseKit
