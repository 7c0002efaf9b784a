import ParseKit.Fault
import ParseKit.Storage.Path
import ParseKit.Text.Utf8

/-!
Files and folders. A file has a number of its own: who has it open goes on writing to it when its path
is given to another file. Paths are looked up name by name from the working folder or from the root. Of permissions there is
only the one to look into a folder.
-/

namespace ParseKit

abbrev Location := List Text

inductive Entry where
  | folder
  | file (number : Nat)
  /-- swallows what is written to it and has no content -/
  | sink
  deriving DecidableEq

structure Storage where
  place : Location
  entries : List (Location × Entry)
  /-- the bytes of the files by their numbers -/
  contents : List (List UInt8)
  /-- folders in which nothing may be looked up -/
  closed : List Location := []

namespace Storage

inductive Obstacle where
  | missing
  | notFolder
  /-- no name has a null character in it -/
  | unnameable
  /-- a name on the way, or the path as a whole, has more bytes than can be looked up -/
  | tooLong
  /-- a folder on the way is closed -/
  | forbidden
  deriving DecidableEq

/-- Whether an obstacle shows that nothing stands at the path. What is behind the others is not known. -/
def Obstacle.showsAbsence : Obstacle → Bool
  | .missing | .notFolder | .unnameable => true
  | .tooLong | .forbidden => false

/-- The greatest number of bytes of a name. -/
def nameLimit : Nat := 255

/-- The greatest number of bytes of a path. -/
def pathLimit : Nat := 4095

def isLongerThan (limit : Nat) (s : Text) : Bool := limit < (Utf8.encode s).length

/-- What stands at a location; the root is a folder. -/
def at? (s : Storage) (location : Location) : Option Entry :=
  if location = [] then some .folder else s.entries.lookup location

/-- The location reached from a folder by a name. -/
def enter (s : Storage) (location : Location) (name : Text) : Except Obstacle Location :=
  match s.at? location with
  | none => .error .missing
  | some (.file _) | some .sink => .error .notFolder
  | some .folder =>
    if name = [] then .ok location
    else if location ∈ s.closed then .error .forbidden
    else if name = ['.'] then .ok location
    else if name = ['.', '.'] then .ok location.dropLast
    else if isLongerThan nameLimit name then .error .tooLong
    else .ok (location ++ [name])

/-- The location reached by some names; only its last name may be without an entry. -/
def walk (s : Storage) (location : Location) : List Text → Except Obstacle Location
  | [] => .ok location
  | name :: names =>
    match s.enter location name with
    | .error obstacle => .error obstacle
    | .ok next => walk s next names

def locate (s : Storage) (path : Text) : Except Obstacle Location :=
  if path.contains '\x00' then .error .unnameable
  else if path = [] then .error .missing
  else if isLongerThan pathLimit path then .error .tooLong
  else s.walk (if Path.isAbsolute path then [] else s.place) (Path.names path)

def find? (s : Storage) (path : Text) : Option Entry :=
  match s.locate path with
  | .ok location => s.at? location
  | .error _ => none

def has (s : Storage) (path : Text) : Bool := (s.find? path).isSome

def isFolder (s : Storage) (path : Text) : Bool := s.find? path = some .folder

def isFile (s : Storage) (path : Text) : Bool :=
  match s.find? path with
  | some (.file _) => true
  | _ => false

def bytes (s : Storage) (number : Nat) : List UInt8 := (s.contents[number]?).getD []

def faultOf (path : Text) : Obstacle → Fault
  | .missing => .noSuchFile path
  | .notFolder => .notADirectory path
  | .unnameable => .raised .badValue "embedded null byte".toList
  | .tooLong => .nameTooLong path
  | .forbidden => .accessDenied path

/-- Whether something stands at a path, unless that cannot be found out. -/
def exists? (s : Storage) (path : Text) : Except Fault Bool :=
  match s.locate path with
  | .ok location => .ok (s.at? location).isSome
  | .error obstacle => if obstacle.showsAbsence then .ok false else .error (faultOf path obstacle)

theorem exists?_iff_has {s : Storage} {path : Text} : s.exists? path = .ok true ↔ s.has path = true := by
  unfold exists? has find?
  cases s.locate path with
  | ok location => simp
  | error obstacle => cases obstacle <;> simp [Obstacle.showsAbsence]

def read (s : Storage) (path : Text) : Except Fault (List UInt8) :=
  match s.locate path with
  | .error obstacle => .error (faultOf path obstacle)
  | .ok location =>
    match s.at? location with
    | none => .error (.noSuchFile path)
    | some .folder => .error (.isDirectory path)
    | some .sink => .ok []
    | some (.file number) => .ok (s.bytes number)

def put (s : Storage) (location : Location) (entry : Entry) : Storage :=
  { s with entries := s.entries.filter (·.1 ≠ location) ++ [(location, entry)] }

theorem at?_put_self (s : Storage) (location : Location) (entry : Entry) (below : location ≠ []) :
    (s.put location entry).at? location = some entry := by
  have cleared : (s.entries.filter (·.1 ≠ location)).lookup location = none := by
    simpa [List.lookup_eq_none_iff] using fun _ _ _ other => Ne.symm other
  simp only [at?, put, below, if_false, List.lookup_append, cleared]
  simp

def create (s : Storage) (location : Location) (bytes : List UInt8) : Storage :=
  { s.put location (.file s.contents.length) with contents := s.contents ++ [bytes] }

def makeFolder (s : Storage) (path : Text) : Except Fault Storage :=
  let trimmed := if (Path.dropTrailing path).isEmpty then path else Path.dropTrailing path
  match s.locate trimmed with
  | .error obstacle => .error (faultOf path obstacle)
  | .ok location =>
    if (s.at? location).isSome then .error (.fileExists path) else .ok (s.put location .folder)

/-- A folder that stands there already is as good as a new one. -/
def ensureFolder (s : Storage) (path : Text) : Storage × Except Fault Unit :=
  match s.makeFolder path with
  | .ok made => (made, .ok ())
  | .error fault => (s, if s.isFolder path then .ok () else .error fault)

/-- Passes over the fault that something stands there already. -/
def passOver : Except Fault Unit → Except Fault Unit
  | .error (.fileExists _) => .ok ()
  | result => result

/-- Makes a folder and the folders above it; the first argument bounds their number. What has been made stays
if a fault follows. A file in the place of a folder above is a fault only for what is to stand in it. -/
def addFoldersFrom : Nat → Storage → Text → Storage × Except Fault Unit
  | 0, s, _ => (s, .ok ())
  | depth + 1, s, path =>
    let whole := if Path.lastName path = [] then Path.parent path else path
    let above := Path.parent whole
    let last := Path.lastName whole
    if above ≠ [] ∧ last ≠ [] ∧ !s.has above then
      let (s, result) := addFoldersFrom depth s above
      match passOver result with
      | .error fault => (s, .error fault)
      | .ok () => if last = ['.'] then (s, .ok ()) else s.ensureFolder path
    else s.ensureFolder path

def addFolders (s : Storage) (path : Text) : Storage × Except Fault Unit :=
  addFoldersFrom (path.length + 1) s path

/-- All of the folders of a path, or nothing. -/
def makeFolders (s : Storage) (path : Text) : Except Fault Storage :=
  match s.addFolders path with
  | (made, .ok ()) => .ok made
  | (_, .error fault) => .error fault

/-- Opens a file to write at its end, and makes it if there is none; nothing is opened for a sink. -/
def openAtEnd (s : Storage) (path : Text) : Except Fault (Storage × Option Nat) :=
  match s.locate path with
  | .error obstacle => .error (faultOf path obstacle)
  | .ok location =>
    match s.at? location with
    | none => .ok (s.create location [], some s.contents.length)
    | some .folder => .error (.isDirectory path)
    | some .sink => .ok (s, none)
    | some (.file number) => .ok (s, some number)

def append (s : Storage) (number : Nat) (bytes : List UInt8) : Storage :=
  { s with contents := s.contents.modify number (· ++ bytes) }

/-- Gives a file another path, whose file loses it; nothing happens if there is no such file. -/
def rename (s : Storage) (source target : Text) : Storage :=
  match s.locate source, s.locate target with
  | .ok old, .ok new =>
    match s.at? old with
    | some (.file number) =>
      if old = new then s
      else { s with entries := s.entries.filter (·.1 ≠ old) }.put new (.file number)
    | _ => s
  | _, _ => s

/-- The files below the working folder by their paths from there. -/
def files (s : Storage) : List (Text × List UInt8) :=
  s.entries.filterMap fun
    | (location, .file number) =>
      if s.place.isPrefixOf location then
        some (Text.join ['/'] (location.drop s.place.length), s.bytes number)
      else none
    | _ => none

/-- A working folder with the folders above it, and the sink. -/
def startingIn (place : Location) : Storage :=
  let name (s : String) : Text := s.toList
  let above := (List.range place.length).map fun n => (place.take (n + 1), Entry.folder)
  { place
    entries := [([name "dev"], .folder), ([name "dev", name "null"], .sink), ([name "etc"], .folder)]
      ++ above
    contents := [] }

def fresh : Storage := startingIn ["tmp".toList, "work".toList]

def withFile (s : Storage) (path : Text) (bytes : List UInt8) : Except Fault Storage := do
  let s ← if Path.parent path = [] then .ok s else s.makeFolders (Path.parent path)
  match s.locate path with
  | .error obstacle => .error (faultOf path obstacle)
  | .ok location => return s.create location bytes

end Storage

end ParseKit
