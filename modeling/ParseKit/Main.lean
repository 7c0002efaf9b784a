import ParseKit.Command.Toolkit
import Std.Time.Format

/-!
The program: it looks at the files that its command line leads to, runs the toolkit on them, and carries
out what that leaves behind.
-/

namespace ParseKit

namespace Program

def pathOf (location : Location) : String := String.ofList ('/' :: Text.join ['/'] location)

/-- Whether a location is a folder that may not be looked into. Nothing has the name that is looked up. -/
def isClosed (location : Location) : IO Bool := do
  try
    let _ ← IO.FS.readBinFile (pathOf (location ++ [List.replicate (Storage.nameLimit + 1) 'a']))
    return false
  catch
    | .permissionDenied .. => return true
    | _ => return false

def observe (s : Storage) (location : Location) : IO Storage := do
  let above := location.dropLast
  if (s.at? location).isSome || s.at? above != some .folder || s.closed.contains above then return s
  try
    let bytes ← IO.FS.readBinFile (pathOf location)
    return s.create location bytes.toList
  catch error =>
    if ← isClosed location then return { s.put location .folder with closed := location :: s.closed }
    match error with
    | .inappropriateType .. => return s.put location .folder
    | _ => return s

def observePath (s : Storage) (path : Text) : IO Storage := do
  let mut s := s
  let mut location : Location := if Path.isAbsolute path then [] else s.place
  for name in Path.names path do
    if name = ['.', '.'] then location := location.dropLast
    else if name ≠ [] ∧ name ≠ ['.'] then
      location := location ++ [name]
      s ← observe s location
  return s

def observePaths (s : Storage) (paths : List Text) : IO Storage := paths.foldlM observePath s

def store (old new : Storage) : IO Unit := do
  for (location, _) in old.entries do
    if (new.at? location).isNone then IO.FS.removeFile (pathOf location)
  for (location, entry) in new.entries do
    match entry with
    | .folder => if (old.at? location).isNone then IO.FS.createDir (pathOf location)
    | .file number =>
      if old.at? location != some entry || old.bytes number != new.bytes number then
        IO.FS.writeBinFile (pathOf location) ⟨(new.bytes number).toArray⟩
    | .sink => pure ()

def run (arguments : List String) : IO UInt32 := do
  let words := arguments.map String.toList
  let here := (Path.names (toString (← IO.currentDir)).toList).filter (· ≠ [])
  let now ← Std.Time.PlainDateTime.now
  let time := (now.format "uuuu-MM-dd HH:mm:ss,SSS").toList
  let seen ← observePaths (.startingIn here) (Command.Toolkit.mentionedPaths words)
  let seen ← observePaths seen (Command.Toolkit.logPaths Version.released words seen)
  let answer := Command.Toolkit.answer Version.released time words seen
  store seen answer.output.storage
  IO.print (String.ofList answer.output.out)
  IO.eprint (String.ofList answer.output.err)
  if let some fault := answer.fault then
    IO.eprintln (String.ofList (fault.message?.getD "type error".toList))
  return UInt32.ofNat answer.status

end Program

end ParseKit

def main (arguments : List String) : IO UInt32 := ParseKit.Program.run arguments
