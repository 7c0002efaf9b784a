import ParseKit.Toml.Basic

/-!
Tables while a document is read. A table may be added to in several places, and what may still be added
depends on how it came to be.
-/

namespace ParseKit

namespace Toml

inductive Origin where
  /-- named on the way to another table -/
  | implied
  /-- opened by a header -/
  | headed
  /-- made by a dotted key below the header with this number; later headers cannot add to it -/
  | dotted (part : Nat)
  deriving DecidableEq

inductive Draft where
  /-- a datum that is given as a whole -/
  | closed (datum : Datum)
  | table (origin : Origin) (entries : List (Text × Draft))
  /-- an array of tables, of which only the last one grows -/
  | tables (done : List Datum) (last : List (Text × Draft))

abbrev Key := List Text

namespace Draft

abbrev Entries := List (Text × Draft)

mutual

def finish : Draft → Datum
  | .closed datum => datum
  | .table _ entries => .table (finishEntries entries)
  | .tables done last => .array (done ++ [.table (finishEntries last)])

def finishEntries : List (Text × Draft) → Table
  | [] => []
  | (key, draft) :: entries => (key, finish draft) :: finishEntries entries

end

/-- Changes what stands behind a name, or puts something there; a new name comes last. -/
def alter (name : Text) (change : Option Draft → Option Draft) : Entries → Option Entries
  | [] => (change none).map fun draft => [(name, draft)]
  | (other, draft) :: entries =>
    if other = name then (change (some draft)).map fun draft => (other, draft) :: entries
    else (alter name change entries).map ((other, draft) :: ·)

/-- Opens a table by its header. No table is opened twice. -/
def openTable : Key → Entries → Option Entries
  | [], _ => none
  | [name], entries => alter name (fun
      | none => some (.table .headed [])
      | some (.table .implied inner) => some (.table .headed inner)
      | some _ => none) entries
  | name :: key, entries => alter name (fun
      | none => (openTable key []).map (.table .implied)
      | some (.table origin inner) => (openTable key inner).map (.table origin)
      | some (.tables done last) => (openTable key last).map (.tables done)
      | some (.closed _) => none) entries

def appendTable : Key → Entries → Option Entries
  | [], _ => none
  | [name], entries => alter name (fun
      | none => some (.tables [] [])
      | some (.tables done last) => some (.tables (done ++ [.table (finishEntries last)]) [])
      | some _ => none) entries
  | name :: key, entries => alter name (fun
      | none => (appendTable key []).map (.table .implied)
      | some (.table origin inner) => (appendTable key inner).map (.table origin)
      | some (.tables done last) => (appendTable key last).map (.tables done)
      | some (.closed _) => none) entries

/-- Gives a dotted key below a header its datum. The tables on the way are made, were implied, or come
from dotted keys below the same header. -/
def insert (part : Nat) (datum : Datum) : Key → Entries → Option Entries
  | [], _ => none
  | [name], entries => alter name (fun
      | none => some (.closed datum)
      | some _ => none) entries
  | name :: key, entries => alter name (fun
      | none => (insert part datum key []).map (.table (.dotted part))
      | some (.table .implied inner) => (insert part datum key inner).map (.table (.dotted part))
      | some (.table (.dotted other) inner) =>
        if other = part then (insert part datum key inner).map (.table (.dotted part)) else none
      | some _ => none) entries

/-- Gives a key its datum in the table of a header that has been opened. -/
def insertBelow (part : Nat) (key : Key) (datum : Datum) : Key → Entries → Option Entries
  | [], entries => insert part datum key entries
  | name :: header, entries => alter name (fun
      | some (.table origin inner) => (insertBelow part key datum header inner).map (.table origin)
      | some (.tables done last) => (insertBelow part key datum header last).map (.tables done)
      | _ => none) entries

end Draft

end Toml

end ParseKit
