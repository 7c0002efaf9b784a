import ParseKit.Logging.Basic
import ParseKit.Proofs.Storage.Growth

/-!
Setting up one logger. Main statements: a set-up is refused for its level and then changes nothing, or sets the level and
then ends without a handler or with one more; a handler that is made writes where the set-up says, and what it is to write
to is open.
-/

namespace ParseKit

/-- Where something is written to. -/
inductive Destination where
  | out
  | err
  | file (path : Text)

def Target.destination : Target → Destination
  | .out => .out
  | .err => .err
  | .file log => .file log.path

/-- The file that has been opened stands at its path. -/
def Target.IsOpen (s : Storage) : Target → Prop
  | .file log => s.find? log.path = some (Storage.entryOf log.opened)
  | _ => True

theorem Target.IsOpen.grows {s s' : Storage} {target : Target} (isOpen : target.IsOpen s) (grows : s.Grows s') :
    target.IsOpen s' := by
  cases target with
  | file file => exact grows.find? isOpen
  | out => exact isOpen
  | err => exact isOpen

namespace Logging

/-- A folder decides for a file, whatever else is set. -/
def Setup.destination (setup : Setup) : Destination :=
  match setup.folder with
  | some folder => .file (Path.join folder setup.fileName)
  | none => if setup.toOut then .out else .err

theorem openTarget_grows (setup : Setup) (s : Storage) : s.Grows (openTarget setup s).1 := by
  unfold openTarget
  split
  · exact .refl s
  · rename_i folder given
    have above := s.addFolders_grows (Path.parent (Path.join folder setup.fileName))
    dsimp only
    split
    · rename_i made
      rwa [made] at above
    · rename_i made
      rw [made] at above
      split
      · exact above
      · rename_i opens
        exact above.trans (Storage.openAtEnd_grows opens).1

theorem openTarget_opens {setup : Setup} {s s' : Storage} {target : Target} (opens : openTarget setup s = (s', .ok target)) :
    target.destination = setup.destination ∧ target.IsOpen s' := by
  unfold openTarget at opens
  unfold Setup.destination
  cases given : setup.folder with
  | none =>
    rw [given] at opens
    cases opens
    cases setup.toOut <;> exact ⟨rfl, trivial⟩
  | some folder =>
    rw [given] at opens
    dsimp only at opens
    split at opens
    · cases opens
    · split at opens
      · cases opens
      · rename_i opened
        cases opens
        exact ⟨rfl, (Storage.openAtEnd_grows opened).2⟩

/-- Without a folder there is nothing that could fail. -/
theorem folder_of_unopened {setup : Setup} {s s' : Storage} {fault : Fault}
    (fails : openTarget setup s = (s', .error fault)) :
    setup.folder.isSome := by
  unfold openTarget at fails
  split at fails
  · cases fails
  · rename_i given
    rw [given, Option.isSome_some]

/-- What a set-up comes to. -/
inductive Configured (setup : Setup) (l : Logging) : Logging × Except Fault Handler → Prop where
  | refused {fault : Fault} : Level.ofValue setup.level = .error fault → Configured setup l (l, .error fault)
  | unopened {level : Level} {storage : Storage} {fault : Fault} : Level.ofValue setup.level = .ok level →
      openTarget setup l.output.storage = (storage, .error fault) →
      Configured setup l ((l.setLevel setup.logger level).withStorage storage, .error fault)
  | opened {level : Level} {storage : Storage} {target : Target} : Level.ofValue setup.level = .ok level →
      openTarget setup l.output.storage = (storage, .ok target) →
      Configured setup l
        (((l.setLevel setup.logger level).withStorage storage).addHandler setup.logger ⟨target, setup.style⟩,
          .ok ⟨target, setup.style⟩)

theorem configured (setup : Setup) (l : Logging) : Configured setup l (l.configure setup) := by
  unfold configure
  cases valid : Level.ofValue setup.level with
  | error fault => exact .refused valid
  | ok level =>
    dsimp only
    rcases opens : openTarget setup l.output.storage with ⟨storage, fault | target⟩
    · exact .unopened valid opens
    · exact .opened valid opens

end Logging

end ParseKit
