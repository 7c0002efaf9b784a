import ParseKit.Proofs.Logging.Setup

/-!
Set-ups one behind the other, some of which fail. Main statement: a logger has the handlers of the calls for it that
returned, in their order, and the level of the last call for it with a valid one; a call without a valid level might as well
not have been made.
-/

namespace ParseKit

namespace Logging

/-- Whether the level is one that loggers can have. -/
def Setup.isValid (setup : Setup) : Bool := (Level.ofValue setup.level).isOk

/-- A set-up with what came of it. -/
structure Call where
  setup : Setup
  result : Except Fault Handler

namespace Call

def handler? (call : Call) : Option Handler := call.result.toOption

def level? (call : Call) : Option Level := (Level.ofValue call.setup.level).toOption

/-- Whether a call is for a logger; the root has two names. -/
def isFor (name : Text) (call : Call) : Bool := Logger.key name = Logger.key call.setup.logger

/-- What a call may come to: a handler for what was asked for, with its file open, or a fault of the level or of a file. -/
def Answered (s : Storage) (call : Call) : Prop :=
  match call.result with
  | .ok handler => call.setup.isValid ∧ handler.target.destination = call.setup.destination ∧ handler.target.IsOpen s
  | .error fault => Level.ofValue call.setup.level = .error fault ∨ call.setup.isValid ∧ call.setup.folder.isSome

theorem Answered.grows {s s' : Storage} {call : Call} (answered : call.Answered s) (grows : s.Grows s') :
    call.Answered s' := by
  obtain ⟨setup, result⟩ := call
  cases result with
  | ok handler => exact ⟨answered.1, answered.2.1, answered.2.2.grows grows⟩
  | error fault => exact answered

end Call

section reading

variable {α : Type} (name : Text) (read : Call → Option α)

/-- What is read off the calls for a logger, in their order. -/
def ofLogger (calls : List Call) : List α := (calls.filter (Call.isFor name)).filterMap read

theorem ofLogger_append (first second : List Call) :
    ofLogger name read (first ++ second) = ofLogger name read first ++ ofLogger name read second := by
  rw [ofLogger, List.filter_append, List.filterMap_append, ofLogger, ofLogger]

theorem ofLogger_single (call : Call) :
    ofLogger name read [call] = if Logger.key name = Logger.key call.setup.logger then (read call).toList else [] := by
  by_cases own : Logger.key name = Logger.key call.setup.logger
  · cases given : read call <;> simp [ofLogger, Call.isFor, own, given]
  · simp [ofLogger, Call.isFor, own]

end reading

/-- The last of some levels, or the level that was there before. -/
def lastLevel (before : Level) (levels : List Level) : Level := levels.getLast?.getD before

theorem lastLevel_append (before : Level) (first second : List Level) :
    lastLevel before (first ++ second) = lastLevel (lastLevel before first) second := by
  unfold lastLevel
  rw [List.getLast?_append]
  cases second.getLast? <;> rfl

section step

variable (setup : Setup) (l : Logging) (name : Text)

theorem configure_of_invalid {setup : Setup} (invalid : setup.isValid = false) : (l.configure setup).1 = l := by
  have step := configured setup l
  generalize l.configure setup = after at step ⊢
  cases step with
  | refused => rfl
  | unopened valid =>
    rw [Setup.isValid, valid] at invalid
    cases invalid
  | opened valid =>
    rw [Setup.isValid, valid] at invalid
    cases invalid

theorem configure_grows : l.output.storage.Grows (l.configure setup).1.output.storage := by
  have grows := openTarget_grows setup l.output.storage
  have step := configured setup l
  generalize l.configure setup = after at step ⊢
  cases step with
  | refused => exact .refl _
  | unopened valid opens => rwa [opens] at grows
  | opened valid opens => rwa [opens] at grows

theorem configure_answered : Call.Answered (l.configure setup).1.output.storage ⟨setup, (l.configure setup).2⟩ := by
  have step := configured setup l
  generalize l.configure setup = after at step ⊢
  cases step with
  | refused refused => exact .inl refused
  | unopened valid opens => exact .inr ⟨by rw [Setup.isValid, valid]; rfl, folder_of_unopened opens⟩
  | opened valid opens => exact ⟨by rw [Setup.isValid, valid]; rfl, openTarget_opens opens⟩

theorem handlers_configure :
    ((l.configure setup).1.logger name).handlers =
      (l.logger name).handlers ++ ofLogger name Call.handler? [⟨setup, (l.configure setup).2⟩] := by
  rw [ofLogger_single]
  have step := configured setup l
  generalize l.configure setup = after at step ⊢
  cases step with
  | refused => simp [Call.handler?, Except.toOption]
  | unopened => simp [Call.handler?, Except.toOption, handlers_setLevel]
  | opened => simp [Call.handler?, Except.toOption, handlers_setLevel, handlers_addHandler]

theorem level_configure :
    ((l.configure setup).1.logger name).level =
      lastLevel (l.logger name).level (ofLogger name Call.level? [⟨setup, (l.configure setup).2⟩]) := by
  rw [ofLogger_single]
  have step := configured setup l
  generalize l.configure setup = after at step ⊢
  cases step with
  | refused refused =>
    rw [Call.level?, refused]
    split <;> rfl
  | unopened valid =>
    rw [Call.level?, valid, logger_withStorage, level_setLevel]
    split <;> rfl
  | opened valid =>
    rw [Call.level?, valid, level_addHandler, logger_withStorage, level_setLevel]
    split <;> rfl

end step

/-- Carries out set-ups one behind the other. -/
def configureAll : List Setup → Logging → Logging × List Call
  | [], l => (l, [])
  | setup :: setups, l =>
    let (l, result) := l.configure setup
    let (l, calls) := configureAll setups l
    (l, ⟨setup, result⟩ :: calls)

section run

variable (setups : List Setup) (l : Logging) (name : Text)

theorem setups_configureAll : (l.configureAll setups).2.map Call.setup = setups := by
  induction setups generalizing l with
  | nil => rfl
  | cons setup setups ih => exact congrArg (setup :: ·) (ih (l.configure setup).1)

theorem configureAll_grows : l.output.storage.Grows (l.configureAll setups).1.output.storage := by
  induction setups generalizing l with
  | nil => exact .refl _
  | cons setup setups ih => exact (configure_grows setup l).trans (ih _)

/-- What a call has opened stays open behind the calls that follow. -/
theorem configureAll_answered :
    ∀ call ∈ (l.configureAll setups).2, call.Answered (l.configureAll setups).1.output.storage := by
  induction setups generalizing l with
  | nil => simp [configureAll]
  | cons setup setups ih =>
    have first := (configure_answered setup l).grows (configureAll_grows setups _)
    exact List.forall_mem_cons.mpr ⟨first, ih _⟩

theorem handlers_configureAll :
    ((l.configureAll setups).1.logger name).handlers =
      (l.logger name).handlers ++ ofLogger name Call.handler? (l.configureAll setups).2 := by
  induction setups generalizing l with
  | nil => exact (List.append_nil _).symm
  | cons setup setups ih =>
    let l' := (l.configure setup).1
    let call : Call := ⟨setup, (l.configure setup).2⟩
    calc ((l'.configureAll setups).1.logger name).handlers
        = (l'.logger name).handlers ++ ofLogger name Call.handler? (l'.configureAll setups).2 := ih l'
      _ = (l.logger name).handlers ++ ofLogger name Call.handler? [call] ++
            ofLogger name Call.handler? (l'.configureAll setups).2 := by rw [handlers_configure]
      _ = (l.logger name).handlers ++ ofLogger name Call.handler? (call :: (l'.configureAll setups).2) := by
          rw [List.append_assoc, ← ofLogger_append, List.singleton_append]

theorem level_configureAll :
    ((l.configureAll setups).1.logger name).level =
      lastLevel (l.logger name).level (ofLogger name Call.level? (l.configureAll setups).2) := by
  induction setups generalizing l with
  | nil => rfl
  | cons setup setups ih =>
    let l' := (l.configure setup).1
    let call : Call := ⟨setup, (l.configure setup).2⟩
    calc ((l'.configureAll setups).1.logger name).level
        = lastLevel (l'.logger name).level (ofLogger name Call.level? (l'.configureAll setups).2) := ih l'
      _ = lastLevel (lastLevel (l.logger name).level (ofLogger name Call.level? [call]))
            (ofLogger name Call.level? (l'.configureAll setups).2) := by rw [level_configure]
      _ = lastLevel (l.logger name).level (ofLogger name Call.level? (call :: (l'.configureAll setups).2)) := by
          rw [← lastLevel_append, ← ofLogger_append, List.singleton_append]

/-- A call that is refused for its level leaves no trace. -/
theorem configureAll_valid :
    (l.configureAll (setups.filter Setup.isValid)).1 = (l.configureAll setups).1 := by
  induction setups generalizing l with
  | nil => rfl
  | cons setup setups ih =>
    by_cases valid : setup.isValid
    · rw [List.filter_cons_of_pos valid]
      exact ih (l.configure setup).1
    · rw [List.filter_cons_of_neg valid, ih l]
      have unchanged := configure_of_invalid l (Bool.eq_false_iff.mpr valid)
      calc (l.configureAll setups).1
          = ((l.configure setup).1.configureAll setups).1 := by rw [unchanged]
        _ = (l.configureAll (setup :: setups)).1 := rfl

end run

/-- A logger behind some set-ups, for it and for other loggers, from any state on. -/
theorem logger_after_setups (setups : List Setup) (l : Logging) (name : Text) :
    let (l', calls) := l.configureAll setups
    calls.map Call.setup = setups ∧ (∀ call ∈ calls, call.Answered l'.output.storage) ∧
      (l'.logger name).handlers = (l.logger name).handlers ++ ofLogger name Call.handler? calls ∧
      (l'.logger name).level = lastLevel (l.logger name).level (ofLogger name Call.level? calls) ∧
      l' = (l.configureAll (setups.filter Setup.isValid)).1 := by
  have inOrder := setups_configureAll setups l
  have answered := configureAll_answered setups l
  have handlers := handlers_configureAll setups l name
  have level := level_configureAll setups l name
  have unchanged := configureAll_valid setups l
  exact ⟨inOrder, answered, handlers, level, unchanged.symm⟩

-- The second call is refused for its level; the third one sets the level, and then finds no folder for its file.
example :
    let setups : List Setup := [{ logger := ['a'], folder := some ['d'] }, { logger := ['a'], level := .text ['?'] },
      { logger := ['a'], level := .int Level.debug, folder := some [] }]
    let l := ((start .fresh []).configureAll setups).1
    ((l.logger ['a']).handlers.map fun handler => handler.target.destination) = [.file "d/pcomb.log".toList] ∧
      (l.logger ['a']).level = .debug := by
  cbv

end Logging

end ParseKit
