import ParseKit.Proofs.Logging.Setup
import ParseKit.Run

/-!
Logging that leaves the first stream alone. Main statements: it is what a set-up without that stream makes, logging
keeps it so, and nothing that is logged then stands on the stream.
-/

namespace ParseKit

namespace Handler

variable {handler : Handler} {handlers : List Handler}

theorem write_target_ne_out (record : LogRecord) (o : Output) (away : handler.target ≠ .out) :
    (handler.write record o).1.target ≠ .out := by
  obtain ⟨target, style⟩ := handler
  cases target with
  | out => exact absurd rfl away
  | err => exact away
  | file file => rintro ⟨⟩

theorem write_out (record : LogRecord) (o : Output) (away : handler.target ≠ .out) :
    (handler.write record o).2.out = o.out := by
  obtain ⟨target, style⟩ := handler
  cases target with
  | out => exact absurd rfl away
  | err => rfl
  | file file => rfl

theorem writeAll_away (record : LogRecord) (o : Output) (away : ∀ handler ∈ handlers, handler.target ≠ .out) :
    (writeAll record handlers o).2.out = o.out ∧ ∀ handler ∈ (writeAll record handlers o).1, handler.target ≠ .out := by
  induction handlers generalizing o with
  | nil => exact ⟨rfl, away⟩
  | cons handler handlers ih =>
    obtain ⟨here, others⟩ := List.forall_mem_cons.mp away
    obtain ⟨kept, away'⟩ := ih (handler.write record o).2 others
    exact ⟨kept.trans (write_out record o here), List.forall_mem_cons.mpr ⟨write_target_ne_out record o here, away'⟩⟩

end Handler

namespace Logging

variable {l l' l'' : Logging}

/-- No handler writes to the first stream. -/
def Quiet (l : Logging) : Prop := ∀ name, ∀ handler ∈ (l.logger name).handlers, handler.target ≠ .out

def print (l : Logging) (text : Text) : Logging := { l with output := l.output.print text }

theorem print_print (l : Logging) (first second : Text) : (l.print first).print second = l.print (first ++ second) := by
  simp [print, Output.print]

theorem Quiet.print (quiet : l.Quiet) (text : Text) : (l.print text).Quiet := quiet

theorem Quiet.update (quiet : l.Quiet) (name : Text) (change : Logger → Logger)
    (away : ∀ handler ∈ (change (l.logger name)).handlers, handler.target ≠ .out) : (l.update name change).Quiet := by
  intro other
  rw [logger_update]
  split
  · exact away
  · exact quiet other

/-- The first stream stays as it was, and no handler has come to write to it. -/
structure KeepsOut (l l' : Logging) : Prop where
  quiet : l'.Quiet
  out : l'.output.out = l.output.out

theorem KeepsOut.trans (first : l.KeepsOut l') (second : l'.KeepsOut l'') : l.KeepsOut l'' :=
  ⟨second.quiet, second.out.trans first.out⟩

theorem Quiet.writeFor (quiet : l.Quiet) (record : LogRecord) (names : List Text) : l.KeepsOut (writeFor record names l) := by
  induction names generalizing l with
  | nil => exact ⟨quiet, rfl⟩
  | cons name names ih =>
    obtain ⟨kept, away⟩ := Handler.writeAll_away record l.output (quiet name)
    rcases same : Handler.writeAll record (l.logger name).handlers l.output with ⟨handlers, output⟩
    rw [same] at kept away
    simp only [Logging.writeFor, same]
    split
    · have here : l.KeepsOut { l with output } := ⟨quiet, kept⟩
      exact here.trans (ih here.quiet)
    · have changed : (l.update name fun logger => { logger with handlers }).Quiet := quiet.update name _ away
      have here : l.KeepsOut { l.update name fun logger => { logger with handlers } with output } := ⟨changed, kept⟩
      exact here.trans (ih here.quiet)

theorem Quiet.log (quiet : l.Quiet) (record : LogRecord) : l.KeepsOut (l.log record) := by
  unfold Logging.log
  dsimp only
  split
  · exact ⟨quiet, rfl⟩
  · split
    · split
      · exact ⟨quiet, rfl⟩
      · exact ⟨quiet, rfl⟩
    · exact quiet.writeFor _ _

theorem Quiet.logAll (quiet : l.Quiet) (records : List LogRecord) : l.KeepsOut (l.logAll records) := by
  induction records generalizing l with
  | nil => exact ⟨quiet, rfl⟩
  | cons record records ih =>
    have first := quiet.log record
    exact first.trans (ih first.quiet)

theorem quiet_start (storage : Storage) (time : Text) : (start storage time).Quiet := by
  intro name
  rw [logger, start, Keyed.get?_cons]
  split
  · rintro handler ⟨⟩
  · rintro handler ⟨⟩

theorem destination_ne_out {setup : Setup} (away : setup.folder ≠ none ∨ setup.toOut = false) :
    setup.destination ≠ .out := by
  unfold Setup.destination
  cases given : setup.folder with
  | some folder => rintro ⟨⟩
  | none =>
    rw [away.resolve_left fun folder => folder given]
    rintro ⟨⟩

theorem Quiet.setLevel (quiet : l.Quiet) (name : Text) (level : Level) : (l.setLevel name level).Quiet :=
  quiet.update name _ (quiet name)

theorem Quiet.withStorage (quiet : l.Quiet) (storage : Storage) : (l.withStorage storage).Quiet := quiet

theorem Quiet.addHandler (quiet : l.Quiet) (name : Text) {handler : Handler} (away : handler.target ≠ .out) :
    (l.addHandler name handler).Quiet := by
  refine quiet.update name _ fun other member => ?_
  rcases List.mem_append.mp member with member | member
  · exact quiet name other member
  · cases List.mem_singleton.mp member
    exact away

/-- A set-up for a file or for the second stream. -/
theorem Quiet.configure (quiet : l.Quiet) {setup : Setup} (away : setup.folder ≠ none ∨ setup.toOut = false) :
    (l.configure setup).1.Quiet := by
  have step := configured setup l
  generalize l.configure setup = after at step ⊢
  cases step with
  | refused => exact quiet
  | unopened => exact (quiet.setLevel _ _).withStorage _
  | opened valid opens =>
    refine ((quiet.setLevel _ _).withStorage _).addHandler _ fun onOut => ?_
    have directed := (openTarget_opens opens).1
    dsimp only at onOut
    rw [onOut] at directed
    exact destination_ne_out away directed.symm

end Logging

end ParseKit
