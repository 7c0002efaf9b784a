import ParseKit.Parser.Basic

/-!
Scripts: parsers written as steps, where a later step may depend on what an earlier one gave. A script
runs as a coroutine: it is resumed with what each parser gave, and closed when the run ends.
-/

namespace ParseKit

inductive Script where
  /-- ends with a value -/
  | done (value : Value)
  /-- ends in a fault -/
  | raise (fault : Fault)
  /-- leaves a note and goes on -/
  | note (value : Value) (next : Script)
  /-- runs a parser and goes on with what it gives -/
  | await (p : Parser) (next : Value → Script)

inductive Coroutine where
  /-- nothing of the script has run yet -/
  | created (body : Script)
  /-- the script stands where it handed out a parser -/
  | waiting (next : Value → Script)
  | ended

inductive Signal where
  | yields (p : Parser)
  | returns (value : Value)

/-- A computation together with the coroutine as it leaves it. -/
structure Turn (α : Type) where
  run : Run α
  left : Coroutine

namespace Turn

def precededBy {α : Type} (events : List Event) (turn : Turn α) : Turn α :=
  ⟨turn.run.precededBy events, turn.left⟩

end Turn

namespace Coroutine

def cleanupEvents : Option Text → List Event
  | none => []
  | some tag => [.cleanup tag]

/-- Runs a script until it hands out a parser or is over. The cleanup belongs to the script: it is the
last thing that the script does where it ends by itself. -/
def advance (cleanup : Option Text) : Script → Turn Signal
  | .done value => ⟨⟨cleanupEvents cleanup, .ok (.returns value)⟩, .ended⟩
  | .raise fault => ⟨⟨cleanupEvents cleanup, .error fault⟩, .ended⟩
  | .note value next => (advance cleanup next).precededBy [.note value]
  | .await p next => ⟨⟨[], .ok (.yields p)⟩, .waiting next⟩

/-- Resumes a coroutine. A new one can only be sent nothing. -/
def resume (cleanup : Option Text) (sent : Value) : Coroutine → Turn Signal
  | .created body => match sent with
    | .none => advance cleanup body
    | _ => ⟨Run.fault .typeMismatch, .created body⟩
  | .waiting next => advance cleanup (next sent)
  | .ended => ⟨⟨[], .ok (.returns .none)⟩, .ended⟩

/-- What happens when a coroutine is closed: a script that waits is ended there, and cleans up. -/
def close (cleanup : Option Text) : Coroutine → List Event
  | .waiting _ => cleanupEvents cleanup
  | .created _ | .ended => []

/-- The first coroutine is what the second becomes by handing out a parser. -/
def Follows (later earlier : Coroutine) : Prop :=
  ∃ cleanup sent events p, earlier.resume cleanup sent = ⟨⟨events, .ok (.yields p)⟩, later⟩

/-- A coroutine that a script has become is worn out after finitely many parsers, as the script has no infinite path. -/
theorem acc_of_advance (cleanup : Option Text) (body : Script) (events : List Event) (p : Parser)
    (later : Coroutine) (step : advance cleanup body = ⟨⟨events, .ok (.yields p)⟩, later⟩) :
    Acc Follows later := by
  induction body generalizing cleanup events p later with
  | done value => cases step
  | raise fault => cases step
  | note value next ih =>
    rcases same : advance cleanup next with ⟨⟨inner, result⟩, left⟩
    simp only [advance, same, Turn.precededBy, Run.precededBy, Turn.mk.injEq, Run.mk.injEq] at step
    obtain ⟨⟨-, rfl⟩, rfl⟩ := step
    exact ih cleanup inner p left same
  | await q next ih =>
    cases step
    refine ⟨_, ?_⟩
    rintro later ⟨cleanup, sent, events, p, step⟩
    exact ih sent cleanup events p later step

theorem follows_wellFounded : WellFounded Follows := by
  refine ⟨fun earlier => ⟨_, ?_⟩⟩
  rintro later ⟨cleanup, sent, events, p, step⟩
  cases earlier with
  | created body =>
    cases sent with
    | none => exact acc_of_advance cleanup body events p later step
    | _ => cases step
  | waiting next => exact acc_of_advance cleanup (next sent) events p later step
  | ended => cases step

instance : WellFoundedRelation Coroutine := ⟨Follows, follows_wellFounded⟩

/-- Runs a parser that a coroutine has handed out, and then those that it hands out next, each on what
the one before it has left, until one fails or the coroutine is over. -/
def drive (cleanup : Option Text) (p : Parser) (coroutine : Coroutine) (input : Value) : Turn Outcome :=
  match p input with
  | ⟨events, .error fault⟩ => ⟨⟨events, .error fault⟩, coroutine⟩
  | ⟨events, .ok (.failure expected actual)⟩ => ⟨⟨events, .ok (.failure expected actual)⟩, coroutine⟩
  | ⟨events, .ok (.success data rest)⟩ =>
    match _step : coroutine.resume cleanup data with
    | ⟨⟨more, .error fault⟩, left⟩ => ⟨⟨events ++ more, .error fault⟩, left⟩
    | ⟨⟨more, .ok (.returns value)⟩, left⟩ => ⟨⟨events ++ more, .ok (.success value rest)⟩, left⟩
    | ⟨⟨more, .ok (.yields q)⟩, left⟩ => (drive cleanup q left rest).precededBy (events ++ more)
termination_by coroutine
decreasing_by exact ⟨cleanup, data, more, q, ‹_›⟩

end Coroutine

namespace Parser

/-- The parser of a script. The coroutine of the run is closed on every way out. -/
def script (body : Script) (cleanup : Option Text) : Parser := fun input =>
  let turn : Turn Outcome := match (Coroutine.created body).resume cleanup .none with
    | ⟨⟨events, .error fault⟩, left⟩ => ⟨⟨events, .error fault⟩, left⟩
    | ⟨⟨events, .ok (.returns value)⟩, left⟩ => ⟨⟨events, .ok (.success value input)⟩, left⟩
    | ⟨⟨events, .ok (.yields p)⟩, left⟩ => (left.drive cleanup p input).precededBy events
  turn.run.followedBy (turn.left.close cleanup)

end Parser

end ParseKit
