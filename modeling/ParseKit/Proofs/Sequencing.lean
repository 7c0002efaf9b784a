import ParseKit.Parser.Combinators
import ParseKit.Parser.Script

/-!
Scripts as sequences: a script means the parsers that it hands out, bound one behind the other. Main
statement: running the coroutine of a script gives what the script means, journal included.
-/

namespace ParseKit

namespace Parser

theorem bind_apply (p : Parser) (f : Value → Except Fault Parser) (input : Value) :
    p.bind f input =
      match p input with
      | ⟨events, .error fault⟩ => ⟨events, .error fault⟩
      | ⟨events, .ok (.failure expected actual)⟩ => ⟨events, .ok (.failure expected actual)⟩
      | ⟨events, .ok (.success data rest)⟩ =>
        (Run.ofExcept (f data) >>= fun q => q rest).precededBy events := by
  rcases same : p input with ⟨events, fault | ⟨data, rest⟩ | ⟨expected, actual⟩⟩
  · simp [bind, same]
  · simp [bind, same]
  · simp [bind, same, Run.pure_def, Run.precededBy]

section outcomes

variable {p q : Parser} {f : Value → Except Fault Parser} {input : Value} {events : List Event}

theorem bind_of_fault {fault : Fault} (given : p input = ⟨events, .error fault⟩) :
    p.bind f input = ⟨events, .error fault⟩ := by rw [bind_apply, given]

theorem bind_of_failure {expected actual : Value} (given : p input = ⟨events, .ok (.failure expected actual)⟩) :
    p.bind f input = ⟨events, .ok (.failure expected actual)⟩ := by rw [bind_apply, given]

theorem bind_of_success {data rest : Value} (given : p input = ⟨events, .ok (.success data rest)⟩)
    (made : f data = .ok q) : p.bind f input = (q rest).precededBy events := by
  rw [bind_apply, given]
  simp [made, Run.ofExcept]

end outcomes

end Parser

namespace Script

def meaning : Script → Parser
  | .done value => Parser.succeed value
  | .raise fault => fun _ => Run.fault fault
  | .note value next => fun input => (meaning next input).precededBy [.note value]
  | .await p next => p.bind fun data => .ok (meaning (next data))

/-- The script that hands out several parsers in order and goes on with all that they gave; `given` holds the
data so far, the latest first. -/
def inOrder (last : List Value → Script) : List Parser → List Value → Script
  | [], given => last given.reverse
  | p :: ps, given => .await p fun data => inOrder last ps (data :: given)

end Script

namespace Coroutine

/-- How a run goes on from a coroutine that has just answered. -/
def proceed (cleanup : Option Text) (turn : Turn Signal) (input : Value) : Turn Outcome :=
  match turn with
  | ⟨⟨events, .error fault⟩, left⟩ => ⟨⟨events, .error fault⟩, left⟩
  | ⟨⟨events, .ok (.returns value)⟩, left⟩ => ⟨⟨events, .ok (.success value input)⟩, left⟩
  | ⟨⟨events, .ok (.yields p)⟩, left⟩ => (left.drive cleanup p input).precededBy events

theorem proceed_precededBy (cleanup : Option Text) (turn : Turn Signal) (input : Value) (events : List Event) :
    proceed cleanup (turn.precededBy events) input = (proceed cleanup turn input).precededBy events := by
  obtain ⟨⟨more, fault | p | value⟩, left⟩ := turn
  · rfl
  · simp [proceed, Turn.precededBy, Run.precededBy]
  · rfl

theorem drive_waiting (cleanup : Option Text) (p : Parser) (next : Value → Script) (input : Value) :
    (Coroutine.waiting next).drive cleanup p input =
      match p input with
      | ⟨events, .error fault⟩ => ⟨⟨events, .error fault⟩, .waiting next⟩
      | ⟨events, .ok (.failure expected actual)⟩ => ⟨⟨events, .ok (.failure expected actual)⟩, .waiting next⟩
      | ⟨events, .ok (.success data rest)⟩ =>
        (proceed cleanup (advance cleanup (next data)) rest).precededBy events := by
  rw [drive]
  rcases p input with ⟨events, fault | ⟨data, rest⟩ | ⟨expected, actual⟩⟩
  · rfl
  · simp only [resume]
    rcases advance cleanup (next data) with ⟨⟨more, fault | q | value⟩, left⟩
    · rfl
    · simp [proceed, Turn.precededBy, Run.precededBy]
    · rfl
  · rfl

def closed (cleanup : Option Text) (turn : Turn Outcome) : Run Outcome :=
  turn.run.followedBy (turn.left.close cleanup)

theorem closed_precededBy (cleanup : Option Text) (turn : Turn Outcome) (events : List Event) :
    closed cleanup (turn.precededBy events) = (closed cleanup turn).precededBy events :=
  Run.followedBy_precededBy events _ turn.run

/-- A script that runs from here on does what it means, and then cleans up: by itself if it comes to its
end, and because it is closed if it is left waiting. -/
theorem closed_proceed_advance (cleanup : Option Text) (body : Script) (input : Value) :
    closed cleanup (proceed cleanup (advance cleanup body) input) =
      (body.meaning input).followedBy (cleanupEvents cleanup) := by
  induction body generalizing input with
  | done value => simp [advance, proceed, closed, close, Script.meaning, Parser.succeed, Run.pure_def, Run.followedBy]
  | raise fault => simp [advance, proceed, closed, close, Script.meaning, Run.fault, Run.followedBy]
  | note value next ih =>
    rw [advance, proceed_precededBy, closed_precededBy, ih, Script.meaning, Run.followedBy_precededBy]
  | await p next ih =>
    -- a script that waits has not cleaned up: either it is resumed and does so later, or closing it does
    have started : proceed cleanup (advance cleanup (.await p next)) input =
        (Coroutine.waiting next).drive cleanup p input := rfl
    rw [started, drive_waiting, Script.meaning, Parser.bind_apply]
    rcases p input with ⟨events, fault | ⟨data, rest⟩ | ⟨expected, actual⟩⟩
    · rfl
    · simp only [Run.ofExcept, Run.ok_bind, Run.precededBy_nil]
      rw [closed_precededBy, ih, Run.followedBy_precededBy]
    · rfl

end Coroutine

namespace Parser

theorem script_eq_proceed (body : Script) (cleanup : Option Text) (input : Value) :
    script body cleanup input =
      Coroutine.closed cleanup (Coroutine.proceed cleanup (Coroutine.advance cleanup body) input) := by
  simp only [script, Coroutine.resume]
  rcases Coroutine.advance cleanup body with ⟨⟨events, fault | p | value⟩, left⟩ <;> rfl

theorem script_apply (body : Script) (cleanup : Option Text) (input : Value) :
    script body cleanup input = (body.meaning input).followedBy (Coroutine.cleanupEvents cleanup) := by
  rw [script_eq_proceed, Coroutine.closed_proceed_advance]

theorem script_none (body : Script) : script body none = body.meaning := by
  funext input
  rw [script_apply, Coroutine.cleanupEvents, Run.followedBy_nil]

theorem bind_succeed_right (p : Parser) : p.bind (fun data => .ok (succeed data)) = p := by
  funext input
  rw [bind_apply]
  rcases p input with ⟨events, fault | ⟨data, rest⟩ | ⟨expected, actual⟩⟩
  · rfl
  · simp [Run.ofExcept, succeed, Run.pure_def, Run.precededBy]
  · rfl

theorem inSequence_cons (f : List Value → Except Fault Value) (p : Parser) (ps : List Parser) (given : List Value) :
    inSequence f (p :: ps) given = p.bind fun data => .ok (inSequence f ps (data :: given)) := rfl

/-- Parsers in sequence are the script that hands them out in order, if that ends as the function of all data does. -/
theorem inSequence_eq_meaning {f : List Value → Except Fault Value} {last : List Value → Script}
    (ends : ∀ data input, (last data).meaning input = Run.ofExcept do return .success (← f data) input)
    (ps : List Parser) (given : List Value) : inSequence f ps given = (Script.inOrder last ps given).meaning := by
  induction ps generalizing given with
  | nil =>
    funext input
    rw [Script.inOrder, ends, inSequence]
    cases f given.reverse <;> rfl
  | cons p ps ih => simp only [inSequence_cons, Script.inOrder, Script.meaning, ih]

end Parser

end ParseKit
