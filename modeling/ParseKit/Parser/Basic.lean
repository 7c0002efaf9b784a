import ParseKit.Parser.Outcome
import ParseKit.Run

/-!
Parsers, and those that are not built from others.
-/

namespace ParseKit

abbrev Parser := Value → Run Outcome

namespace Parser

/-- A value that is no parser, in the place of one. -/
def notCallable : Parser := fun _ => Run.fault .typeMismatch

def succeed (value : Value) : Parser := fun input => pure (.success value input)

def fail (expected : Value) : Parser := fun input => pure (.failure expected input)

/-- Whether an input begins with a sequence. Texts and byte strings are compared directly with their own
kind, everything else through a cut of the input. -/
def beginsWith (input start : Value) : Except Fault Bool :=
  match input, start with
  | .text s, .text t => .ok (t.isPrefixOf s)
  | .bytes a, .bytes b => .ok (b.isPrefixOf a)
  | _, _ =>
    match start.length? with
    | none => .error .typeMismatch
    | some count => match input.take? count with
      | none => .error .typeMismatch
      | some front => .ok (front.equal start)

theorem isPrefixOf_eq_decide {α : Type} [DecidableEq α] (start s : List α) :
    start.isPrefixOf s = decide (s.take start.length = start) := by
  rw [Bool.eq_iff_iff, decide_eq_true_iff, List.isPrefixOf_iff_prefix, List.prefix_iff_eq_take]
  exact eq_comm

/-- Comparing directly and comparing through a cut agree wherever both can be done. -/
theorem beginsWith_eq_equal {input start front : Value} {count : Nat} (measured : start.length? = some count)
    (taken : input.take? count = some front) : beginsWith input start = .ok (front.equal start) := by
  rw [beginsWith.eq_def]
  split
  · cases measured
    cases taken
    rw [isPrefixOf_eq_decide, Value.equal]
  · cases measured
    cases taken
    rw [isPrefixOf_eq_decide, Value.equal]
  · simp [measured, taken]

def rest (count : Nat) (input : Value) : Except Fault Value :=
  match input.drop? count with
  | some rest => .ok rest
  | none => .error .typeMismatch

def literalExpectation (start : Value) : Except Fault Value := do
  return .text ('\'' :: ((← start.render) ++ ['\'']))

/-- Takes a sequence from the start of the input, and fails with `expected` if it does not stand there. -/
def literalOr (expected start : Value) : Parser := fun input => Run.ofExcept do
  if ← beginsWith input start then
    return .success start (← rest (start.length?.getD 0) input)
  else return .failure expected input

def literal (start : Value) : Except Fault Parser := do
  if !start.isSequence then throw .typeCheck
  return literalOr (← literalExpectation start) start

section literal

variable {expected start input left : Value}

theorem literalOr_of_begins (begins : beginsWith input start = .ok true)
    (cut : rest (start.length?.getD 0) input = .ok left) :
    literalOr expected start input = ⟨[], .ok (.success start left)⟩ := by
  rw [literalOr, begins]
  simp only [cut]
  rfl

theorem literalOr_of_differs (begins : beginsWith input start = .ok false) :
    literalOr expected start input = ⟨[], .ok (.failure expected input)⟩ := by
  rw [literalOr, begins]
  rfl

theorem literalOr_success {data : Value}
    (ends : (literalOr expected start input).result = .ok (.success data left)) :
    beginsWith input start = .ok true ∧ data = start ∧ rest (start.length?.getD 0) input = .ok left := by
  obtain ⟨holds, begins, ends⟩ := Run.except_bind_eq_ok ends
  cases holds with
  | false => cases ends
  | true =>
    obtain ⟨behind, cut, ends⟩ := Run.except_bind_eq_ok ends
    cases ends
    exact ⟨begins, rfl, cut⟩

theorem literal_eq_ok {p : Parser} (made : literal start = .ok p) :
    start.isSequence ∧ ∃ expected, p = literalOr expected start := by
  cases sequence : start.isSequence with
  | false =>
    simp only [literal, sequence] at made
    cases made
  | true =>
    simp only [literal, sequence] at made
    obtain ⟨-, -, made⟩ := Run.except_bind_eq_ok made
    obtain ⟨expected, -, made⟩ := Run.except_bind_eq_ok made
    cases made
    exact ⟨rfl, expected, rfl⟩

theorem literal_of_render {shown : Text} (sequence : start.isSequence) (rendered : start.render = .ok shown) :
    literal start = .ok (literalOr (.text ('\'' :: (shown ++ ['\'']))) start) := by
  rw [literal, literalExpectation, sequence, rendered]
  rfl

end literal

/-- Takes what a pattern matches at the start of the input. A pattern of texts matches texts only, and
one of bytes byte strings of the fixed kind only. -/
def matching (p : Pattern) : Parser := fun input => pure <|
  match p.source, input with
  | .text _, .text s => match p.matchText s with
    | some count => .success (.text (s.take count)) (.text (s.drop count))
    | none => .failure (.pattern p) input
  | .bytes _, .bytes b => match p.matchBytes b with
    | some count => .success (.bytes (b.take count)) (.bytes (b.drop count))
    | none => .failure (.pattern p) input
  | _, _ => .failure (.pattern p) input

/-- A match cuts the input in two. -/
theorem matching_success {p : Pattern} {input data left : Value}
    (ends : (matching p input).result = .ok (.success data left)) :
    ∃ count, input.take? count = some data ∧ input.drop? count = some left := by
  simp only [matching, Run.pure_def, Except.ok.injEq] at ends
  split at ends
  · split at ends
    · cases ends
      exact ⟨_, rfl, rfl⟩
    · cases ends
  · split at ends
    · cases ends
      exact ⟨_, rfl, rfl⟩
    · cases ends
  · cases ends

/-- The switches that a value stands for: those of a number. -/
def switches (flags : Value) : Except Fault Flags :=
  match flags with
  | .int n => .ok (Flags.ofInt n)
  | .bool b => .ok (Flags.ofInt (if b then 1 else 0))
  | _ => .error .typeCheck

def compile (characters : CharacterNames) (source : Source) (flags : Flags) : Except Fault Pattern :=
  (Pattern.compile characters source flags).mapError (.refusedPattern source)

/-- The parser of a pattern, which may be given as its source. Only a source takes switches. -/
def ofPattern (characters : CharacterNames) (pattern flags : Value) : Except Fault Parser :=
  match pattern with
  | .text s => do return matching (← compile characters (.text s) (← switches flags))
  | .bytes b => do return matching (← compile characters (.bytes b) (← switches flags))
  | .pattern p => do
    let _ ← switches flags
    if flags.isTrue then throw .flagsOnCompiled else return matching p
  | _ => .error .typeCheck

def endOfInput : Parser := fun input =>
  match input.isEmpty? with
  | some true => pure (.success .none input)
  | some false => pure (.failure (.ofString "end of input") input)
  | none => Run.fault .typeMismatch

end Parser

end ParseKit
