import ParseKit.Parser.Basic
import ParseKit.Value.Arithmetic

/-!
Parsers built from others. A failure is a result like any other: it is passed on or replaced.
-/

namespace ParseKit

namespace Parser

def map (f : Value → Except Fault Value) (p : Parser) : Parser := fun input => do
  match ← p input with
  | .failure expected actual => return .failure expected actual
  | .success data rest => return .success (← Run.ofExcept (f data)) rest

def choiceExpectation : Value := .ofString "oneOf"

def firstOf : List Parser → Parser
  | [] => fun input => pure (.failure choiceExpectation input)
  | p :: ps => fun input => do
    match ← p input with
    | .success data rest => return .success data rest
    | .failure _ _ => firstOf ps input

/-- Several parsers in sequence, each on what the one before it has left; `done` holds the data so far,
the latest first. -/
def inSequence (f : List Value → Except Fault Value) : List Parser → List Value → Parser
  | [], done => fun input => do return .success (← Run.ofExcept (f done.reverse)) input
  | p :: ps, done => fun input => do
    match ← p input with
    | .failure expected actual => return .failure expected actual
    | .success data rest => inSequence f ps (data :: done) rest

def apply (f : List Value → Except Fault Value) (ps : List Parser) : Parser := inSequence f ps []

def collect (ps : List Parser) : Parser := apply (fun data => .ok (.list data)) ps

def label (p : Parser) (expected : Value) : Parser := fun input => do
  match ← p input with
  | .failure _ actual => return .failure expected actual
  | .success data rest => return .success data rest

def keepFirst : List Value → Except Fault Value
  | [data, _] => .ok data
  | _ => .error .typeMismatch

def lexeme (junk p : Parser) : Parser := apply keepFirst [p, junk]

/-- The record that a repetition makes if it stops because an item took nothing. -/
def zeroWidthRecord (count : Nat) : LogRecord where
  logger := "pcomb.parsing.combinators".toList
  level := .debug
  message := "Zero-width match after ".toList ++ Text.ofNat count
    ++ " item(s); stopping repetition".toList

/-- Repeats a parser on an input of `size` elements, until it fails or takes nothing. The data and the
events so far are held with the latest first. -/
def manyFrom (p : Parser) (size count : Nat) (done : List Value) (events : List Event) (input : Value) :
    Run Outcome :=
  let run := p input
  let events := run.events.reverse ++ events
  match run.result with
  | .error fault => ⟨events.reverse, .error fault⟩
  | .ok (.failure _ _) => ⟨events.reverse, .ok (.success (.list done.reverse) input)⟩
  | .ok (.success data rest) =>
    match rest.length? with
    | none => ⟨events.reverse, .error .typeMismatch⟩
    | some size' =>
      if size' < size then manyFrom p size' (count + 1) (data :: done) events rest
      else
        ⟨(.record (zeroWidthRecord count) :: events).reverse, .ok (.success (.list done.reverse) input)⟩
termination_by size

section rounds

variable {p : Parser} {size count : Nat} {done : List Value} {events heard : List Event} {input : Value}

theorem manyFrom_of_fault {fault : Fault} (given : p input = ⟨heard, .error fault⟩) :
    manyFrom p size count done events input = ⟨events.reverse ++ heard, .error fault⟩ := by
  rw [manyFrom, given]
  simp

theorem manyFrom_of_failure {expected actual : Value} (given : p input = ⟨heard, .ok (.failure expected actual)⟩) :
    manyFrom p size count done events input =
      ⟨events.reverse ++ heard, .ok (.success (.list done.reverse) input)⟩ := by
  rw [manyFrom, given]
  simp

theorem manyFrom_of_success {data rest : Value} {size' : Nat} (given : p input = ⟨heard, .ok (.success data rest)⟩)
    (measured : rest.length? = some size') (shorter : size' < size) :
    manyFrom p size count done events input =
      manyFrom p size' (count + 1) (data :: done) (heard.reverse ++ events) rest := by
  rw [manyFrom, given]
  simp [measured, shorter]

end rounds

/-- Repeats a parser until it fails, and gives the list of what it gave. An item that takes nothing ends
the repetition and does not count. -/
def many (p : Parser) : Parser := fun input =>
  match input.length? with
  | some size => manyFrom p size 0 [] [] input
  | none => do
    match ← p input with
    | .failure _ _ => return .success (.list []) input
    | .success _ _ => Run.fault .typeMismatch

def bind (p : Parser) (f : Value → Except Fault Parser) : Parser := fun input => do
  match ← p input with
  | .failure expected actual => return .failure expected actual
  | .success data rest => (← Run.ofExcept (f data)) rest

def spy (name : Text) (p : Parser) : Parser := fun input => do
  Run.tell (.call name input)
  p input

/-- Gives nothing and puts a sequence in front of the input. -/
def inject (front : Value) : Parser := fun input => do
  return .success .none (← Run.ofExcept (Value.operate .add front input))

/-- A parser that refers to itself, at most `depth` times inside one another. -/
def fixpoint : Nat → (Parser → Parser) → Parser
  | 0, _ => fun _ => Run.fault .tooDeep
  | depth + 1, f => fun input => f (fixpoint depth f) input

end Parser

end ParseKit
