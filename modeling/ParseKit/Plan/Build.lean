import ParseKit.Parser.Combinators
import ParseKit.Plan.Evaluate

/-!
The parsers that plans describe.
-/

namespace ParseKit

/-- Parsers that plans refer to by name; the first of a name counts. -/
abbrev References := List (Text × Parser)

def Plan.depth : Nat := 1000

/-- A script whose body runs several times, each time with the variables that the time before left. -/
def Script.repeated (body : Variables → (Variables → Script) → Script) :
    Nat → Variables → (Variables → Script) → Script
  | 0, vars, next => next vars
  | count + 1, vars, next => body vars fun vars' => repeated body count vars' next

def Plan.precompile (pattern : Value) (flags : Flags) : Except Fault Value :=
  match pattern with
  | .text s => (Parser.compile CharacterName.ascii (.text s) flags).map .pattern
  | .bytes b => (Parser.compile CharacterName.ascii (.bytes b) flags).map .pattern
  | .pattern p => if flags.isEmpty then .ok (.pattern p) else .error .flagsOnCompiled
  | _ => .error .typeMismatch

mutual

/-- The parser of a plan. What the plan says about values is checked when it is built; the parsers that
it refers to are looked up when it runs. -/
def Plan.build : Plan → Variables → Except Fault (References → Parser)
  | .literal start, vars => do
    let p ← Parser.literal (← start.eval vars)
    return fun _ => p
  | .matching pattern flags compiled, vars => do
    let source ← pattern.eval vars
    let switches ← flags.eval vars
    let p ← match compiled with
      | some given => do Parser.ofPattern CharacterName.ascii (← Plan.precompile source given) switches
      | none => Parser.ofPattern CharacterName.ascii source switches
    return fun _ => p
  | .endOfInput, _ => .ok fun _ => Parser.endOfInput
  | .succeed value, vars => do
    let v ← value.eval vars
    return fun _ => Parser.succeed v
  | .map f p, vars => do
    let function ← f.function vars
    let make ← Plan.build p vars
    return fun refs => .map (fun x => function [x]) (make refs)
  | .firstOf ps, vars => do
    let makers ← Plan.buildAll ps vars
    return fun refs => .firstOf (makers.map fun make => make refs)
  | .apply f ps, vars => do
    let function ← f.function vars
    let makers ← Plan.buildAll ps vars
    return fun refs => .apply function (makers.map fun make => make refs)
  | .collect ps, vars => do
    let makers ← Plan.buildAll ps vars
    return fun refs => .collect (makers.map fun make => make refs)
  | .label p expected, vars => do
    let make ← Plan.build p vars
    let wanted ← expected.eval vars
    return fun refs => .label (make refs) wanted
  | .lexeme junk p, vars => do
    let makeJunk ← Plan.build junk vars
    let make ← Plan.build p vars
    return fun refs => .lexeme (makeJunk refs) (make refs)
  | .many p, vars => do
    let make ← Plan.build p vars
    return fun refs => .many (make refs)
  | .bind p name next, vars => do
    let make ← Plan.build p vars
    return fun refs => .bind (make refs) fun data => do
      let makeNext ← Plan.build next ((name, data) :: vars)
      return makeNext refs
  | .script steps cleanup, vars =>
    .ok fun refs => .script (Step.scriptOf steps refs vars fun _ => .done .none) cleanup
  | .ready p, _ => .ok fun _ => p
  | .spy name p, vars => do
    let make ← Plan.build p vars
    return fun refs => .spy name (make refs)
  | .fail expected, vars => do
    let wanted ← expected.eval vars
    return fun _ => Parser.fail wanted
  | .inject front, vars => do
    let value ← front.eval vars
    return fun _ => .inject value
  | .recursive name p, vars => do
    let make ← Plan.build p vars
    return fun refs => .fixpoint Plan.depth fun self => make ((name, self) :: refs)
  | .reference name, _ => .ok fun refs =>
    match refs.lookup name with
    | some p => p
    | none => fun _ => Run.fault (.missingKey (Quoted.text name))
  | .value v, vars => do
    let _ ← v.eval vars
    return fun _ => Parser.notCallable

def Plan.buildAll : List Plan → Variables → Except Fault (List (References → Parser))
  | [], _ => .ok []
  | p :: ps, vars => do
    let first ← Plan.build p vars
    return first :: (← Plan.buildAll ps vars)

def Step.scriptOfOne : Step → References → Variables → (Variables → Script) → Script
  | .await p name, refs, vars, next =>
    match Plan.build p vars with
    | .error fault => .raise fault
    | .ok make => .await (make refs) fun data =>
      next (match name with
        | some label => (label, data) :: vars
        | none => vars)
  | .assign name value, _, vars, next =>
    match value.eval vars with
    | .error fault => .raise fault
    | .ok v => next ((name, v) :: vars)
  | .note value, _, vars, next =>
    match value.eval vars with
    | .error fault => .raise fault
    | .ok v => .note v (next vars)
  | .branch condition yes no, refs, vars, next =>
    match condition.eval vars with
    | .error fault => .raise fault
    | .ok v => if v.isTrue then Step.scriptOf yes refs vars next else Step.scriptOf no refs vars next
  | .repeated count body, refs, vars, next =>
    match (count.eval vars).map Number.ofValue? with
    | .error fault => .raise fault
    | .ok (some (.int n)) =>
      Script.repeated (fun vars' next' => Step.scriptOf body refs vars' next') n.toNat vars next
    | .ok _ => .raise .typeMismatch
  | .done value, _, vars, _ =>
    match value.eval vars with
    | .error fault => .raise fault
    | .ok v => .done v
  | .raise fault, _, _, _ => .raise fault

def Step.scriptOf : List Step → References → Variables → (Variables → Script) → Script
  | [], _, vars, next => next vars
  | step :: steps, refs, vars, next =>
    Step.scriptOfOne step refs vars fun vars' => Step.scriptOf steps refs vars' next

end

namespace Plan

def isParser : Plan → Bool
  | .value _ => false
  | _ => true

/-- Runs the parser of a plan on each of some inputs, or says why there is no such parser. -/
def runAll (plan : Plan) (inputs : List Value) : Except Fault (List (Run Outcome)) := do
  let make ← plan.build []
  return inputs.map (make [])

/-- Like `runAll`, where a failure is a fault. -/
def parseAll (plan : Plan) (inputs : List Value) : Except Fault (List (Run Parsed)) := do
  let make ← plan.build []
  return inputs.map fun input =>
    if plan.isParser then (make []).parse input else Run.fault .typeCheck

end Plan

end ParseKit
