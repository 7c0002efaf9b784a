import ParseKit.Arithmetic
import ParseKit.Plan.Basic

/-!
The values and functions that terms and routines describe.
-/

namespace ParseKit

/-- Variables with their values; the first of a name counts. -/
abbrev Variables := List (Text × Value)

abbrev Function := List Value → Except Fault Value

namespace Builtin

/-- What a function gives for its arguments; a wrong number of them is a fault. -/
def apply : Builtin → Function
  | .id, [x] => .ok x
  | .list, xs => .ok (.list xs)
  | .tuple, xs => .ok (.tuple xs)
  | .pair, [a, b] => .ok (.tuple [a, b])
  | .dict, [key, value] => if key.isKey then .ok (.dict [(key, value)]) else .error .typeMismatch
  | .length, [x] => match x.length? with
    | some n => .ok (.int n)
    | none => .error .typeMismatch
  | .display, [x] => x.display.map .text
  | .reverse, [x] => x.reverse
  | .upper, [x] => x.upper
  | .concat, xs => (Value.concat xs).map .text
  | .equal, [a, b] => .ok (.bool (a.equal b))
  | .integer, [x] => x.toInteger.map .int
  | .add, [a, b] => Value.operate .add a b
  | .mul, [a, b] => Value.operate .mul a b
  | .between, [a, f, b] => Arithmetic.calculate a f b
  | .describe, [x] => x.describe.map .text
  | .render, [x] => x.render.map .text
  | .toNumber, [x] => x.toNumber
  | .fold, [first, rest] => Arithmetic.fold first rest
  | _, _ => .error .typeMismatch

end Builtin

/-- The argument at an index; a negative one counts from the end. -/
def Function.nth (i : Int) : Function := fun args => Value.pick "tuple " args i

/-- One function behind the other; the first takes all of the arguments. -/
def Function.compose : List Function → Function
  | [] => fun args => Builtin.apply .id args
  | f :: fs => fun args => do fs.foldlM (fun x g => g [x]) (← f args)

mutual

def Term.eval (vars : Variables) : Term → Except Fault Value
  | .value v => .ok v
  | .list items => (Term.evalItems vars items).map .list
  | .tuple items => (Term.evalItems vars items).map .tuple
  | .dict entries => (Term.evalEntries vars entries).map Value.ofEntries
  | .times body count => do Value.operate .mul (← Term.eval vars body) (.int count)
  | .variable name => match vars.lookup name with
    | some v => .ok v
    | none => .error (.missingKey (Quoted.text name))
  | .call f args => do
    let function ← Routine.function vars f
    function (← Term.evalItems vars args)

def Term.evalItems (vars : Variables) : List Term → Except Fault (List Value)
  | [] => .ok []
  | item :: items => do
    let first ← Term.eval vars item
    return first :: (← Term.evalItems vars items)

def Term.evalEntries (vars : Variables) : List (Term × Term) → Except Fault (List (Value × Value))
  | [] => .ok []
  | (key, value) :: entries => do
    let k ← Term.eval vars key
    let v ← Term.eval vars value
    return (k, v) :: (← Term.evalEntries vars entries)

def Routine.function (vars : Variables) : Routine → Except Fault Function
  | .builtin f => .ok f.apply
  | .const body => do
    let value ← Term.eval vars body
    return fun _ => .ok value
  | .nth i => .ok (Function.nth i)
  | .item index => do
    let key ← Term.eval vars index
    return fun
      | [x] => x.element key
      | _ => .error .typeMismatch
  | .raise fault => .ok fun _ => .error fault
  | .compose fs => return Function.compose (← Routine.functions vars fs)

def Routine.functions (vars : Variables) : List Routine → Except Fault (List Function)
  | [] => .ok []
  | f :: fs => do
    let first ← Routine.function vars f
    return first :: (← Routine.functions vars fs)

end

end ParseKit
