import ParseKit.Parser.Script
import ParseKit.Value.Conversion

/-!
Descriptions of parsers as data: terms for values, routines for functions, steps of scripts, and plans
for parsers.
-/

namespace ParseKit

inductive Builtin where
  | id
  | list
  | tuple
  | pair
  | dict
  | length
  | display
  | reverse
  | upper
  | concat
  | equal
  | integer
  | add
  | mul
  /-- an operation between its operands -/
  | between
  | describe
  | render
  | toNumber
  | fold
  deriving DecidableEq

mutual

inductive Term where
  | value (v : Value)
  | list (items : List Term)
  | tuple (items : List Term)
  | dict (entries : List (Term × Term))
  /-- a sequence several times over -/
  | times (body : Term) (count : Int)
  | variable (name : Text)
  | call (f : Routine) (args : List Term)

inductive Routine where
  | builtin (f : Builtin)
  /-- the same value for all arguments -/
  | const (body : Term)
  /-- one of the arguments -/
  | nth (i : Int)
  /-- an element of the argument -/
  | item (index : Term)
  | raise (fault : Fault)
  /-- one function behind the other -/
  | compose (fs : List Routine)

end

mutual

inductive Plan where
  | literal (start : Term)
  /-- a pattern and its switches; the pattern may be compiled beforehand -/
  | matching (pattern flags : Term) (compiled : Option Flags)
  | endOfInput
  | succeed (value : Term)
  | map (f : Routine) (p : Plan)
  | firstOf (ps : List Plan)
  | apply (f : Routine) (ps : List Plan)
  | collect (ps : List Plan)
  | label (p : Plan) (expected : Term)
  | lexeme (junk p : Plan)
  | many (p : Plan)
  /-- the plan `next` is built when the variable has its value -/
  | bind (p : Plan) (name : Text) (next : Plan)
  | script (steps : List Step) (cleanup : Option Text)
  /-- a parser that exists already -/
  | ready (p : Parser)
  | spy (name : Text) (p : Plan)
  | fail (expected : Term)
  | inject (front : Term)
  /-- a plan that may refer to itself by name -/
  | recursive (name : Text) (p : Plan)
  | reference (name : Text)
  /-- a value in the place of a parser -/
  | value (v : Term)

inductive Step where
  | await (p : Plan) (name : Option Text)
  | assign (name : Text) (value : Term)
  | note (value : Term)
  | branch (condition : Term) (yes no : List Step)
  | repeated (count : Term) (body : List Step)
  | done (value : Term)
  | raise (fault : Fault)

end

end ParseKit
