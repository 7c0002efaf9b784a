import ParseKit.Pattern.Flaw
import ParseKit.Text.CharacterName
import ParseKit.Text.Identifier

/-!
Reading a pattern symbol by symbol: a backslash and the character behind it are one symbol, and one
symbol is always looked at ahead of time, so that a backslash at the very end is found before anything
else about the symbol in front of it.
-/

namespace ParseKit

namespace Pattern

inductive Token where
  | plain (c : Char)
  | escaped (c : Char)
  deriving DecidableEq

namespace Token

def text : Token → Text
  | .plain c => [c]
  | .escaped c => ['\\', c]

def size : Token → Nat
  | .plain _ => 1
  | .escaped _ => 2

end Token

structure Reading where
  /-- the characters that escapes may name -/
  characters : CharacterNames
  isText : Bool
  /-- number of characters of the whole pattern -/
  size : Nat
  next : Option Token
  /-- the characters behind `next` -/
  rest : Text
  /-- number of characters in front of `rest` -/
  index : Nat
  flags : Flags
  /-- the widths of the groups, the whole pattern in front; none while a group is open -/
  widths : List (Option Width)
  names : List (Text × Nat)
  /-- number of groups at the start of the outermost look-behind that is being read -/
  behindFrom : Option Nat
  /-- numbers of groups that conditions refer to, each with its first place -/
  pending : List (Nat × Nat)

/-- A step of reading: it moves on, or refuses the pattern. -/
abbrev Read := StateT Reading (Except Refusal)

namespace Reading

def position (r : Reading) : Nat := r.index - (r.next.map Token.size).getD 0

def advance (r : Reading) : Except Refusal Reading :=
  match r.rest with
  | [] => .ok { r with next := none }
  | ['\\'] => .error (.malformed .escapeAtEnd (some (r.size - 1)))
  | '\\' :: c :: rest => .ok { r with next := some (.escaped c), rest := rest, index := r.index + 2 }
  | c :: rest => .ok { r with next := some (.plain c), rest := rest, index := r.index + 1 }

def start (characters : CharacterNames) (isText : Bool) (source : Text) (flags : Flags) : Except Refusal Reading :=
  advance
    { characters, isText, size := source.length, next := none, rest := source, index := 0, flags,
      widths := [none], names := [], behindFrom := none, pending := [] }

/-- A bound on the number of symbols that are left. -/
def fuel (r : Reading) : Nat := r.rest.length + 2

end Reading

namespace Read

/-- Refuses the pattern at `back` characters in front of the next symbol. -/
def fail {α : Type} (flaw : Flaw) (back : Nat := 0) : Read α := fun r =>
  .error (.malformed flaw (some (r.position - back)))

def failAt {α : Type} (flaw : Flaw) (position : Nat) : Read α := fun _ =>
  .error (.malformed flaw (some position))

def take : Read (Option Token) := fun r => do
  let r' ← r.advance
  return (r.next, r')

def accept (c : Char) : Read Bool := fun r =>
  if r.next = some (.plain c) then do
    let r' ← r.advance
    return (true, r')
  else .ok (false, r)

def peek : Read (Option Token) := fun r => .ok (r.next, r)

/-- Takes characters as long as they pass `test`, at most `limit` of them. -/
def takeWhile (test : Char → Bool) : Nat → Read Text
  | 0 => pure []
  | limit + 1 => do
    match ← peek with
    | some (.plain c) =>
      if test c then do
        let _ ← take
        return c :: (← takeWhile test limit)
      else return []
    | _ => return []

def takeAll (test : Char → Bool) : Read Text := do takeWhile test (← get).fuel

def nameLoop (terminator : Char) (kind : String) : Nat → Text → Read Text
  | 0, _ => fail .unexpectedEnd
  | fuel + 1, name => do
    match ← take with
    | none =>
      if name.isEmpty then fail (.missingName kind)
      else fail (.unterminatedName terminator) name.length
    | some token =>
      if token = .plain terminator then
        if name.isEmpty then fail (.missingName kind) 1 else return name
      else nameLoop terminator kind fuel (name ++ token.text)

def name (terminator : Char) (kind : String) : Read Text := do
  nameLoop terminator kind ((← get).fuel) []

def closed (group : Nat) : Read Bool := do
  return ((← get).widths[group]?.getD none).isSome

/-- Inside a look-behind, only groups that were complete before it can be referred to. -/
def checkLookBehind (group : Nat) : Read Unit := do
  match (← get).behindFrom with
  | none => pure ()
  | some limit =>
    if !(← closed group) then fail .openGroup
    else if limit ≤ group then fail .groupInsideLookBehind

def openGroup (name : Option Text) : Read Nat := do
  let r ← get
  let index := r.widths.length
  match name with
  | none => set { r with widths := r.widths ++ [none] }
  | some label =>
    match r.names.lookup label with
    | some earlier => fail (.redefinedGroup label index earlier) (label.length + 1)
    | none => set { r with widths := r.widths ++ [none], names := (label, index) :: r.names }
  return index

def widthOf (widths : List (Option Width)) (group : Nat) : Width := (widths[group]?.getD none).getD (0, 0)

def closeGroup (index : Nat) (body : Node) : Read Unit := modify fun r =>
  { r with widths := r.widths.set index (some (body.width (widthOf r.widths))) }

end Read

end Pattern

end ParseKit
