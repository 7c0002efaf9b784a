import ParseKit.Text.Alphanumeric
import ParseKit.Text.Blank
import ParseKit.Text.CaseFold
import ParseKit.Text.DecimalDigit
import ParseKit.Pattern.Node

/-!
Matching a pattern at the start of a sequence of symbols. Alternatives and numbers of repetitions are
tried in order, and the first way in which everything fits is taken. The symbols are seen through their
numbers, so that the same matcher serves texts and bytes.
-/

namespace ParseKit

namespace Pattern

structure Cursor (α : Type) where
  /-- the symbols in front, nearest first -/
  before : List α
  after : List α
  /-- number of symbols in front -/
  offset : Nat
  /-- matched groups, the latest first -/
  groups : List (Nat × List α)

/-- What has to fit behind a position; the result is the position at the very end. -/
abbrev Continuation (α : Type) := Cursor α → Option (Cursor α)

abbrev Step (α : Type) := Cursor α → Continuation α → Option (Cursor α)

namespace Category

def isAsciiDigit (code : Nat) : Bool := 0x30 ≤ code && code ≤ 0x39

def isAsciiBlank (code : Nat) : Bool := code = 0x20 || (0x09 ≤ code && code ≤ 0x0D)

def isAsciiWord (code : Nat) : Bool :=
  isAsciiDigit code || (0x41 ≤ code && code ≤ 0x5A) || (0x61 ≤ code && code ≤ 0x7A) || code = 0x5F

/-- Whether a code belongs to a class, for every script or for ASCII only. -/
def holds (unicode : Bool) (kind : Category) (code : Nat) : Bool :=
  match kind, unicode with
  | .digit, true => DecimalDigit.holds code
  | .digit, false => isAsciiDigit code
  | .blank, true => Blank.holds code
  | .blank, false => isAsciiBlank code
  | .word, true => code = 0x5F || Alphanumeric.holds code
  | .word, false => isAsciiWord code

end Category

namespace Member

/-- Whether one of the variants of a code belongs to a member of a set. -/
def holds (unicode : Bool) (code : Nat) (variants : List Nat) : Member → Bool
  | .code n => variants.contains n
  | .range first last => variants.any fun v => first ≤ v && v ≤ last
  | .category kind negated => Category.holds unicode kind code != negated

end Member

/-- The codes that count as equal to the given one. -/
def variants (flags : Flags) (code : Nat) : List Nat :=
  if !flags.ignoreCase then [code]
  else if flags.unicode then CaseFold.variants code
  else CaseFold.variantsAscii code

def fold (flags : Flags) (code : Nat) : Nat :=
  if !flags.ignoreCase then code
  else if flags.unicode then CaseFold.lower code
  else CaseFold.lowerAscii code

/-- The test of a part of a pattern that matches exactly one symbol. -/
def Node.test? (flags : Flags) : Node → Option (Nat → Bool)
  | .literal n => some fun code => (variants flags code).contains n
  | .any => some fun code => flags.dotAll || code != 0x0A
  | .set negated members => some fun code =>
    members.any (Member.holds flags.unicode code (variants flags code)) != negated
  | .sequence [item] => test? flags item
  | _ => none

namespace Cursor

variable {α : Type}

def step (cursor : Cursor α) (symbol : α) (after : List α) : Cursor α :=
  { cursor with before := symbol :: cursor.before, after, offset := cursor.offset + 1 }

/-- The position `count` symbols back, if there are so many. -/
def back (cursor : Cursor α) (count : Nat) : Option (Cursor α) :=
  if cursor.offset < count then none
  else some
    { cursor with
      before := cursor.before.drop count
      after := (cursor.before.take count).reverse ++ cursor.after
      offset := cursor.offset - count }

def matched (cursor : Cursor α) (group : Nat) : Option (List α) := cursor.groups.lookup group

end Cursor

section

variable {α : Type} (code : α → Nat)

def one (test : Nat → Bool) : Step α := fun cursor next =>
  match cursor.after with
  | [] => none
  | symbol :: after => if test (code symbol) then next (cursor.step symbol after) else none

/-- The positions behind zero, one, two, … symbols that pass a test, the last one in front. -/
def sweep (test : Nat → Bool) : Option Nat → List α → Cursor α → List (Cursor α) → List (Cursor α)
  | some 0, _, cursor, found => cursor :: found
  | _, [], cursor, found => cursor :: found
  | limit, symbol :: after, cursor, found =>
    if test (code symbol) then
      sweep test (limit.map (· - 1)) after (cursor.step symbol after) (cursor :: found)
    else cursor :: found

def greedyOne (test : Nat → Bool) (least : Nat) (most : Option Nat) : Step α := fun cursor next =>
  let reached := sweep code test most cursor.after cursor []
  (reached.take (reached.length - least)).findSome? next

def possessiveOne (test : Nat → Bool) (least : Nat) (most : Option Nat) : Step α := fun cursor next =>
  let reached := sweep code test most cursor.after cursor []
  ((reached.take (reached.length - least)).take 1).findSome? next

/-- Tries what follows before each further symbol. -/
def reluctantFrom (test : Nat → Bool) (next : Continuation α) :
    Option Nat → List α → Cursor α → Option (Cursor α)
  | some 0, _, cursor => next cursor
  | _, [], cursor => next cursor
  | limit, symbol :: after, cursor =>
    match next cursor with
    | some final => some final
    | none =>
      if test (code symbol) then
        reluctantFrom test next (limit.map (· - 1)) after (cursor.step symbol after)
      else none

def reluctantOne (test : Nat → Bool) (least : Nat) (most : Option Nat) : Step α := fun cursor next =>
  match sweep code test (some least) cursor.after cursor [] with
  | [] => none
  | reached :: passed =>
    if passed.length = least then
      reluctantFrom code test next (most.map (· - least)) reached.after reached
    else none

end

section

variable {α : Type} (step : Step α)

/-- Exactly `count` repetitions. -/
def exactly : Nat → Step α
  | 0 => fun cursor next => next cursor
  | count + 1 => fun cursor next => step cursor fun cursor' => exactly count cursor' next

/-- Further repetitions, most first. A repetition that starts where the one before it started is not
tried, so `fuel` repetitions are enough where that many symbols are left. -/
def greedyMore : Nat → Option Nat → Option Nat → Step α
  | 0, _, _ => fun cursor next => next cursor
  | fuel + 1, budget, last => fun cursor next =>
    if budget = some 0 ∨ last = some cursor.offset then next cursor
    else
      match step cursor fun cursor' =>
        greedyMore fuel (budget.map (· - 1)) (some cursor.offset) cursor' next with
      | some final => some final
      | none => next cursor

/-- Further repetitions, fewest first, under the same condition. -/
def reluctantMore : Nat → Option Nat → Option Nat → Step α
  | 0, _, _ => fun cursor next => next cursor
  | fuel + 1, budget, last => fun cursor next =>
    match next cursor with
    | some final => some final
    | none =>
      if budget = some 0 ∨ last = some cursor.offset then none
      else step cursor fun cursor' =>
        reluctantMore fuel (budget.map (· - 1)) (some cursor.offset) cursor' next

/-- The first way in which a part of a pattern matches on its own. -/
def alone : Step α := fun cursor next =>
  match step cursor some with
  | some cursor' => next cursor'
  | none => none

/-- Further repetitions, each in its first way, as many as there are. -/
def possessiveMore : Nat → Option Nat → Option Nat → Cursor α → Cursor α
  | 0, _, _, cursor => cursor
  | fuel + 1, budget, last, cursor =>
    if budget = some 0 ∨ last = some cursor.offset then cursor
    else
      match step cursor some with
      | some cursor' => possessiveMore fuel (budget.map (· - 1)) (some cursor.offset) cursor'
      | none => cursor

def repeated (mode : Mode) (least : Nat) (most : Option Nat) : Step α := fun cursor next =>
  let budget := most.map (· - least)
  match mode with
  | .greedy => exactly step least cursor fun start =>
    greedyMore step (start.after.length + 1) budget none start next
  | .reluctant => exactly step least cursor fun start =>
    reluctantMore step (start.after.length + 1) budget none start next
  | .possessive => exactly (alone step) least cursor fun start =>
    next (possessiveMore step (start.after.length + 1) budget none start)

end

section

variable {α : Type} (code : α → Nat)

def isWord (flags : Flags) (symbol? : Option α) : Bool :=
  match symbol? with
  | some symbol => Category.holds flags.unicode .word (code symbol)
  | none => false

/-- Whether a condition on the position is met. Where the whole sequence is empty, there is neither a
boundary nor an absence of one. -/
def Anchor.holds (flags : Flags) (cursor : Cursor α) : Anchor → Bool
  | .textStart => cursor.before.isEmpty
  | .textEnd => cursor.after.isEmpty
  | .lineStart => match cursor.before with
    | [] => true
    | symbol :: _ => flags.multiline && code symbol = 0x0A
  | .lineEnd => match cursor.after with
    | [] => true
    | [symbol] => code symbol = 0x0A
    | symbol :: _ => flags.multiline && code symbol = 0x0A
  | .boundary =>
    !(cursor.before.isEmpty && cursor.after.isEmpty) &&
      isWord code flags cursor.before.head? != isWord code flags cursor.after.head?
  | .noBoundary =>
    !(cursor.before.isEmpty && cursor.after.isEmpty) &&
      isWord code flags cursor.before.head? == isWord code flags cursor.after.head?

/-- The symbols of a text that was matched before, in sequence. -/
def again (flags : Flags) : List α → Step α
  | [] => fun cursor next => next cursor
  | expected :: rest => fun cursor next =>
    match cursor.after with
    | [] => none
    | symbol :: after =>
      if fold flags (code symbol) = fold flags (code expected) then
        again flags rest (cursor.step symbol after) next
      else none

/-- The position from which a condition on the surroundings is tried. -/
def Direction.origin (cursor : Cursor α) : Direction → Option (Cursor α)
  | .ahead => some cursor
  | .behind least _ => cursor.back least

mutual

def Node.run (flags : Flags) : Node → Step α
  | .literal n => one code fun c => (variants flags c).contains n
  | .any => one code fun c => flags.dotAll || c != 0x0A
  | .set negated members => one code fun c =>
    members.any (Member.holds flags.unicode c (variants flags c)) != negated
  | .anchor kind => fun cursor next => if kind.holds code flags cursor then next cursor else none
  | .reference group => fun cursor next =>
    match cursor.matched group with
    | some text => again code flags text cursor next
    | none => none
  | .sequence items => runItems flags items
  | .choice branches => runBranches flags branches
  | .repetition mode least most body =>
    match body.test? flags with
    | some test => match mode with
      | .greedy => greedyOne code test least most
      | .reluctant => reluctantOne code test least most
      | .possessive => possessiveOne code test least most
    | none => repeated (Node.run flags body) mode least most
  | .group index body => fun cursor next =>
    Node.run flags body cursor fun cursor' =>
      let text := cursor.after.take (cursor'.offset - cursor.offset)
      next { cursor' with groups := (index, text) :: cursor'.groups }
  | .switched on off body => Node.run (flags.within on off) body
  | .atomic body => alone (Node.run flags body)
  | .look direction negated body => fun cursor next =>
    let found := (direction.origin cursor).bind fun origin => Node.run flags body origin some
    match found, negated with
    | some final, false => next { cursor with groups := final.groups }
    | none, true => next cursor
    | _, _ => none
  | .conditional group yes no => fun cursor next =>
    if (cursor.matched group).isSome then Node.run flags yes cursor next
    else Node.run flags no cursor next

def runItems (flags : Flags) : List Node → Step α
  | [] => fun cursor next => next cursor
  | item :: items => fun cursor next =>
    Node.run flags item cursor fun cursor' => runItems flags items cursor' next

/-- Matches the first alternative that fits together with what follows. -/
def runBranches (flags : Flags) : List Node → Step α
  | [] => fun _ _ => none
  | branch :: branches => fun cursor next =>
    match Node.run flags branch cursor next with
    | some final => some final
    | none => runBranches flags branches cursor next

end

def Node.matchLength (flags : Flags) (node : Node) (symbols : List α) : Option Nat :=
  (node.run code flags { before := [], after := symbols, offset := 0, groups := [] } some).map (·.offset)

end

end Pattern

end ParseKit
