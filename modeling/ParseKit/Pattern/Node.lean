import ParseKit.Pattern.Flags

/-!
The structure of a pattern.
-/

namespace ParseKit

namespace Pattern

inductive Category where
  | digit
  | blank
  | word
  deriving DecidableEq

inductive Member where
  | code (n : Nat)
  | range (first last : Nat)
  | category (kind : Category) (negated : Bool)
  deriving DecidableEq

inductive Anchor where
  | lineStart
  | lineEnd
  | textStart
  | textEnd
  | boundary
  | noBoundary
  deriving DecidableEq

/-- In which order the numbers of repetitions are tried. -/
inductive Mode where
  /-- most first -/
  | greedy
  /-- fewest first -/
  | reluctant
  /-- only the most, each repetition in its first way -/
  | possessive
  deriving DecidableEq

inductive Direction where
  | ahead
  /-- backwards over a text of a length within the given bounds -/
  | behind (least most : Nat)
  deriving DecidableEq

inductive Node where
  /-- one symbol, with its number -/
  | literal (code : Nat)
  /-- one symbol, a line feed only under `dotAll` -/
  | any
  /-- one symbol of a set or, if negated, outside of it -/
  | set (negated : Bool) (members : List Member)
  | anchor (kind : Anchor)
  /-- what the numbered group has matched -/
  | reference (group : Nat)
  | sequence (items : List Node)
  /-- ordered alternatives -/
  | choice (branches : List Node)
  /-- at least `least` times, at most `most` times if that is given -/
  | repetition (mode : Mode) (least : Nat) (most : Option Nat) (body : Node)
  /-- a numbered group -/
  | group (index : Nat) (body : Node)
  /-- other switches inside -/
  | switched (on off : Flags) (body : Node)
  /-- only the first way in which the body matches -/
  | atomic (body : Node)
  /-- a condition on the surroundings that consumes nothing -/
  | look (direction : Direction) (negated : Bool) (body : Node)
  /-- by whether the numbered group has matched -/
  | conditional (group : Nat) (yes no : Node)

namespace Node

/-- A sequence, where a single item stands for itself. -/
def ofItems : List Node → Node
  | [item] => item
  | items => .sequence items

def ofBranches : List Node → Node
  | [branch] => branch
  | branches => .choice branches

end Node

abbrev Width := Nat × Nat

def Width.limit : Nat := Nat.pow 2 64

namespace Node

mutual

/-- The bounds on the number of symbols matched, where `groups` gives those of the numbered groups. -/
def width (groups : Nat → Width) : Node → Width
  | .literal _ | .any | .set .. => (1, 1)
  | .anchor _ | .look .. => (0, 0)
  | .reference index => groups index
  | .sequence items =>
    let (least, most) := widthSum groups items
    (min least Width.limit, min most Width.limit)
  | .choice branches =>
    let (least, most) := widthHull groups branches
    (min least Width.limit, min most Width.limit)
  | .repetition _ least most body =>
    let (low, high) := width groups body
    (min (low * least) Width.limit,
      match most with
      | some count => min (high * count) Width.limit
      | none => if high = 0 then 0 else Width.limit)
  | .group _ body | .switched _ _ body | .atomic body => width groups body
  | .conditional _ yes no =>
    let (least, most) := width groups yes
    let (least', most') := width groups no
    (min least least', max most most')

def widthSum (groups : Nat → Width) : List Node → Width
  | [] => (0, 0)
  | item :: items =>
    let (least, most) := width groups item
    let (least', most') := widthSum groups items
    (least + least', most + most')

def widthHull (groups : Nat → Width) : List Node → Width
  | [] => (Width.limit, 0)
  | branch :: branches =>
    let (least, most) := width groups branch
    let (least', most') := widthHull groups branches
    (min least least', max most most')

end

end Node

end Pattern

end ParseKit
