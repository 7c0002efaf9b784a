import ParseKit.Pattern.Matcher
import ParseKit.Pattern.Reader

/-!
Compiled patterns.
-/

namespace ParseKit

inductive Source where
  | text (s : Text)
  | bytes (b : List UInt8)
  deriving DecidableEq

namespace Source

def isText : Source → Bool
  | .text _ => true
  | .bytes _ => false

def characters : Source → Text
  | .text s => s
  | .bytes b => Quoted.asText b

end Source

structure Pattern where
  source : Source
  flags : Flags
  node : Pattern.Node

namespace Pattern

def compile (characters : CharacterNames) (source : Source) (flags : Flags) : Except Refusal Pattern := do
  let (node, flags) ← read characters source.isText source.characters flags
  return { source, flags, node }

/-- Patterns are equal if they were compiled from the same source with the same switches. -/
def same (p q : Pattern) : Bool := p.source = q.source && p.flags = q.flags

def matchText (p : Pattern) (s : Text) : Option Nat := p.node.matchLength Char.toNat p.flags s

def matchBytes (p : Pattern) (b : List UInt8) : Option Nat := p.node.matchLength UInt8.toNat p.flags b

end Pattern

end ParseKit
