import ParseKit.Pattern.Reading

/-!
What a backslash and the character behind it stand for.
-/

namespace ParseKit

namespace Pattern

namespace Escape

/-- Control characters and the backslash by their letters. -/
def control? : Char → Option Nat
  | 'a' => some 7
  | 'b' => some 8
  | 'f' => some 12
  | 'n' => some 10
  | 'r' => some 13
  | 't' => some 9
  | 'v' => some 11
  | '\\' => some 92
  | _ => none

/-- Classes of characters by their letters, in upper case for the characters outside. -/
def category? : Char → Option Member
  | 'd' => some (.category .digit false)
  | 'D' => some (.category .digit true)
  | 's' => some (.category .blank false)
  | 'S' => some (.category .blank true)
  | 'w' => some (.category .word false)
  | 'W' => some (.category .word true)
  | _ => none

def anchor? : Char → Option Anchor
  | 'A' => some .textStart
  | 'b' => some .boundary
  | 'B' => some .noBoundary
  | 'Z' => some .textEnd
  | _ => none

def isOctal (c : Char) : Bool := '0' ≤ c && c ≤ '7'

def isHex (c : Char) : Bool :=
  ('0' ≤ c && c ≤ '9') || ('a' ≤ c && c ≤ 'f') || ('A' ≤ c && c ≤ 'F')

def isLetter (c : Char) : Bool := ('a' ≤ c && c ≤ 'z') || ('A' ≤ c && c ≤ 'Z')

def digitValue (c : Char) : Nat :=
  if c ≤ '9' then c.toNat - 48 else if c ≤ 'F' then c.toNat - 55 else c.toNat - 87

def value (base : Nat) (digits : Text) : Nat := digits.foldl (fun n c => n * base + digitValue c) 0

/-- A character by exactly `count` hexadecimal digits behind a letter. -/
def byHex (letter : Char) (count : Nat) : Read Nat := do
  let digits ← Read.takeWhile isHex count
  let escape := '\\' :: letter :: digits
  if digits.length ≠ count then Read.fail (.incompleteEscape escape) escape.length
  else
    let code := value 16 digits
    if 0x10FFFF < code then Read.fail (.badEscape escape) escape.length else return code

/-- A character by its name. -/
def byName : Read Nat := do
  if !(← Read.accept '\x7b') then Read.fail .missingBrace
  else
    let name ← Read.name '\x7d' "character name"
    match (← get).characters name with
    | some c => return c.toNat
    | none => Read.fail (.undefinedCharacter name) (name.length + 4)

/-- The escapes that mean the same inside and outside of sets: characters by number or name, and
characters that stand for themselves. -/
def common (c : Char) : Read Nat := do
  let isText := (← get).isText
  if c = 'x' then byHex c 2
  else if c = 'u' ∧ isText then byHex c 4
  else if c = 'U' ∧ isText then byHex c 8
  else if c = 'N' ∧ isText then byName
  else if isLetter c || c.isDigit then Read.fail (.badEscape ['\\', c]) 2
  else return c.toNat

/-- An octal number has at most three digits and fits a byte. -/
def octal (digits : Text) : Read Nat := do
  let code := value 8 digits
  if 0o377 < code then Read.fail (.octalRange ('\\' :: digits)) (digits.length + 1) else return code

def inSet (c : Char) : Read Member := do
  match control? c, category? c with
  | some code, _ => return .code code
  | none, some member => return member
  | none, none =>
    if isOctal c then return .code (← octal (c :: (← Read.takeWhile isOctal 2)))
    else return .code (← common c)

/-- A reference to a complete group; `size` is the length of the escape. -/
def reference (group size : Nat) : Read Node := do
  if group < (← get).widths.length then
    if !(← Read.closed group) then Read.fail .openGroup size
    else
      Read.checkLookBehind group
      return .reference group
  else Read.fail (.invalidReference group) (size - 1)

/-- An escape that starts with a digit other than zero: three octal digits are a character, anything
else is a reference of at most two digits. -/
def numbered (first : Char) : Read Node := do
  match ← Read.takeWhile Char.isDigit 1 with
  | [second] =>
    let third ← if isOctal first && isOctal second then Read.takeWhile isOctal 1 else pure []
    match third with
    | [] => reference (value 10 [first, second]) 3
    | digits => return .literal (← octal (first :: second :: digits))
  | _ => reference (value 10 [first]) 2

def outside (c : Char) : Read Node := do
  match category? c, anchor? c, control? c with
  | some member, _, _ => return .set false [member]
  | none, some kind, _ => return .anchor kind
  | none, none, some code => return .literal code
  | none, none, none =>
    if c = '0' then return .literal (value 8 (← Read.takeWhile isOctal 2))
    else if c.isDigit then numbered c
    else return .literal (← common c)

end Escape

end Pattern

end ParseKit
