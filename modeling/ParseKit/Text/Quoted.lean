import ParseKit.Text.Basic
import ParseKit.Text.Printable

/-!
Quoted forms of texts and of byte strings. A single quote encloses the content, unless the content has a
single quote and no double quote.
-/

namespace ParseKit

namespace Quoted

/-- The quote that encloses a content: the double quote only where it saves an escape. -/
def enclosing (content : Text) : Char :=
  if content.contains '\'' && !content.contains '"' then '"' else '\''

/-- Characters that are written as a backslash and a letter, whatever the quote. -/
def letter? : Char → Option Char
  | '\\' => some '\\'
  | '\n' => some 'n'
  | '\r' => some 'r'
  | '\t' => some 't'
  | _ => none

/-- A code point by its number, in the shortest of the three hexadecimal forms that holds it. -/
def byNumber (code : Nat) : Text :=
  if code < 0x100 then '\\' :: 'x' :: Text.ofHex 2 code
  else if code < 0x10000 then '\\' :: 'u' :: Text.ofHex 4 code
  else '\\' :: 'U' :: Text.ofHex 8 code

/-- One character inside quotes: as it is where it is printable, otherwise escaped. -/
def escape (quotes : List Char) (printable : Char → Bool) (c : Char) : Text :=
  match letter? c with
  | some l => ['\\', l]
  | none => if quotes.contains c then ['\\', c] else if printable c then [c] else byNumber c.toNat

/-- A content in quotes. The quote itself is escaped, and so are the quotes in `always`. -/
def enclose (printable : Char → Bool) (always : List Char) (content : Text) : Text :=
  let quote := enclosing content
  quote :: (content.flatMap (escape (quote :: always) printable) ++ [quote])

def text (s : Text) : Text := enclose (fun c => Printable.holds c.toNat) [] s

/-- The characters whose code points are the given bytes. -/
def asText (bytes : List UInt8) : Text := bytes.map fun b => Char.ofNat b.toNat

def isVisibleAscii (c : Char) : Bool := 0x20 ≤ c.toNat && c.toNat < 0x7F

/-- A byte string in quotes behind the letter `b`; only visible ASCII stands as it is. -/
def bytes (content : List UInt8) : Text := 'b' :: enclose isVisibleAscii [] (asText content)

/-- A changeable byte string; single quotes are escaped inside double ones too. -/
def bytearray (content : List UInt8) : Text :=
  "bytearray(b".toList ++ enclose isVisibleAscii ['\''] (asText content) ++ [')']

/-- A text with every character beyond ASCII written by its number. -/
def ascii (s : Text) : Text := s.flatMap fun c => if c.toNat < 0x80 then [c] else byNumber c.toNat

end Quoted

end ParseKit
