import ParseKit.Text.Basic

/-!
Texts in JSON, written in ASCII alone: every other character by its UTF-16 units. The same is done with code points that are
no characters, the halves of pairs, so that a pair of them is written like the character that it stands for.
-/

namespace ParseKit

namespace Json

def unit (n : Nat) : Text := '\\' :: 'u' :: Text.ofHex 4 n

/-- Code points that have a mark of their own. -/
def marks : List (Nat × Char) :=
  [(0x22, '"'), (0x5C, '\\'), (0x0A, 'n'), (0x0D, 'r'), (0x09, 't'), (0x0C, 'f'), (0x08, 'b')]

def escapeCode (n : Nat) : Text :=
  match marks.lookup n with
  | some mark => ['\\', mark]
  | none =>
    if 0x20 ≤ n ∧ n < 0x7F then [Char.ofNat n]
    else if n < 0x10000 then unit n
    else unit (0xD800 + (n - 0x10000) / 0x400) ++ unit (0xDC00 + (n - 0x10000) % 0x400)

def quoteCodes (codes : List Nat) : Text := '"' :: (codes.flatMap escapeCode ++ ['"'])

def quote (s : Text) : Text := quoteCodes (s.map Char.toNat)

end Json

end ParseKit
