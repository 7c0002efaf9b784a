/-!
Text is a list of characters, so that a length, a cut and a suffix of a text are those of the list. A character is any code
point but the halves of surrogate pairs, U+D800 to U+DFFF: a string that holds such a half by itself is no text.
-/

namespace ParseKit

abbrev Text := List Char

namespace Text

def join (separator : Text) : List Text → Text
  | [] => []
  | [piece] => piece
  | piece :: pieces => piece ++ separator ++ join separator pieces

def ofNat (n : Nat) : Text := Nat.toDigits 10 n

def ofInt : Int → Text
  | .ofNat n => ofNat n
  | .negSucc n => '-' :: ofNat (n + 1)

/-- The lowercase hexadecimal digits of `n`, padded on the left with zeros to `width`. -/
def ofHex (width n : Nat) : Text :=
  let digits := Nat.toDigits 16 n
  List.replicate (width - digits.length) '0' ++ digits

/-- Drops the leading characters that satisfy `test`, and the trailing ones. -/
def trim (test : Char → Bool) (s : Text) : Text :=
  ((s.dropWhile test).reverse.dropWhile test).reverse

/-- The first occurrence of `needle` splits a text into what stands before and after it. -/
def splitFirst (needle : Char) : Text → Option (Text × Text)
  | [] => none
  | c :: s => if c = needle then some ([], s) else (splitFirst needle s).map fun r => (c :: r.1, r.2)

/-- The pieces between the occurrences of `needle`; always at least one piece. -/
def splitAll (needle : Char) : Text → List Text
  | [] => [[]]
  | c :: s =>
    if c = needle then [] :: splitAll needle s
    else match splitAll needle s with
      | [] => [[c]]
      | piece :: pieces => (c :: piece) :: pieces

def upperAscii (s : Text) : Text := s.map Char.toUpper

def lowerAscii (s : Text) : Text := s.map Char.toLower

end Text

end ParseKit
