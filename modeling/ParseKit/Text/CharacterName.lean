import ParseKit.Text.Basic

/-!
Names of characters.
-/

namespace ParseKit

/-- The character that a name stands for. -/
abbrev CharacterNames := Text → Option Char

namespace CharacterName

def signs : List (String × Char) :=
  [("SPACE", ' '), ("EXCLAMATION MARK", '!'), ("QUOTATION MARK", '"'), ("NUMBER SIGN", '#'),
    ("DOLLAR SIGN", '$'), ("PERCENT SIGN", '%'), ("AMPERSAND", '&'), ("APOSTROPHE", '\''),
    ("LEFT PARENTHESIS", '('), ("RIGHT PARENTHESIS", ')'), ("ASTERISK", '*'), ("PLUS SIGN", '+'),
    ("COMMA", ','), ("HYPHEN-MINUS", '-'), ("FULL STOP", '.'), ("SOLIDUS", '/'),
    ("DIGIT ZERO", '0'), ("DIGIT ONE", '1'), ("DIGIT TWO", '2'), ("DIGIT THREE", '3'),
    ("DIGIT FOUR", '4'), ("DIGIT FIVE", '5'), ("DIGIT SIX", '6'), ("DIGIT SEVEN", '7'),
    ("DIGIT EIGHT", '8'), ("DIGIT NINE", '9'), ("COLON", ':'), ("SEMICOLON", ';'),
    ("LESS-THAN SIGN", '<'), ("EQUALS SIGN", '='), ("GREATER-THAN SIGN", '>'),
    ("QUESTION MARK", '?'), ("COMMERCIAL AT", '@'), ("LEFT SQUARE BRACKET", '['),
    ("REVERSE SOLIDUS", '\\'), ("RIGHT SQUARE BRACKET", ']'), ("CIRCUMFLEX ACCENT", '^'),
    ("LOW LINE", '_'), ("GRAVE ACCENT", '\x60'), ("LEFT CURLY BRACKET", '\x7b'),
    ("VERTICAL LINE", '|'), ("RIGHT CURLY BRACKET", '\x7d'), ("TILDE", '~')]

def letters : Text := "ABCDEFGHIJKLMNOPQRSTUVWXYZ".toList

/-- The names of the printable characters of ASCII, in capital or small letters. -/
def ascii : CharacterNames := fun name =>
  let named := signs.map fun sign => (sign.1.toList, sign.2)
  let capitals := letters.map fun c => ("LATIN CAPITAL LETTER ".toList ++ [c], c)
  let smalls := letters.map fun c => ("LATIN SMALL LETTER ".toList ++ [c], c.toLower)
  (named ++ capitals ++ smalls).lookup (Text.upperAscii name)

end CharacterName

end ParseKit
