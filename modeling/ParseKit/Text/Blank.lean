import ParseKit.Text.Ranges

/-!
Blank characters: the white space of Unicode 14 together with the four separators U+001C to U+001F.
-/

namespace ParseKit

namespace Blank

def table : Ranges :=
  [(0x9, 0xD), (0x1C, 0x20), (0x85, 0x85), (0xA0, 0xA0), (0x1680, 0x1680), (0x2000, 0x200A),
   (0x2028, 0x2029), (0x202F, 0x202F), (0x205F, 0x205F), (0x3000, 0x3000)]

def holds (code : Nat) : Bool := table.contains code

end Blank

end ParseKit
