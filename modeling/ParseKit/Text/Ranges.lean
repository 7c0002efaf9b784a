/-!
Sets of code points as ascending lists of closed ranges.
-/

namespace ParseKit

/-- Closed ranges of code points, ascending and apart. -/
abbrev Ranges := List (Nat × Nat)

def Ranges.contains : Ranges → Nat → Bool
  | [], _ => false
  | (first, last) :: rest, code => if code ≤ last then first ≤ code else Ranges.contains rest code

end ParseKit
