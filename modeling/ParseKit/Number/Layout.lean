import ParseKit.Text.Basic
import ParseKit.Number.Shortest

/-!
How a double precision number is laid out as text, as a record of decisions.
-/

namespace ParseKit

structure Layout where
  /-- least exponent of the leading digit that is written positionally -/
  plainFrom : Int
  /-- first exponent of the leading digit that is no longer written positionally -/
  plainBelow : Int
  /-- what stands before the exponent -/
  mark : Char
  /-- least number of digits of the exponent, which always has a sign -/
  width : Nat
  infinity : Text
  notANumber : Text

namespace Layout

/-- Decimal digits with the point behind the first `whole` of them; a missing fraction is one zero. -/
def positional (digits : Text) (whole : Int) : Text :=
  if whole ≤ 0 then '0' :: '.' :: List.replicate (-whole).toNat '0' ++ digits
  else
    let count := whole.toNat
    if digits.length ≤ count then
      digits ++ List.replicate (count - digits.length) '0' ++ ['.', '0']
    else digits.take count ++ '.' :: digits.drop count

/-- An exponent with its sign and at least `width` digits. -/
def exponentText (layout : Layout) (exponent : Int) : Text :=
  let digits := Text.ofNat exponent.natAbs
  (if exponent < 0 then '-' else '+') ::
    (List.replicate (layout.width - digits.length) '0' ++ digits)

/-- One digit, the other digits behind a point if there are any, and the exponent. -/
def scientific (layout : Layout) (digits : Text) (exponent : Int) : Text :=
  let fraction := match digits.drop 1 with
    | [] => []
    | others => '.' :: others
  digits.take 1 ++ fraction ++ layout.mark :: layout.exponentText exponent

def decimal (layout : Layout) (d : Decimal) : Text :=
  let digits := Text.ofNat d.digits
  let lead := d.exponent + digits.length - 1
  if layout.plainFrom ≤ lead ∧ lead < layout.plainBelow then positional digits (lead + 1)
  else layout.scientific digits lead

def render (layout : Layout) : Binary64 → Text
  | .nan => layout.notANumber
  | .infinite negative => if negative then '-' :: layout.infinity else layout.infinity
  | .finite negative mantissa exponent _ =>
    let body := if mantissa = 0 then "0.0".toList else layout.decimal (.shortest mantissa exponent)
    if negative then '-' :: body else body

end Layout

end ParseKit
