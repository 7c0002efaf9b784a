import ParseKit.Text.Basic

/-!
The switches of a pattern.
-/

namespace ParseKit

/-- The switches under which a pattern is read and matched. -/
structure Flags where
  /-- character classes and case know ASCII only -/
  ascii : Bool := false
  /-- case is ignored -/
  ignoreCase : Bool := false
  /-- character classes of byte patterns follow the locale, which is the ASCII one here -/
  locale : Bool := false
  /-- line anchors match at every line -/
  multiline : Bool := false
  /-- the dot matches a line feed too -/
  dotAll : Bool := false
  /-- character classes and case know every script -/
  unicode : Bool := false
  /-- blanks and comments in the pattern are skipped -/
  verbose : Bool := false
  /-- repetitions are refused -/
  template : Bool := false
  deriving DecidableEq

namespace Flags

/-- The switches with their letters, in the order in which they are listed. -/
def letters (flags : Flags) : List Char :=
  [(flags.ascii, 'A'), (flags.ignoreCase, 'I'), (flags.locale, 'L'), (flags.multiline, 'M'),
    (flags.dotAll, 'S'), (flags.unicode, 'U'), (flags.verbose, 'X')].filterMap
      fun (on, letter) => if on then some letter else none

/-- The switches with the names by which a pattern shows them, in the order in which it does. -/
def names (flags : Flags) : List String :=
  [(flags.template, "re.TEMPLATE"), (flags.ignoreCase, "re.IGNORECASE"), (flags.locale, "re.LOCALE"),
    (flags.multiline, "re.MULTILINE"), (flags.dotAll, "re.DOTALL"), (flags.unicode, "re.UNICODE"),
    (flags.verbose, "re.VERBOSE"), (flags.ascii, "re.ASCII")].filterMap
      fun (on, name) => if on then some name else none

def ofInt (n : Int) : Flags :=
  let bit (weight : Int) : Bool := (n / weight) % 2 = 1
  { template := bit 1, ignoreCase := bit 2, locale := bit 4, multiline := bit 8, dotAll := bit 16,
    unicode := bit 32, verbose := bit 64, ascii := bit 256 }

/-- The single switch of a letter as it stands in a list of letters. -/
def ofLetter? : Char → Option Flags
  | 'A' => some { ascii := true }
  | 'I' => some { ignoreCase := true }
  | 'L' => some { locale := true }
  | 'M' => some { multiline := true }
  | 'S' => some { dotAll := true }
  | 'U' => some { unicode := true }
  | 'X' => some { verbose := true }
  | _ => none

/-- The single switch of a letter as it stands inside a pattern. -/
def ofInlineLetter? : Char → Option Flags
  | 'a' => some { ascii := true }
  | 'i' => some { ignoreCase := true }
  | 'L' => some { locale := true }
  | 'm' => some { multiline := true }
  | 's' => some { dotAll := true }
  | 't' => some { template := true }
  | 'u' => some { unicode := true }
  | 'x' => some { verbose := true }
  | _ => none

def zip (f : Bool → Bool → Bool) (a b : Flags) : Flags where
  ascii := f a.ascii b.ascii
  ignoreCase := f a.ignoreCase b.ignoreCase
  locale := f a.locale b.locale
  multiline := f a.multiline b.multiline
  dotAll := f a.dotAll b.dotAll
  unicode := f a.unicode b.unicode
  verbose := f a.verbose b.verbose
  template := f a.template b.template

def union : Flags → Flags → Flags := zip (· || ·)

def inter : Flags → Flags → Flags := zip (· && ·)

/-- The switches of the first that are off in the second. -/
def diff : Flags → Flags → Flags := zip (fun a b => a && !b)

def isEmpty (flags : Flags) : Bool := flags = {}

/-- The three switches that say which characters a class knows. -/
def kinds : Flags := { ascii := true, locale := true, unicode := true }

/-- The switches inside a group that turns some on and some off. One kind of class replaces another. -/
def within (flags on off : Flags) : Flags :=
  let base := if (on.inter kinds).isEmpty then flags else flags.diff kinds
  (base.union on).diff off

end Flags

end ParseKit
