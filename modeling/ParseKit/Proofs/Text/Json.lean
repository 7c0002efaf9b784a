import ParseKit.Text.Json
import ParseKit.Toml.Number

/-!
JSON read again. A reader of objects whose members are strings, with all escapes and blanks that JSON has; main statement:
it reads a quoted text as the text, whatever its characters are, and the quoted text is visible ASCII.
-/

namespace ParseKit

namespace Text

open Toml (isHexDigit digitValue valueIn)

theorem valueIn_append (base : Nat) (first : Text) (c : Char) : valueIn base (first ++ [c]) = valueIn base first * base + digitValue c := by
  simp [valueIn]

theorem digitValue_digitChar {n : Nat} (bound : n < 16) : digitValue n.digitChar = n ∧ isHexDigit n.digitChar := by
  revert n
  decide

theorem valueIn_toDigits (n : Nat) : valueIn 16 (Nat.toDigits 16 n) = n ∧ ∀ c ∈ Nat.toDigits 16 n, isHexDigit c := by
  induction n using Nat.strongRecOn with
  | ind n ih =>
    rw [Nat.toDigits_eq_if (by decide)]
    split
    · rename_i bound
      obtain ⟨value, digit⟩ := digitValue_digitChar bound
      exact ⟨by simp [valueIn, value], by simpa using digit⟩
    · rename_i bound
      obtain ⟨value, digit⟩ := digitValue_digitChar (Nat.mod_lt n (by decide : 0 < 16))
      obtain ⟨above, digits⟩ := ih (n / 16) (by omega)
      refine ⟨?_, fun c member => ?_⟩
      · rw [valueIn_append, above, value]
        omega
      · rcases List.mem_append.mp member with member | member
        · exact digits c member
        · cases List.mem_singleton.mp member
          exact digit

theorem valueIn_zeros (base count : Nat) (digits : Text) : valueIn base (List.replicate count '0' ++ digits) = valueIn base digits := by
  induction count with
  | zero => rfl
  | succ count ih =>
    rw [List.replicate_succ, List.cons_append]
    simpa [valueIn, digitValue] using ih

theorem ofHex_digits {width n : Nat} (positive : 0 < width) (bound : n < Nat.pow 16 width) :
    (ofHex width n).length = width ∧ (∀ c ∈ ofHex width n, isHexDigit c) ∧ valueIn 16 (ofHex width n) = n := by
  obtain ⟨value, digits⟩ := valueIn_toDigits n
  have short : (Nat.toDigits 16 n).length ≤ width := (Nat.length_toDigits_le_iff (by decide) positive).mpr bound
  refine ⟨?_, fun c member => ?_, ?_⟩
  · rw [ofHex, List.length_append, List.length_replicate]
    omega
  · rcases List.mem_append.mp member with member | member
    · cases List.eq_of_mem_replicate member
      rfl
    · exact digits c member
  · rw [ofHex, valueIn_zeros, value]

end Text

namespace Json

open Toml (isHexDigit valueIn)

/-- What may stand between the parts of a JSON text. -/
def isBlank (c : Char) : Bool := c = ' ' || c = '\t' || c = '\n' || c = '\x0d'

def skipBlanks (s : Text) : Text := s.dropWhile isBlank

/-- A UTF-16 unit in four hexadecimal digits. -/
def readUnit (s : Text) : Option (Nat × Text) :=
  let digits := s.take 4
  if digits.length = 4 ∧ digits.all isHexDigit then some (valueIn 16 digits, s.drop 4) else none

/-- The character of a unit, or of two units of which the second one is escaped as well. -/
def readUnits (s : Text) : Option (Char × Text) := do
  let (unit, rest) ← readUnit s
  if 0xD800 ≤ unit ∧ unit < 0xDC00 then
    match rest with
    | '\\' :: 'u' :: rest => do
      let (low, rest) ← readUnit rest
      if 0xDC00 ≤ low ∧ low < 0xE000 then
        return (Char.ofNat (0x10000 + (unit - 0xD800) * 0x400 + (low - 0xDC00)), rest)
      else none
    | _ => none
  else if 0xDC00 ≤ unit ∧ unit < 0xE000 then none
  else return (Char.ofNat unit, rest)

def marked? (mark : Char) : Option Char :=
  [('"', '"'), ('\\', '\\'), ('/', '/'), ('b', '\x08'), ('f', '\x0c'), ('n', '\n'), ('r', '\x0d'), ('t', '\t')].lookup mark

/-- A character of a string, as it is or escaped. -/
def readChar : Text → Option (Char × Text)
  | [] => none
  | '\\' :: 'u' :: s => readUnits s
  | '\\' :: mark :: s => (marked? mark).map fun c => (c, s)
  | c :: s => if c = '\\' ∨ c = '"' ∨ c.toNat < 0x20 then none else some (c, s)

/-- The characters up to and with the closing quote; the first argument bounds their number. -/
def readChars : Nat → Text → Option (Text × Text)
  | 0, _ => none
  | _ + 1, '"' :: s => some ([], s)
  | fuel + 1, s => do
    let (c, s) ← readChar s
    let (cs, s) ← readChars fuel s
    return (c :: cs, s)

def readString : Text → Option (Text × Text)
  | '"' :: s => readChars (s.length + 1) s
  | _ => none

def readMember (s : Text) : Option ((Text × Text) × Text) := do
  let (key, s) ← readString (skipBlanks s)
  match skipBlanks s with
  | ':' :: s => do
    let (value, s) ← readString (skipBlanks s)
    return ((key, value), s)
  | _ => none

/-- The members up to and with the closing brace; the first argument bounds their number. -/
def readMembers : Nat → Text → Option (List (Text × Text) × Text)
  | 0, _ => none
  | fuel + 1, s => do
    let (member, s) ← readMember s
    match skipBlanks s with
    | ',' :: s => do
      let (members, s) ← readMembers fuel s
      return (member :: members, s)
    | '\x7d' :: s => return ([member], s)
    | _ => none

/-- The members of an object, if a text is one whose members are all strings. -/
def readObject (s : Text) : Option (List (Text × Text)) :=
  match skipBlanks s with
  | '\x7b' :: s => do
    let (members, rest) ← match skipBlanks s with
      | '\x7d' :: rest => some ([], rest)
      | _ => readMembers (s.length + 1) s
    if skipBlanks rest = [] then return members else none
  | _ => none

/-- Characters of ASCII that are seen, and the space. -/
def IsVisible (c : Char) : Prop := 0x20 ≤ c.toNat ∧ c.toNat < 0x7F

instance (c : Char) : Decidable (IsVisible c) := inferInstanceAs (Decidable (_ ∧ _))

section units

variable {n : Nat} {rest : Text}

theorem readUnit_ofHex (bound : n < 0x10000) (rest : Text) : readUnit (Text.ofHex 4 n ++ rest) = some (n, rest) := by
  obtain ⟨length, digits, value⟩ := Text.ofHex_digits (by decide : 0 < 4) bound
  have front : (Text.ofHex 4 n ++ rest).take 4 = Text.ofHex 4 n := List.take_left' length
  have back : (Text.ofHex 4 n ++ rest).drop 4 = rest := List.drop_left' length
  rw [readUnit, front, back, if_pos ⟨length, by simpa using digits⟩, value]

/-- A character is no half of a pair of units. -/
theorem toNat_bounds (c : Char) : (c.toNat < 0xD800 ∨ 0xE000 ≤ c.toNat) ∧ c.toNat < 0x110000 := by
  have valid := c.valid
  simp only [UInt32.isValidChar, Nat.isValidChar] at valid
  change (c.val.toNat < 0xD800 ∨ 0xE000 ≤ c.val.toNat) ∧ c.val.toNat < 0x110000
  omega

theorem readUnits_single {c : Char} (bound : c.toNat < 0x10000) (rest : Text) :
    readUnits (Text.ofHex 4 c.toNat ++ rest) = some (c, rest) := by
  obtain ⟨apart, -⟩ := toNat_bounds c
  have notHigh : ¬ (0xD800 ≤ c.toNat ∧ c.toNat < 0xDC00) := by omega
  have notLow : ¬ (0xDC00 ≤ c.toNat ∧ c.toNat < 0xE000) := by omega
  simp [readUnits, readUnit_ofHex bound, notHigh, notLow]

theorem readUnits_two {high low : Nat} (isHigh : 0xD800 ≤ high ∧ high < 0xDC00) (isLow : 0xDC00 ≤ low ∧ low < 0xE000) (rest : Text) :
    readUnits (Text.ofHex 4 high ++ '\\' :: 'u' :: (Text.ofHex 4 low ++ rest)) =
      some (Char.ofNat (0x10000 + (high - 0xD800) * 0x400 + (low - 0xDC00)), rest) := by
  have highBound : high < 0x10000 := by omega
  have lowBound : low < 0x10000 := by omega
  simp [readUnits, readUnit_ofHex highBound, readUnit_ofHex lowBound, isHigh, isLow]

theorem readUnits_pair {c : Char} (beyond : 0x10000 ≤ c.toNat) (rest : Text) :
    readUnits (Text.ofHex 4 (0xD800 + (c.toNat - 0x10000) / 0x400) ++
      '\\' :: 'u' :: (Text.ofHex 4 (0xDC00 + (c.toNat - 0x10000) % 0x400) ++ rest)) = some (c, rest) := by
  obtain ⟨-, limit⟩ := toNat_bounds c
  have whole : 0x10000 + (0xD800 + (c.toNat - 0x10000) / 0x400 - 0xD800) * 0x400 +
      (0xDC00 + (c.toNat - 0x10000) % 0x400 - 0xDC00) = c.toNat := by omega
  rw [readUnits_two (by omega) (by omega), whole, Char.ofNat_toNat]

end units

section escapes

theorem readChar_plain {c : Char} (visible : IsVisible c) (notQuote : c ≠ '"') (notMark : c ≠ '\\') (rest : Text) :
    readChar (c :: rest) = some (c, rest) := by
  have printable : ¬ c.toNat < 0x20 := Nat.not_lt.mpr visible.1
  rw [readChar.eq_def]
  split
  · rename_i given
    cases given
  · rename_i given
    cases given
    exact absurd rfl notMark
  · rename_i given
    cases given
    exact absurd rfl notMark
  · rename_i given
    cases given
    rw [if_neg (by simp [notQuote, notMark, printable])]

theorem readChar_unit (n : Nat) (rest : Text) : readChar (unit n ++ rest) = readUnits (Text.ofHex 4 n ++ rest) := rfl

theorem readChar_units (high low : Nat) (rest : Text) :
    readChar ((unit high ++ unit low) ++ rest) =
      readUnits (Text.ofHex 4 high ++ '\\' :: 'u' :: (Text.ofHex 4 low ++ rest)) := by
  rw [List.append_assoc, readChar_unit, unit.eq_def low, List.cons_append, List.cons_append]

theorem marked?_of_mem_marks :
    ∀ entry ∈ marks, marked? entry.2 = some (Char.ofNat entry.1) ∧ entry.2 ≠ 'u' ∧ IsVisible entry.2 := by decide

/-- What stands for a character: a mark, the character, its unit, or its two units. -/
theorem escape_cases (c : Char) :
    (∃ mark, escapeCode c.toNat = ['\\', mark] ∧ marked? mark = some c ∧ mark ≠ 'u' ∧ IsVisible mark) ∨
    (escapeCode c.toNat = [c] ∧ IsVisible c ∧ c ≠ '"' ∧ c ≠ '\\') ∨
    (escapeCode c.toNat = unit c.toNat ∧ c.toNat < 0x10000) ∨
    (escapeCode c.toNat = unit (0xD800 + (c.toNat - 0x10000) / 0x400) ++ unit (0xDC00 + (c.toNat - 0x10000) % 0x400) ∧
      0x10000 ≤ c.toNat) := by
  cases found : marks.lookup c.toNat with
  | some mark =>
    obtain ⟨before, after, split, -⟩ := List.lookup_eq_some_iff.mp found
    obtain ⟨named, plain⟩ := marked?_of_mem_marks (c.toNat, mark) (split ▸ by simp)
    rw [Char.ofNat_toNat] at named
    exact .inl ⟨mark, by rw [escapeCode, found], named, plain⟩
  | none =>
    have apart {d : Char} (named : (marks.lookup d.toNat).isSome) : c ≠ d := by
      rintro rfl
      rw [found] at named
      cases named
    simp only [escapeCode, found]
    refine .inr ?_
    by_cases visible : 0x20 ≤ c.toNat ∧ c.toNat < 0x7F
    · exact .inl ⟨by rw [if_pos visible, Char.ofNat_toNat], visible, apart rfl, apart rfl⟩
    · rw [if_neg visible]
      by_cases single : c.toNat < 0x10000
      · exact .inr (.inl ⟨if_pos single, single⟩)
      · exact .inr (.inr ⟨if_neg single, Nat.not_lt.mp single⟩)

theorem readChar_mark {mark c : Char} (named : marked? mark = some c) (notUnit : mark ≠ 'u') (rest : Text) :
    readChar ('\\' :: mark :: rest) = some (c, rest) := by
  rw [readChar.eq_3 mark rest (by simpa using notUnit), named]
  rfl

theorem readChar_escape (c : Char) (rest : Text) : readChar (escapeCode c.toNat ++ rest) = some (c, rest) := by
  obtain ⟨mark, shape, named, notUnit, -⟩ | ⟨shape, visible, notQuote, notMark⟩ | ⟨shape, single⟩ | ⟨shape, beyond⟩ := escape_cases c
  · rw [shape]
    exact readChar_mark named notUnit rest
  · rw [shape]
    exact readChar_plain visible notQuote notMark rest
  · rw [shape, readChar_unit, readUnits_single single]
  · rw [shape, readChar_units, readUnits_pair beyond]

theorem isVisible_of_isHexDigit {c : Char} (digit : isHexDigit c) : IsVisible c := by
  simp only [isHexDigit, Char.isDigit, Bool.or_eq_true, Bool.and_eq_true, decide_eq_true_eq, Char.le_def, UInt32.le_iff_toNat_le,
    ge_iff_le] at digit
  change ((48 ≤ c.toNat ∧ c.toNat ≤ 57) ∨ (97 ≤ c.toNat ∧ c.toNat ≤ 102)) ∨ (65 ≤ c.toNat ∧ c.toNat ≤ 70) at digit
  simp only [IsVisible]
  omega

theorem unit_visible {n : Nat} (bound : n < 0x10000) : ∀ c ∈ unit n, IsVisible c := by
  obtain ⟨-, digits, -⟩ := Text.ofHex_digits (by decide : 0 < 4) bound
  refine List.forall_mem_cons.mpr ⟨by decide, List.forall_mem_cons.mpr ⟨by decide, fun c member => ?_⟩⟩
  exact isVisible_of_isHexDigit (digits c member)

theorem escape_visible (c : Char) : ∀ d ∈ escapeCode c.toNat, IsVisible d := by
  obtain ⟨mark, shape, -, -, visible⟩ | ⟨shape, visible, -, -⟩ | ⟨shape, single⟩ | ⟨shape, -⟩ := escape_cases c
  · rw [shape]
    exact List.forall_mem_cons.mpr ⟨by decide, by simpa using visible⟩
  · rw [shape]
    simpa using visible
  · rw [shape]
    exact unit_visible single
  · obtain ⟨-, limit⟩ := toNat_bounds c
    rw [shape]
    intro d member
    rcases List.mem_append.mp member with member | member
    · exact unit_visible (by omega) d member
    · exact unit_visible (by omega) d member

theorem quote_visible (s : Text) : ∀ c ∈ quote s, IsVisible c := by
  refine List.forall_mem_cons.mpr ⟨by decide, fun c member => ?_⟩
  rcases List.mem_append.mp member with member | member
  · obtain ⟨code, among, within⟩ := List.mem_flatMap.mp member
    obtain ⟨d, -, rfl⟩ := List.mem_map.mp among
    exact escape_visible d c within
  · cases List.mem_singleton.mp member
    decide

end escapes

section strings

variable {c : Char} {s rest : Text}

/-- No character of a string starts with a quote. -/
theorem readChars_cons (fuel : Nat) (read : readChar s = some (c, rest)) :
    readChars (fuel + 1) s = (readChars fuel rest).map fun found => (c :: found.1, found.2) := by
  have open? : ∀ s', s ≠ '"' :: s' := by
    rintro s' rfl
    cases read
  rw [readChars.eq_3 s fuel open?, read]
  cases found : readChars fuel rest <;> simp [found]

theorem readChars_escapes (s rest : Text) (fuel : Nat) (enough : s.length < fuel) :
    readChars fuel ((s.map Char.toNat).flatMap escapeCode ++ '"' :: rest) = some (s, rest) := by
  induction s generalizing fuel with
  | nil =>
    obtain ⟨fuel, rfl⟩ := Nat.exists_eq_add_of_lt enough
    rfl
  | cons c s ih =>
    obtain ⟨fuel, rfl⟩ := Nat.exists_eq_add_of_lt enough
    rw [List.map_cons, List.flatMap_cons, List.append_assoc, readChars_cons _ (readChar_escape c _), ih _ (by simp; omega)]
    rfl

theorem length_le_escapes (s : Text) : s.length ≤ ((s.map Char.toNat).flatMap escapeCode).length := by
  induction s with
  | nil => exact Nat.le_refl 0
  | cons c s ih =>
    have some? : escapeCode c.toNat ≠ [] := by
      intro empty
      have read := readChar_escape c []
      rw [empty] at read
      cases read
    have positive := List.length_pos_iff.mpr some?
    rw [List.map_cons, List.flatMap_cons, List.length_append, List.length_cons]
    omega

/-- A text in quotes is read as the text. -/
theorem readString_quote (s rest : Text) : readString (quote s ++ rest) = some (s, rest) := by
  have enough := length_le_escapes s
  rw [quote, quoteCodes, List.cons_append, List.append_assoc, List.singleton_append, readString,
    readChars_escapes s rest _ (by rw [List.length_append]; omega)]

@[simp] theorem skipBlanks_quote (s rest : Text) : skipBlanks (quote s ++ rest) = quote s ++ rest := rfl

@[simp] theorem skipBlanks_space (s : Text) : skipBlanks (' ' :: s) = skipBlanks s := rfl

end strings

section objects

variable (key value key' value' rest : Text)

theorem readMember_quote : readMember (quote key ++ ':' :: ' ' :: (quote value ++ rest)) = some ((key, value), rest) := by
  have colon : skipBlanks (':' :: ' ' :: (quote value ++ rest)) = ':' :: ' ' :: (quote value ++ rest) := rfl
  simp [readMember, readString_quote, colon]

theorem readMember_space (s : Text) : readMember (' ' :: s) = readMember s := rfl

theorem readObject_members {s rest : Text} {members : List (Text × Text)} (opens : s.head? = some '"') (blank : skipBlanks rest = [])
    (read : readMembers (s.length + 1) s = some (members, rest)) : readObject ('\x7b' :: s) = some members := by
  cases s with
  | nil => cases opens
  | cons c s =>
    cases opens
    have brace : skipBlanks ('\x7b' :: '"' :: s) = '\x7b' :: '"' :: s := rfl
    have start : skipBlanks ('"' :: s) = '"' :: s := rfl
    rw [List.length_cons] at read
    simp [readObject, brace, start, read, blank]

theorem readObject_two :
    readObject ('\x7b' :: (quote key ++ ':' :: ' ' :: (quote value ++ ',' :: ' ' :: (quote key' ++ ':' :: ' ' :: (quote value' ++
      ['\x7d']))))) = some [(key, value), (key', value')] := by
  have second (fuel : Nat) : readMembers (fuel + 1) (' ' :: (quote key' ++ ':' :: ' ' :: (quote value' ++ ['\x7d']))) =
      some ([(key', value')], []) := by
    rw [readMembers, readMember_space, readMember_quote]
    rfl
  have comma (s : Text) : skipBlanks (',' :: s) = ',' :: s := rfl
  have nothing : skipBlanks [] = [] := rfl
  refine readObject_members rfl nothing ?_
  rw [readMembers, readMember_quote]
  simp only [comma, Option.bind_eq_bind, Option.bind_some]
  rw [List.length_append, quote, quoteCodes, List.length_cons, Nat.add_right_comm, second]
  rfl

end objects

end Json

end ParseKit
