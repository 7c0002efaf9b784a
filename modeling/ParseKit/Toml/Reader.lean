import ParseKit.Toml.Draft
import ParseKit.Toml.Number

/-!
Reading documents: lines with keys and data, in the table of the last header. Readers take a text and
give what they read with the rest of the text.
-/

namespace ParseKit

namespace Toml

abbrev Reader (α : Type) := Text → Except Flaw (α × Text)

def isBlank (c : Char) : Bool := c = ' ' || c = '\t'

def skipBlanks (s : Text) : Text := s.dropWhile isBlank

/-- Characters that no comment and no text may hold; lines may only end within texts of several lines. -/
def isIllegal (lines : Bool) (c : Char) : Bool :=
  (c.toNat < 32 || c = '\x7f') && c != '\t' && !(lines && c = '\n')

def skipComment : Text → Except Flaw Text
  | '#' :: s =>
    if (s.takeWhile (· ≠ '\n')).any (isIllegal false) then .error .malformed
    else .ok (s.dropWhile (· ≠ '\n'))
  | s => .ok s

/-- Skips blanks, ends of lines and comments; `commenting` tells whether the text starts in a comment. -/
def skipSpace (commenting : Bool) : Text → Except Flaw Text
  | [] => .ok []
  | c :: s =>
    if c = '\n' then skipSpace false s
    else if commenting then if isIllegal false c then .error .malformed else skipSpace true s
    else if isBlank c then skipSpace false s
    else if c = '#' then skipSpace true s
    else .ok (c :: s)

/-- The character with a number given in `count` hexadecimal digits. -/
def numbered (count : Nat) : Reader Text := fun s =>
  let digits := s.take count
  let code := valueIn 16 digits
  if digits.length = count ∧ digits.all isHexDigit ∧ code.isValidChar then
    .ok ([Char.ofNat code], s.drop count)
  else .error .malformed

def escaped? (c : Char) : Option Char :=
  [('b', '\x08'), ('t', '\t'), ('n', '\n'), ('f', '\x0c'), ('r', '\x0d'), ('e', '\x1b'), ('"', '"'),
    ('\\', '\\')].lookup c

/-- What follows a backslash. In a text of several lines it may swallow the end of a line and all blanks
behind it. -/
def escape (lines : Bool) : Reader Text
  | [] => .error .malformed
  | c :: s =>
    if c = 'x' then numbered 2 s
    else if c = 'u' then numbered 4 s
    else if c = 'U' then numbered 8 s
    else if lines ∧ (isBlank c ∨ c = '\n') then
      match skipBlanks (c :: s) with
      | [] => .ok ([], [])
      | '\n' :: rest => .ok ([], rest.dropWhile fun c => isBlank c || c = '\n')
      | _ => .error .malformed
    else match escaped? c with
      | some c => .ok ([c], s)
      | none => .error .malformed

/-- A text with escapes, up to and with its closing quotes; the first argument bounds its parts. -/
def quotedText (lines : Bool) : Nat → Reader Text
  | 0, _ => .error .malformed
  | _ + 1, [] => .error .malformed
  | fuel + 1, c :: s =>
    if c = '\\' then do
      let (piece, rest) ← escape lines s
      let (text, rest) ← quotedText lines fuel rest
      return (piece ++ text, rest)
    else if isIllegal lines c then .error .malformed
    else if c = '"' ∧ !lines then .ok ([], s)
    else if c = '"' ∧ s.take 2 = ['"', '"'] then .ok ([], s.drop 2)
    else do
      let (text, rest) ← quotedText lines fuel s
      return (c :: text, rest)

/-- A text without escapes on one line, up to and with its closing quote. -/
def plainText : Reader Text := fun s =>
  let text := s.takeWhile (· ≠ '\'')
  match s.dropWhile (· ≠ '\'') with
  | [] => .error .malformed
  | _ :: rest => if text.any (isIllegal false) then .error .malformed else .ok (text, rest)

/-- A text without escapes, up to and with its three closing quotes. -/
def plainLines : Reader Text
  | [] => .error .malformed
  | c :: s =>
    if c = '\'' ∧ s.take 2 = ['\'', '\''] then .ok ([], s.drop 2)
    else if isIllegal true c then .error .malformed
    else do
      let (text, rest) ← plainLines s
      return (c :: text, rest)

/-- A text of several lines: the end of the first line does not count, and up to two quotes may stand in
front of the closing ones. -/
def textOfLines (quote : Char) (body : Reader Text) : Reader Text := fun s => do
  let (text, rest) ← body (match s with
    | '\n' :: s => s
    | s => s)
  let extra := (rest.take 2).takeWhile (· = quote)
  return (text ++ extra, rest.drop extra.length)

def isBare (c : Char) : Bool := c.isAlphanum || c = '-' || c = '_'

def keyPart : Reader Text
  | '"' :: s => quotedText false (s.length + 1) s
  | '\'' :: s => plainText s
  | s =>
    let part := s.takeWhile isBare
    if part = [] then .error .malformed else .ok (part, s.dropWhile isBare)

/-- The parts of a key behind a point; the first argument bounds their number. -/
def keyRest : Nat → Reader Key
  | 0, _ => .error .malformed
  | fuel + 1, s =>
    match skipBlanks s with
    | '.' :: s => do
      let (part, s) ← keyPart (skipBlanks s)
      let (parts, s) ← keyRest fuel s
      return (part :: parts, s)
    | s => .ok ([], s)

def key : Reader Key := fun s => do
  let (part, rest) ← keyPart s
  let (parts, rest) ← keyRest (s.length + 1) rest
  return (part :: parts, rest)

def keyWithMark : Reader Key := fun s => do
  match ← key s with
  | (key, '=' :: rest) => return (key, skipBlanks rest)
  | _ => .error .malformed

/-- A text in any of its four forms, or none of them. -/
def text? : Text → Option (Except Flaw (Text × Text))
  | '"' :: '"' :: '"' :: s => some (textOfLines '"' (quotedText true (s.length + 1)) s)
  | '\'' :: '\'' :: '\'' :: s => some (textOfLines '\'' plainLines s)
  | '"' :: s => some (quotedText false (s.length + 1) s)
  | '\'' :: s => some (plainText s)
  | _ => none

def scalar (s : Text) : Except Flaw (Datum × Text) :=
  match text? s with
  | some result => result.map fun (text, rest) => (.text text, rest)
  | none =>
    match s with
    | 't' :: 'r' :: 'u' :: 'e' :: rest => .ok (.boolean true, rest)
    | 'f' :: 'a' :: 'l' :: 's' :: 'e' :: rest => .ok (.boolean false, rest)
    | _ =>
      match moment? s with
      | some result => result
      | none => (number? s).getD (.error .malformed)

mutual

/-- A datum; the first argument bounds the number of its parts. -/
def datum : Nat → Reader Datum
  | 0, _ => .error .malformed
  | fuel + 1, '[' :: s => do
    let (items, rest) ← items fuel (← skipSpace false s)
    return (.array items, rest)
  | fuel + 1, '\x7b' :: s => do
    let (entries, rest) ← inlineEntries fuel [] (← skipSpace false s)
    return (.table (Draft.finishEntries entries), rest)
  | _ + 1, s => scalar s

/-- The items of an array, up to and with its closing bracket. -/
def items : Nat → Reader (List Datum)
  | 0, _ => .error .malformed
  | _ + 1, ']' :: s => .ok ([], s)
  | fuel + 1, s => do
    let (first, rest) ← datum fuel s
    match ← skipSpace false rest with
    | ']' :: rest => return ([first], rest)
    | ',' :: rest =>
      let (others, rest) ← items fuel (← skipSpace false rest)
      return (first :: others, rest)
    | _ => .error .malformed

/-- The entries of a table that stands in one place, up to and with its closing brace. -/
def inlineEntries : Nat → Draft.Entries → Reader Draft.Entries
  | 0, _, _ => .error .malformed
  | _ + 1, entries, '\x7d' :: s => .ok (entries, s)
  | fuel + 1, entries, s => do
    let (key, rest) ← keyWithMark s
    let (datum, rest) ← datum fuel rest
    let some entries := Draft.insert 0 datum key entries | .error .malformed
    match ← skipSpace false rest with
    | '\x7d' :: rest => return (entries, rest)
    | ',' :: rest => inlineEntries fuel entries (← skipSpace false rest)
    | _ => .error .malformed

end

structure Progress where
  /-- the number of headers so far -/
  part : Nat
  /-- the last header -/
  header : Key
  entries : Draft.Entries

def accept (p : Progress) (entries : Option Draft.Entries) : Except Flaw Progress :=
  match entries with
  | some entries => .ok { p with entries }
  | none => .error .malformed

def statement (p : Progress) : Reader Progress
  | '[' :: '[' :: s => do
    let (header, rest) ← key (skipBlanks s)
    let p ← accept { p with part := p.part + 1, header } (Draft.appendTable header p.entries)
    match rest with
    | ']' :: ']' :: rest => return (p, rest)
    | _ => .error .malformed
  | '[' :: s => do
    let (header, rest) ← key (skipBlanks s)
    let p ← accept { p with part := p.part + 1, header } (Draft.openTable header p.entries)
    match rest with
    | ']' :: rest => return (p, rest)
    | _ => .error .malformed
  | s => do
    let (key, rest) ← keyWithMark s
    let (datum, rest) ← datum (2 * rest.length + 2) rest
    let p ← accept p (Draft.insertBelow p.part key datum p.header p.entries)
    return (p, rest)

/-- The lines of a document; the first argument bounds their number. -/
def lines : Nat → Progress → Text → Except Flaw Progress
  | 0, _, _ => .error .malformed
  | fuel + 1, p, s => do
    let s := skipBlanks s
    let (p, rest) ← match s with
      | [] | '\n' :: _ | '#' :: _ => .ok (p, s)
      | _ => statement p s
    match ← skipComment (skipBlanks rest) with
    | [] => return p
    | '\n' :: rest => lines fuel p rest
    | _ => .error .malformed

def unifyLines : Text → Text
  | '\x0d' :: '\n' :: s => '\n' :: unifyLines s
  | c :: s => c :: unifyLines s
  | [] => []

def ofText (s : Text) : Except Flaw Table := do
  let s := unifyLines s
  let p ← lines (s.length + 1) ⟨0, [], []⟩ s
  return Draft.finishEntries p.entries

end Toml

end ParseKit
