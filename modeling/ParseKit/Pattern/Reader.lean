import ParseKit.Number.Numeral
import ParseKit.Pattern.Escape

/-!
The grammar of patterns: alternatives of sequences of items, where an item is a symbol, a set, a group
or a condition, and may be repeated.
-/

namespace ParseKit

namespace Pattern

namespace Reader

def repetitionLimit : Nat := 4294967295

def groupLimit : Nat := 1073741823

def isBlank (c : Char) : Bool := Numeral.isBlank c

def member : Token → Read Member
  | .escaped c => Escape.inSet c
  | .plain c => return .code c.toNat

/-- The members of a set up to and with its closing bracket; `here` is the place of the opening one. -/
def members (here : Nat) : Nat → List Member → Read (List Member)
  | 0, _ => Read.failAt .unterminatedSet here
  | fuel + 1, done => do
    match ← Read.take with
    | none => Read.failAt .unterminatedSet here
    | some token =>
      if token = .plain ']' ∧ done ≠ [] then return done
      else
        let first ← member token
        if ← Read.accept '-' then
          match ← Read.take with
          | none => Read.failAt .unterminatedSet here
          | some (.plain ']') => return done ++ [first, .code 45]
          | some token' =>
            let last ← member token'
            let bad : Read (List Member) :=
              Read.fail (.badRange token.text token'.text) (token.size + 1 + token'.size)
            match first, last with
            | .code low, .code high =>
              if high < low then bad else members here fuel (done ++ [.range low high])
            | _, _ => bad
        else members here fuel (done ++ [first])

/-- A set behind its opening bracket; a single character that is not excluded is a literal. -/
def set : Read Node := do
  let r ← get
  let negated ← Read.accept '^'
  let found ← members (r.position - 1) r.fuel []
  match found.eraseDups, negated with
  | [.code n], false => return .literal n
  | distinct, _ => return .set negated distinct

/-- Bounds behind an opening brace, up to and with the closing one. Nothing is taken if what follows
are no bounds. -/
def bounds : Read (Option (Nat × Option Nat)) := do
  let start ← get
  if start.next = some (.plain '\x7d') then return none
  else
    let low ← Read.takeAll Char.isDigit
    let high ← if ← Read.accept ',' then Read.takeAll Char.isDigit else pure low
    if !(← Read.accept '\x7d') then
      MonadState.set start
      return none
    else
      let least := Numeral.value low
      let most := if high.isEmpty then none else some (Numeral.value high)
      if repetitionLimit ≤ least then throw .repetitionTooLarge
      else match most with
        | none => return some (least, none)
        | some count =>
          if repetitionLimit ≤ count then throw .repetitionTooLarge
          else if count < least then Read.failAt .minimumExceedsMaximum start.position
          else return some (least, some count)

/-- How a repetition goes about it, as the sign behind its bounds tells. -/
def repetitionMode : Read Mode := do
  if ← Read.accept '?' then return .reluctant
  if ← Read.accept '+' then return .possessive
  return .greedy

/-- Repeats the last of the items, given in reverse; `here` is the place of the sign of repetition. -/
def repeatLast (here least : Nat) (most : Option Nat) (done : List Node) : Read (List Node) := do
  match done with
  | [] | .anchor _ :: _ => Read.failAt .nothingToRepeat here
  | .repetition .. :: _ => Read.failAt .multipleRepeat here
  | item :: before =>
    return .repetition (← repetitionMode) least most item :: before

/-- Skips symbols up to and with the given character; whether it was found. -/
def skipPast (terminator : Char) : Nat → Read Bool
  | 0 => return false
  | fuel + 1 => do
    match ← Read.take with
    | none => return false
    | some token => if token = .plain terminator then return true else skipPast terminator fuel

def isAlphabetic : Token → Bool
  | .plain c => c ≠ '_' && Identifier.starts.contains c.toNat
  | .escaped _ => false

/-- The switches that are turned on inside a pattern, starting with the symbol `token`, and the symbol
behind them. -/
def flagsOn : Nat → Token → Flags → Read (Flags × Char)
  | 0, _, _ => Read.fail .flagEndMissing
  | fuel + 1, token, on => do
    match token with
    | .escaped _ => Read.fail .flagEndMissing token.size
    | .plain c =>
      match Flags.ofInlineLetter? c with
      | none => Read.fail (if isAlphabetic token then .unknownFlag else .flagEndMissing) token.size
      | some flag =>
        let isText := (← get).isText
        if isText ∧ c = 'L' then Read.fail .localeInText
        else if !isText ∧ c = 'u' then Read.fail .unicodeInBytes
        else
          let on := on.union flag
          if !(flag.inter .kinds).isEmpty ∧ on.inter .kinds ≠ flag then Read.fail .flagKindClash
          else match ← Read.take with
            | none => Read.fail .flagEndMissing
            | some (.plain ')') => return (on, ')')
            | some (.plain '-') => return (on, '-')
            | some (.plain ':') => return (on, ':')
            | some token' => flagsOn fuel token' on

/-- The switches that are turned off inside a pattern, up to and with the colon. -/
def flagsOff : Nat → Token → Flags → Read Flags
  | 0, _, _ => Read.fail .flagColonMissing
  | fuel + 1, token, off => do
    let unknown : Flaw :=
      if isAlphabetic token then .unknownFlag
      else if off.isEmpty then .flagMissing else .flagColonMissing
    match token with
    | .escaped _ => Read.fail unknown token.size
    | .plain c =>
      match Flags.ofInlineLetter? c with
      | none => Read.fail unknown token.size
      | some flag =>
        if !(flag.inter .kinds).isEmpty then Read.fail .flagKindOff
        else
          let off := off.union flag
          match ← Read.take with
          | none => Read.fail .flagColonMissing
          | some (.plain ':') => return off
          | some token' => flagsOff fuel token' off

/-- Switches inside a pattern, starting with the symbol `token`. Those that end in a parenthesis hold for
the whole pattern and give nothing; the others are given as those turned on and those turned off. -/
def switches (token : Token) : Read (Option (Flags × Flags)) := do
  let fuel := (← get).fuel
  let (on, terminator) ← if token = .plain '-' then pure ({}, '-') else flagsOn fuel token {}
  if terminator = ')' then
    modify fun r => { r with flags := r.flags.union on }
    return none
  else if on.template then Read.fail .globalFlagOn 1
  else
    let off ← if terminator = '-' then
        match ← Read.take with
        | none => Read.fail .flagMissing
        | some token' => flagsOff fuel token' {}
      else pure {}
    if off.template then Read.fail .globalFlagOff 1
    else if !(on.inter off).isEmpty then Read.fail .flagOnAndOff 1
    else return some (on, off)

def close (here : Nat) : Read Unit := do
  if !(← Read.accept ')') then Read.failAt .unterminatedGroup here

def groupName (terminator : Char) : Read Text := do
  let name ← Read.name terminator "group name"
  if Identifier.holds name then return name
  else Read.fail (.badGroupName name) (name.length + 1)

def namedReference : Read Node := do
  let name ← groupName ')'
  match (← get).names.lookup name with
  | none => Read.fail (.unknownGroupName name) (name.length + 1)
  | some group =>
    if !(← Read.closed group) then Read.fail .openGroup (name.length + 1)
    else
      Read.checkLookBehind group
      return .reference group

/-- The group that a condition asks about, by its name or number. A number may be that of a group that
comes later. -/
def conditionGroup : Read Nat := do
  let name ← Read.name ')' "group name"
  let back := name.length + 1
  if Identifier.holds name then
    match (← get).names.lookup name with
    | none => Read.fail (.unknownGroupName name) back
    | some group => return group
  else match Numeral.readInt name with
    | .ok (.ofNat group) =>
      if group = 0 then Read.fail .badGroupNumber back
      else if groupLimit ≤ group then Read.fail (.invalidReference group) back
      else
        modify fun r =>
          if r.pending.any fun p => p.1 = group then r
          else { r with pending := r.pending ++ [(group, r.position - back)] }
        return group
    | _ => Read.fail (.badGroupName name) back

/-- What the symbols behind an opening parenthesis announce. -/
inductive Opening where
  /-- a group with a number and perhaps a name -/
  | captured (name : Option Text)
  | plain
  | atomic
  | switched (on off : Flags)
  | look (behind negated : Bool)
  | conditional (group : Nat)
  /-- a complete item -/
  | item (node : Node)
  | comment
  /-- switches for the whole pattern -/
  | global

/-- Reads what announces the kind of a group; `here` is the place of the opening parenthesis. -/
def opening (here : Nat) : Read Opening := do
  if !(← Read.accept '?') then return .captured none
  else match ← Read.take with
    | none => Read.fail .unexpectedEnd
    | some (.plain 'P') =>
      if ← Read.accept '<' then return .captured (some (← groupName '>'))
      else if ← Read.accept '=' then return .item (← namedReference)
      else match ← Read.take with
        | none => Read.fail .unexpectedEnd
        | some token => Read.fail (.unknownExtension ('P' :: token.text)) (token.size + 2)
    | some (.plain ':') => return .plain
    | some (.plain '#') =>
      if ← skipPast ')' (← get).fuel then return .comment
      else Read.failAt .unterminatedComment here
    | some (.plain '=') => return .look false false
    | some (.plain '!') => return .look false true
    | some (.plain '<') =>
      match ← Read.take with
      | none => Read.fail .unexpectedEnd
      | some (.plain '=') => return .look true false
      | some (.plain '!') => return .look true true
      | some token => Read.fail (.unknownExtension ('<' :: token.text)) (token.size + 2)
    | some (.plain '(') =>
      let group ← conditionGroup
      Read.checkLookBehind group
      return .conditional group
    | some (.plain '>') => return .atomic
    | some token =>
      let isSwitch : Bool := match token with
        | .plain c => c = '-' || (Flags.ofInlineLetter? c).isSome
        | .escaped _ => false
      if isSwitch then
        match ← switches token with
        | none => return .global
        | some (on, off) => return .switched on off
      else Read.fail (.unknownExtension token.text) (token.size + 1)

mutual

/-- Alternatives up to the end or a closing parenthesis; `outermost` means the whole pattern. -/
def alternatives : Nat → Bool → Bool → List Node → Read Node
  | 0, _, _, _ => Read.fail .unexpectedEnd
  | fuel + 1, verbose, outermost, done => do
    let branch ← items fuel verbose (outermost && done.isEmpty) []
    if ← Read.accept '|' then
      let flags := (← get).flags
      alternatives fuel (if outermost then flags.verbose else verbose) outermost (branch :: done)
    else return Node.ofBranches (branch :: done).reverse

/-- Items in sequence; `first` means that nothing but switches may have come before. -/
def items : Nat → Bool → Bool → List Node → Read Node
  | 0, _, _, _ => Read.fail .unexpectedEnd
  | fuel + 1, verbose, first, done => do
    let here := (← get).position
    match ← Read.peek with
    | none | some (.plain '|') | some (.plain ')') => return Node.ofItems done.reverse
    | some (.escaped c) =>
      let _ ← Read.take
      items fuel verbose first ((← Escape.outside c) :: done)
    | some (.plain c) =>
      let _ ← Read.take
      if verbose && isBlank c then items fuel verbose first done
      else if verbose && c = '#' then
        let _ ← skipPast '\n' (← get).fuel
        items fuel verbose first done
      else match c with
        | '[' => items fuel verbose first ((← set) :: done)
        | '?' => items fuel verbose first (← repeatLast here 0 (some 1) done)
        | '*' => items fuel verbose first (← repeatLast here 0 none done)
        | '+' => items fuel verbose first (← repeatLast here 1 none done)
        | '\x7b' =>
          match ← bounds with
          | none => items fuel verbose first (.literal c.toNat :: done)
          | some (least, most) => items fuel verbose first (← repeatLast here least most done)
        | '.' => items fuel verbose first (.any :: done)
        | '^' => items fuel verbose first (.anchor .lineStart :: done)
        | '$' => items fuel verbose first (.anchor .lineEnd :: done)
        | '(' =>
          match ← opening here with
          | .comment => items fuel verbose first done
          | .item node => items fuel verbose first (node :: done)
          | .global =>
            if !first || !done.isEmpty then Read.failAt .misplacedFlags here
            else
              let flags := (← get).flags
              items fuel flags.verbose first done
          | kind =>
            let node ← group fuel verbose here kind
            items fuel verbose first (node :: done)
        | _ => items fuel verbose first (.literal c.toNat :: done)

def group : Nat → Bool → Nat → Opening → Read Node
  | 0, _, _, _ => Read.fail .unexpectedEnd
  | fuel + 1, verbose, here, kind => do
    match kind with
    | .captured name =>
      let index ← Read.openGroup name
      let body ← alternatives fuel verbose false []
      close here
      Read.closeGroup index body
      return .group index body
    | .atomic =>
      let body ← alternatives fuel verbose false []
      close here
      return .atomic body
    | .switched on off =>
      let body ← alternatives fuel ((verbose || on.verbose) && !off.verbose) false []
      close here
      return .switched on off body
    | .look behind negated =>
      let outer := (← get).behindFrom
      if behind && outer.isNone then modify fun r => { r with behindFrom := some r.widths.length }
      let body ← alternatives fuel verbose false []
      if behind && outer.isNone then modify fun r => { r with behindFrom := none }
      close here
      let widths := (← get).widths
      let (least, most) := body.width (Read.widthOf widths)
      let direction : Direction := if behind then .behind least most else .ahead
      return .look direction negated body
    | .conditional index =>
      let yes ← items fuel verbose false []
      let no ← if ← Read.accept '|' then
          let branch ← items fuel verbose false []
          if (← Read.peek) = some (.plain '|') then Read.fail .tooManyBranches else pure branch
        else pure (.sequence [])
      close here
      return .conditional index yes no
    | .plain | .comment | .item _ | .global =>
      let body ← alternatives fuel verbose false []
      close here
      return .sequence [body]

end

end Reader

namespace Node

mutual

/-- The first reason for which a pattern cannot be matched: a look-behind over texts of different
lengths, or a repetition where none is allowed. -/
def flaw? (template : Bool) : Node → Option Flaw
  | .literal _ | .any | .set .. | .anchor _ | .reference _ => none
  | .sequence items => flawIn? template items
  | .choice branches => flawIn? template branches
  | .repetition mode _ _ body =>
    if template then some (.templateRepetition mode) else flaw? template body
  | .group _ body | .switched _ _ body | .atomic body => flaw? template body
  | .look (.behind least most) _ body =>
    if 4294967295 < least then some .lookBehindTooFar
    else if least ≠ most then some .lookBehindWidth
    else flaw? template body
  | .look .ahead _ body => flaw? template body
  | .conditional _ yes no => (flaw? template yes).or (flaw? template no)

def flawIn? (template : Bool) : List Node → Option Flaw
  | [] => none
  | item :: items => (flaw? template item).or (flawIn? template items)

end

end Node

/-- The switches of a pattern of texts or of bytes: patterns of texts know every script unless they are
confined to ASCII. -/
def settle (isText : Bool) (flags : Flags) : Except Refusal Flags :=
  if isText then
    if flags.locale then .error .localeOnText
    else if !flags.ascii then .ok { flags with unicode := true }
    else if flags.unicode then .error .asciiAndUnicode
    else .ok flags
  else if flags.unicode then .error .unicodeOnBytes
  else if flags.locale && flags.ascii then .error .asciiAndLocale
  else .ok flags

def read (characters : CharacterNames) (isText : Bool) (source : Text) (flags : Flags) :
    Except Refusal (Node × Flags) := do
  let start ← Reading.start characters isText source flags
  let (node, final) ← Reader.alternatives (4 * source.length + 8) flags.verbose true [] start
  let flags ← settle isText final.flags
  if final.next.isSome then .error (.malformed .unbalanced (some final.position))
  else match final.pending.find? fun p => final.widths.length ≤ p.1 with
    | some (group, position) => .error (.malformed (.invalidReference group) (some position))
    | none =>
      match node.flaw? flags.template with
      | some flaw => .error (.malformed flaw none)
      | none => .ok (node, flags)

end Pattern

end ParseKit
