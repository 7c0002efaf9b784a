import ParseKit.Text.Quoted
import ParseKit.Pattern.Node

/-!
Why a text is no pattern.
-/

namespace ParseKit

namespace Pattern

inductive Flaw where
  | escapeAtEnd
  | incompleteEscape (escape : Text)
  | badEscape (escape : Text)
  | octalRange (escape : Text)
  | missingBrace
  | undefinedCharacter (name : Text)
  | openGroup
  | groupInsideLookBehind
  | invalidReference (group : Nat)
  | unterminatedSet
  | badRange (first last : Text)
  | minimumExceedsMaximum
  | nothingToRepeat
  | multipleRepeat
  | unexpectedEnd
  | missingName (kind : String)
  | unterminatedName (terminator : Char)
  | badGroupName (name : Text)
  | unknownGroupName (name : Text)
  | redefinedGroup (name : Text) (index earlier : Nat)
  | unknownExtension (extension : Text)
  | unterminatedComment
  | unterminatedGroup
  | badGroupNumber
  | tooManyBranches
  | misplacedFlags
  | localeInText
  | unicodeInBytes
  | flagKindClash
  | unknownFlag
  | flagEndMissing
  | flagMissing
  | flagColonMissing
  | globalFlagOn
  | globalFlagOff
  | flagKindOff
  | flagOnAndOff
  | unbalanced
  | lookBehindTooFar
  | lookBehindWidth
  | templateRepetition (mode : Mode)
  deriving DecidableEq

namespace Flaw

def message : Flaw → Text
  | .escapeAtEnd => "bad escape (end of pattern)".toList
  | .incompleteEscape escape => "incomplete escape ".toList ++ escape
  | .badEscape escape => "bad escape ".toList ++ escape
  | .octalRange escape => "octal escape value ".toList ++ escape ++ " outside of range 0-0o377".toList
  | .missingBrace => "missing \x7b".toList
  | .undefinedCharacter name => "undefined character name ".toList ++ Quoted.text name
  | .openGroup => "cannot refer to an open group".toList
  | .groupInsideLookBehind =>
    "cannot refer to group defined in the same lookbehind subpattern".toList
  | .invalidReference group => "invalid group reference ".toList ++ Text.ofNat group
  | .unterminatedSet => "unterminated character set".toList
  | .badRange first last => "bad character range ".toList ++ first ++ '-' :: last
  | .minimumExceedsMaximum => "min repeat greater than max repeat".toList
  | .nothingToRepeat => "nothing to repeat".toList
  | .multipleRepeat => "multiple repeat".toList
  | .unexpectedEnd => "unexpected end of pattern".toList
  | .missingName kind => "missing ".toList ++ kind.toList
  | .unterminatedName terminator => "missing ".toList ++ terminator :: ", unterminated name".toList
  | .badGroupName name => "bad character in group name ".toList ++ Quoted.text name
  | .unknownGroupName name => "unknown group name ".toList ++ Quoted.text name
  | .redefinedGroup name index earlier =>
    "redefinition of group name ".toList ++ Quoted.text name ++ " as group ".toList ++ Text.ofNat index
      ++ "; was group ".toList ++ Text.ofNat earlier
  | .unknownExtension extension => "unknown extension ?".toList ++ extension
  | .unterminatedComment => "missing ), unterminated comment".toList
  | .unterminatedGroup => "missing ), unterminated subpattern".toList
  | .badGroupNumber => "bad group number".toList
  | .tooManyBranches => "conditional backref with more than two branches".toList
  | .misplacedFlags => "global flags not at the start of the expression".toList
  | .localeInText => "bad inline flags: cannot use 'L' flag with a str pattern".toList
  | .unicodeInBytes => "bad inline flags: cannot use 'u' flag with a bytes pattern".toList
  | .flagKindClash => "bad inline flags: flags 'a', 'u' and 'L' are incompatible".toList
  | .unknownFlag => "unknown flag".toList
  | .flagEndMissing => "missing -, : or )".toList
  | .flagMissing => "missing flag".toList
  | .flagColonMissing => "missing :".toList
  | .globalFlagOn => "bad inline flags: cannot turn on global flag".toList
  | .globalFlagOff => "bad inline flags: cannot turn off global flag".toList
  | .flagKindOff => "bad inline flags: cannot turn off flags 'a', 'u' and 'L'".toList
  | .flagOnAndOff => "bad inline flags: flag turned on and off".toList
  | .unbalanced => "unbalanced parenthesis".toList
  | .lookBehindTooFar => "looks too much behind".toList
  | .lookBehindWidth => "look-behind requires fixed-width pattern".toList
  | .templateRepetition mode => "internal: unsupported template operator ".toList ++
    match mode with
    | .greedy => "MAX_REPEAT".toList
    | .reluctant => "MIN_REPEAT".toList
    | .possessive => "POSSESSIVE_REPEAT".toList

end Flaw

inductive Refusal where
  /-- the text is no pattern, with the place where that shows -/
  | malformed (flaw : Flaw) (position : Option Nat)
  | repetitionTooLarge
  | localeOnText
  | unicodeOnBytes
  | asciiAndUnicode
  | asciiAndLocale
  deriving DecidableEq

namespace Refusal

/-- The place of a flaw, with its line and column if the pattern has several lines. -/
def place (source : Text) (position : Nat) : Text :=
  let before := source.take position
  let line := before.count '\n' + 1
  let column := (before.reverse.takeWhile (· ≠ '\n')).length + 1
  " at position ".toList ++ Text.ofNat position ++
    if source.contains '\n' then
      " (line ".toList ++ Text.ofNat line ++ ", column ".toList ++ Text.ofNat column ++ [')']
    else []

/-- The wording of a refusal of the pattern `source`; messages about byte patterns are ASCII. -/
def message (isText : Bool) (source : Text) : Refusal → Text
  | .malformed flaw position =>
    let wording := if isText then flaw.message else Quoted.ascii flaw.message
    wording ++ (position.map (place source)).getD []
  | .repetitionTooLarge => "the repetition number is too large".toList
  | .localeOnText => "cannot use LOCALE flag with a str pattern".toList
  | .unicodeOnBytes => "cannot use UNICODE flag with a bytes pattern".toList
  | .asciiAndUnicode => "ASCII and UNICODE flags are incompatible".toList
  | .asciiAndLocale => "ASCII and LOCALE flags are incompatible".toList

end Refusal

end Pattern

end ParseKit
