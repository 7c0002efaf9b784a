import ParseKit.Proofs.Arithmetic.Extension
import ParseKit.Proofs.Repetition.Exhaustion
import ParseKit.Proofs.Succession

/-!
Junk behind tokens. Main statement: a token fails where its content does, and it leaves what the junk behind the content
leaves; where junk has been skipped none is left to skip, so that a token of a token is the token itself.
-/

namespace ParseKit

namespace Parser

section lexeme

variable {junk p : Parser} {input middle data skipped rest : Value}

theorem lexeme_of_unsuccessful (junk : Parser) (ends : (p input).Unsuccessful) : lexeme junk p input = p input :=
  inSequence_stop keepFirst [junk] [] ends

theorem lexeme_of_success (gives : (p input).result = .ok (.success data middle))
    (skips : (junk middle).result = .ok (.success skipped rest)) :
    (lexeme junk p input).result = .ok (.success data rest) := by
  have passes : Passes [p, junk] input [input, middle] [data, skipped] rest := .step gives (.step skips (.start rest))
  rw [lexeme, passes.apply_eq]
  rfl

theorem lexeme_of_unskipped (gives : (p input).result = .ok (.success data middle)) (ends : (junk middle).Unsuccessful) :
    (lexeme junk p input).result = (junk middle).result := by
  rw [lexeme, apply, inSequence_step keepFirst [junk] [] gives, inSequence_stop keepFirst [] [data] ends]
  rfl

theorem lexeme_success_iff :
    (lexeme junk p input).result = .ok (.success data rest) ↔
      ∃ middle skipped, (p input).result = .ok (.success data middle) ∧
        (junk middle).result = .ok (.success skipped rest) := by
  constructor
  · intro ends
    rcases (p input).success_or_unsuccessful with ⟨data', middle, gives⟩ | fails
    · rcases (junk middle).success_or_unsuccessful with ⟨skipped, rest', skips⟩ | unskipped
      · rw [lexeme_of_success gives skips] at ends
        cases ends
        exact ⟨middle, skipped, gives, skips⟩
      · rw [lexeme_of_unskipped gives unskipped] at ends
        exact absurd ends (unskipped data rest)
    · rw [lexeme_of_unsuccessful junk fails] at ends
      exact absurd ends (fails data rest)
  · rintro ⟨middle, skipped, gives, skips⟩
    exact lexeme_of_success gives skips

theorem unsuccessful_of_failure {r : Run Outcome} {expected actual : Value} (ends : r.result = .ok (.failure expected actual)) :
    r.Unsuccessful := by
  intro data rest given
  rw [ends] at given
  cases given

theorem lexeme_failure_iff {expected actual : Value} :
    (lexeme junk p input).result = .ok (.failure expected actual) ↔
      (p input).result = .ok (.failure expected actual) ∨
        ∃ data middle, (p input).result = .ok (.success data middle) ∧
          (junk middle).result = .ok (.failure expected actual) := by
  constructor
  · intro ends
    rcases (p input).success_or_unsuccessful with ⟨data, middle, gives⟩ | fails
    · rcases (junk middle).success_or_unsuccessful with ⟨skipped, rest, skips⟩ | unskipped
      · rw [lexeme_of_success gives skips] at ends
        cases ends
      · rw [lexeme_of_unskipped gives unskipped] at ends
        exact .inr ⟨data, middle, gives, ends⟩
    · rw [lexeme_of_unsuccessful junk fails] at ends
      exact .inl ends
  · rintro (ends | ⟨data, middle, gives, ends⟩)
    · rw [lexeme_of_unsuccessful junk (unsuccessful_of_failure ends), ends]
    · rw [lexeme_of_unskipped gives (unsuccessful_of_failure ends), ends]

/-- Where such a parser has succeeded, it succeeds once more and takes nothing. -/
def Exhausts (junk : Parser) : Prop :=
  ∀ input skipped rest, (junk input).result = .ok (.success skipped rest) →
    ∃ nothing, (junk rest).result = .ok (.success nothing rest)

theorem Exhausts.lexeme_lexeme (exhausts : junk.Exhausts) (p : Parser) (input : Value) :
    (lexeme junk (lexeme junk p) input).result = (lexeme junk p input).result := by
  rcases (lexeme junk p input).success_or_unsuccessful with ⟨data, rest, gives⟩ | fails
  · obtain ⟨middle, skipped, -, skips⟩ := lexeme_success_iff.mp gives
    obtain ⟨nothing, again⟩ := exhausts middle skipped rest skips
    rw [lexeme_of_success gives again, gives]
  · rw [lexeme_of_unsuccessful junk fails]

end lexeme

theorem many_ne_failure (p : Parser) (input expected actual : Value) :
    (p.many input).result ≠ .ok (.failure expected actual) := by
  intro ends
  obtain ⟨items, rest, same, -⟩ := many_stopped ends
  cases same

theorem exhausts_many (p : Parser) : p.many.Exhausts := by
  intro input skipped rest ends
  obtain ⟨items, rest', same, again, -⟩ := many_stopped ends
  cases same
  exact ⟨.list [], again⟩

end Parser

namespace Arithmetic

theorem text_or_other (input : Value) : (∃ s, input = .text s) ∨ ∀ s, input ≠ .text s := by
  cases input with
  | text s => exact .inl ⟨s, rfl⟩
  | _ => exact .inr fun s same => nomatch same

theorem spaces_success_iff {input skipped rest : Value} :
    (spaces input).result = .ok (.success skipped rest) ↔
      ∃ s, input = .text s ∧ skipped = .text (s.takeWhile isBlank) ∧ rest = .text (s.dropWhile isBlank) := by
  constructor
  · intro ends
    rcases text_or_other input with ⟨s, rfl⟩ | other
    · rw [spaces_text] at ends
      cases ends
      exact ⟨s, rfl, rfl, rfl⟩
    · rw [spaces_other other] at ends
      cases ends
  · rintro ⟨s, rfl, rfl, rfl⟩
    rw [spaces_text]

theorem spaces_failure_iff {input expected actual : Value} :
    (spaces input).result = .ok (.failure expected actual) ↔
      (∀ s, input ≠ .text s) ∧ expected = .pattern spacesPattern ∧ actual = input := by
  constructor
  · intro ends
    rcases text_or_other input with ⟨s, rfl⟩ | other
    · rw [spaces_text] at ends
      cases ends
    · rw [spaces_other other] at ends
      cases ends
      exact ⟨other, rfl, rfl⟩
  · rintro ⟨other, rfl, rfl⟩
    rw [spaces_other other]

theorem exhausts_spaces : spaces.Exhausts := by
  intro input skipped rest skips
  obtain ⟨s, -, -, rfl⟩ := spaces_success_iff.mp skips
  refine ⟨_, spaces_success_iff.mpr ⟨_, rfl, rfl, ?_⟩⟩
  rw [List.dropWhile_idempotent]

/-- With a repetition as junk, a token fails exactly where its content fails, and in the same way; it succeeds with the data
of the content, and leaves what the repetition leaves behind the content. The same holds with blanks as junk, where what
is behind the content is a text; a token fails on any other rest, as blanks stand in texts only. What a token with blanks
leaves does not begin with one, and in both cases a token of a token comes to what the token comes to. -/
theorem junk_skipped_once (p q : Parser) (input : Value) :
    ((∀ expected actual, (Parser.lexeme q.many p input).result = .ok (.failure expected actual) ↔
        (p input).result = .ok (.failure expected actual)) ∧
      (∀ data rest, (Parser.lexeme q.many p input).result = .ok (.success data rest) ↔
        ∃ middle skipped, (p input).result = .ok (.success data middle) ∧
          (q.many middle).result = .ok (.success skipped rest)) ∧
      (Parser.lexeme q.many (Parser.lexeme q.many p) input).result = (Parser.lexeme q.many p input).result) ∧
    ((∀ expected actual, (token p input).result = .ok (.failure expected actual) ↔
        (p input).result = .ok (.failure expected actual) ∨
          ∃ data, (p input).result = .ok (.success data actual) ∧ (∀ s, actual ≠ .text s) ∧
            expected = .pattern spacesPattern) ∧
      (∀ data rest, (token p input).result = .ok (.success data rest) ↔
        ∃ middle skipped, (p input).result = .ok (.success data middle) ∧
          (spaces middle).result = .ok (.success skipped rest)) ∧
      (token (token p) input).result = (token p input).result ∧
      ∀ data rest, (token p input).result = .ok (.success data rest) →
        ∃ s, rest = .text s ∧ ∀ c ∈ s.head?, isBlank c = false) := by
  refine ⟨⟨fun expected actual => ?_, fun data rest => Parser.lexeme_success_iff,
    (Parser.exhausts_many q).lexeme_lexeme p input⟩, fun expected actual => ?_, fun data rest => Parser.lexeme_success_iff,
    exhausts_spaces.lexeme_lexeme p input, fun data rest ends => ?_⟩
  · rw [Parser.lexeme_failure_iff, or_iff_left]
    rintro ⟨data, middle, -, fails⟩
    exact Parser.many_ne_failure q middle expected actual fails
  · rw [token, Parser.lexeme_failure_iff]
    simp only [spaces_failure_iff]
    refine or_congr Iff.rfl ⟨?_, ?_⟩
    · rintro ⟨data, middle, gives, other, rfl, rfl⟩
      exact ⟨data, gives, other, rfl⟩
    · rintro ⟨data, gives, other, rfl⟩
      exact ⟨data, actual, gives, other, rfl, rfl⟩
  · obtain ⟨middle, skipped, -, skips⟩ := Parser.lexeme_success_iff.mp ends
    obtain ⟨s, -, -, rfl⟩ := spaces_success_iff.mp skips
    refine ⟨s.dropWhile isBlank, rfl, fun c first => ?_⟩
    have kept := List.head?_dropWhile_not isBlank s
    rw [Option.mem_def.mp first] at kept
    simpa using kept

/-- Two blanks behind a letter are skipped, and by a second token around the first none. -/
theorem letter_with_blanks_skipped :
    let letter := Parser.literalOr (.text "'a'".toList) (.text ['a'])
    let blank := Parser.literalOr (.text "' '".toList) (.text [' '])
    let input := Value.text "a  b".toList
    (token letter input).result = .ok (.success (.text ['a']) (.text ['b'])) ∧
      (token (token letter) input).result = .ok (.success (.text ['a']) (.text ['b'])) ∧
      (∀ c ∈ (['b'] : Text).head?, isBlank c = false) ∧
      (Parser.lexeme blank.many letter input).result = .ok (.success (.text ['a']) (.text ['b'])) := by
  intro letter blank input
  obtain ⟨⟨-, repeated, -⟩, -, taken, twice, clean⟩ := junk_skipped_once letter blank input
  have gives : (letter input).result = .ok (.success (.text ['a']) (.text "  b".toList)) := rfl
  have once : (token letter input).result = .ok (.success (.text ['a']) (.text ['b'])) :=
    (taken _ _).mpr ⟨_, _, gives, spaces_success_iff.mpr ⟨_, rfl, rfl, rfl⟩⟩
  have skips : (blank.many (.text "  b".toList)).result = .ok (.success (.list [.text [' '], .text [' ']]) (.text ['b'])) := by
    cbv
  obtain ⟨s, same, unblank⟩ := clean _ _ once
  cases same
  exact ⟨once, twice.trans once, unblank, (repeated _ _).mpr ⟨_, _, gives, skips⟩⟩

/-- Behind a byte there is no text that blanks could be skipped in: the content succeeds and the token fails. -/
theorem byte_before_blanks_refused :
    let byte := Value.bytes [0x61]
    ∃ p, Parser.literal byte = .ok p ∧ (p byte).result = .ok (.success byte (.bytes [])) ∧
      (token p byte).result = .ok (.failure (.pattern spacesPattern) (.bytes [])) := by
  intro byte
  have shown : byte.render = .ok ['a'] := by cbv
  exact ⟨_, Parser.literal_of_render rfl shown, rfl, rfl⟩

end Arithmetic

end ParseKit
