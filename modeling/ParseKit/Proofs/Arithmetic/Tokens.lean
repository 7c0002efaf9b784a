import ParseKit.Proofs.Arithmetic.Conversion

/-!
Tokens: what the parsers of blanks, decimals and operations do on a text, in terms of what stands at its
start.
-/

namespace ParseKit

namespace Arithmetic

def signOf : Operator → Char
  | .add => '+'
  | .sub => '-'
  | .mul => '*'
  | .truediv => '/'

/-- The operation whose sign stands at the start of a text, and what stands behind it. -/
def readSign : Text → Option (Operator × Text)
  | [] => none
  | c :: behind => (operators.lookup c).map fun f => (f, behind)

theorem lookup_eq_some {c : Char} {f : Operator} : operators.lookup c = some f ↔ c = signOf f := by
  constructor
  · intro found
    obtain ⟨front, behind, same, -⟩ := List.lookup_eq_some_iff.mp found
    have member : (c, f) ∈ operators := by simp [same]
    simp only [operators, List.mem_cons, Prod.mk.injEq, List.not_mem_nil, or_false] at member
    rcases member with ⟨rfl, rfl⟩ | ⟨rfl, rfl⟩ | ⟨rfl, rfl⟩ | ⟨rfl, rfl⟩ <;> rfl
  · rintro rfl
    cases f <;> rfl

theorem readSign_eq_some {s behind : Text} {f : Operator} :
    readSign s = some (f, behind) ↔ s = signOf f :: behind := by
  cases s with
  | nil => simp [readSign]
  | cons c s =>
    simp only [readSign, Option.map_eq_some_iff, lookup_eq_some, Prod.mk.injEq, List.cons.injEq]
    constructor
    · rintro ⟨g, rfl, rfl, rfl⟩
      exact ⟨rfl, rfl⟩
    · rintro ⟨rfl, rfl⟩
      exact ⟨f, rfl, rfl, rfl⟩

theorem matching_text {p : Pattern} {source front behind : Text} (written : p.source = .text source)
    (taken : p.matchText (front ++ behind) = some front.length) :
    Parser.matching p (.text (front ++ behind)) = ⟨[], .ok (.success (.text front) (.text behind))⟩ := by
  simp [Parser.matching, written, taken, Run.pure_def]

theorem matching_text_none {p : Pattern} {source s : Text} (written : p.source = .text source)
    (none : p.matchText s = none) :
    Parser.matching p (.text s) = ⟨[], .ok (.failure (.pattern p) (.text s))⟩ := by
  simp [Parser.matching, written, none, Run.pure_def]

theorem spaces_text (s : Text) :
    spaces (.text s) = ⟨[], .ok (.success (.text (s.takeWhile isBlank)) (.text (s.dropWhile isBlank)))⟩ := by
  have whole := List.takeWhile_append_dropWhile (p := isBlank) (l := s)
  have taken : spacesPattern.matchText (s.takeWhile isBlank ++ s.dropWhile isBlank) =
      some (s.takeWhile isBlank).length := by rw [whole, spaces_matchText]
  have split := matching_text (p := spacesPattern) rfl taken
  rwa [whole] at split

theorem decimal_text (s : Text) :
    decimal (.text s) =
      match readLiteral s with
      | none => ⟨[], .ok (.failure (.ofString "a decimal") (.text s))⟩
      | some (literal, behind) =>
        Run.ofExcept do return .success (← Value.toNumber (.text literal)) (.text behind) := by
  have taken := decimal_matchText s
  rcases read : readLiteral s with _ | ⟨literal, behind⟩
  · rw [read, Option.map_none] at taken
    simp [decimal, Parser.map, Parser.label, matching_text_none rfl taken, Run.pure_def]
  · obtain ⟨-, rfl⟩ := readLiteral_sound read
    rw [read, Option.map_some] at taken
    simp only [decimal, Parser.map, Parser.label, matching_text rfl taken, Run.pure_def, Run.ok_bind,
      Run.precededBy_nil]
    cases Value.toNumber (.text literal) <;> rfl

theorem sign_text (c : Char) (s : Text) :
    sign c (.text s) =
      if s.head? = some c then ⟨[], .ok (.success (.text [c]) (.text s.tail))⟩
      else ⟨[], .ok (.failure (.text ['\'', c, '\'']) (.text s))⟩ := by
  cases s with
  | nil => rfl
  | cons d s =>
    by_cases same : d = c
    · subst same
      simp [sign, Parser.literalOr, Parser.beginsWith, Parser.rest, Value.length?, Value.drop?, Run.ofExcept]
      rfl
    · have other : List.isPrefixOf [c] (d :: s) = false := by simp [List.isPrefixOf, Ne.symm same]
      simp only [sign, Parser.literalOr, Parser.beginsWith, other, List.head?_cons, Option.some.injEq, if_neg same]
      rfl

theorem operation_text (s : Text) :
    operation (.text s) =
      match readSign s with
      | none => ⟨[], .ok (.failure (.ofString "an arithmetic operator") (.text s))⟩
      | some (f, behind) => ⟨[], .ok (.success (.operator f) (.text behind))⟩ := by
  cases read : readSign s with
  | none =>
    have unsigned (f : Operator) : s.head? ≠ some (signOf f) := by
      intro first
      obtain ⟨behind, rfl⟩ := List.head?_eq_some_iff.mp first
      rw [readSign_eq_some.mpr rfl] at read
      cases read
    have refused : Parser.firstOf (operators.map fun o => sign o.1) (.text s) =
        ⟨[], .ok (.failure Parser.choiceExpectation (.text s))⟩ := by
      have add := unsigned .add
      have sub := unsigned .sub
      have mul := unsigned .mul
      have div := unsigned .truediv
      simp only [signOf] at add sub mul div
      simp [operators, Parser.firstOf, sign_text, add, sub, mul, div, Run.pure_def]
    simp [operation, Parser.map, Parser.label, refused, Run.pure_def]
  | some found =>
    obtain ⟨f, behind⟩ := found
    obtain rfl := readSign_eq_some.mp read
    have chosen : Parser.firstOf (operators.map fun o => sign o.1) (.text (signOf f :: behind)) =
        ⟨[], .ok (.success (.text [signOf f]) (.text behind))⟩ := by
      cases f <;> simp [operators, Parser.firstOf, sign_text, signOf, Run.pure_def]
    have known : operatorOf (.text [signOf f]) = .ok (.operator f) := by cases f <;> rfl
    simp [operation, Parser.map, Parser.label, chosen, known, Run.pure_def, Run.ofExcept]

theorem token_success {p : Parser} {input data : Value} {behind : Text}
    (given : p input = ⟨[], .ok (.success data (.text behind))⟩) :
    token p input = ⟨[], .ok (.success data (.text (behind.dropWhile isBlank)))⟩ := by
  simp [token, Parser.lexeme, Parser.apply, Parser.inSequence, given, spaces_text, Parser.keepFirst,
    Run.pure_def, Run.ofExcept]

theorem token_failure {p : Parser} {input expected actual : Value}
    (given : p input = ⟨[], .ok (.failure expected actual)⟩) :
    token p input = ⟨[], .ok (.failure expected actual)⟩ := by
  simp [token, Parser.lexeme, Parser.apply, Parser.inSequence, given, Run.pure_def]

theorem token_fault {p : Parser} {input : Value} {fault : Fault} (given : p input = ⟨[], .error fault⟩) :
    token p input = ⟨[], .error fault⟩ := by
  simp [token, Parser.lexeme, Parser.apply, Parser.inSequence, given]

theorem token_decimal_text (s : Text) :
    token decimal (.text s) =
      match readLiteral s with
      | none => ⟨[], .ok (.failure (.ofString "a decimal") (.text s))⟩
      | some (literal, behind) => Run.ofExcept do
        return .success (← Value.toNumber (.text literal)) (.text (behind.dropWhile isBlank)) := by
  have given := decimal_text s
  rcases read : readLiteral s with _ | ⟨literal, behind⟩
  · rw [read] at given
    exact token_failure given
  · rw [read] at given
    cases converted : Value.toNumber (.text literal) with
    | error fault =>
      simp only [converted] at given ⊢
      exact token_fault given
    | ok number =>
      simp only [converted] at given ⊢
      exact token_success given

theorem token_operation_text (s : Text) :
    token operation (.text s) =
      match readSign s with
      | none => ⟨[], .ok (.failure (.ofString "an arithmetic operator") (.text s))⟩
      | some (f, behind) => ⟨[], .ok (.success (.operator f) (.text (behind.dropWhile isBlank)))⟩ := by
  have given := operation_text s
  rcases read : readSign s with _ | ⟨f, behind⟩
  · rw [read] at given
    exact token_failure given
  · rw [read] at given
    exact token_success given

end Arithmetic

end ParseKit
