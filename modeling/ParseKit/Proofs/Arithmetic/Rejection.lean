import ParseKit.Proofs.Arithmetic.Longest

/-!
Where an expression is rejected. Main statement: both grammars report the place up to which the text is as it should
be, read as far as it goes, and what is missing there.
-/

namespace ParseKit

namespace Arithmetic

open Text (LongestPrefix)

/-- What grammars are made of: blanks, and literals and signs with the blanks behind them. -/
inductive Component where
  | blanks
  | decimal
  | operation

namespace Component

def parser : Component → Parser
  | blanks => spaces
  | decimal => token Arithmetic.decimal
  | operation => token Arithmetic.operation

def name : Component → Value
  | blanks => .pattern spacesPattern
  | decimal => .ofString "a decimal"
  | operation => .ofString "an arithmetic operator"

inductive Spells : Component → Text → Prop where
  | blanks {s : Text} : Blanks s → Spells blanks s
  | decimal {literal behind : Text} : IsLiteral literal → Blanks behind → Spells decimal (literal ++ behind)
  | operation {f : Operator} {behind : Text} : Blanks behind → Spells operation (signOf f :: behind)

def Begins (component : Component) (s : Text) : Prop := ∃ t, t <+: s ∧ component.Spells t

theorem longest_spaces (s : Text) : LongestPrefix Component.blanks.Spells (s.takeWhile isBlank) s where
  belongs := .blanks (blanks_takeWhile s)
  begins := List.takeWhile_prefix isBlank
  most := by
    rintro t begins ⟨blank⟩
    exact (longest_blanks s).most t begins blank

theorem longest_decimal {s literal behind : Text} (read : readLiteral s = some (literal, behind)) :
    LongestPrefix Component.decimal.Spells (literal ++ behind.takeWhile isBlank) s := by
  obtain ⟨valid, rfl⟩ := readLiteral_sound read
  refine ⟨.decimal valid (blanks_takeWhile behind), ?_, ?_⟩
  · exact (List.prefix_append_right_inj literal).mpr (List.takeWhile_prefix isBlank)
  · rintro t begins spelled
    cases spelled with
    | @decimal literal' blanks valid' blank =>
      obtain ⟨u, same⟩ := begins
      rw [List.append_assoc] at same
      by_cases empty : blanks = []
      · rw [empty, List.append_nil]
        have longest := (longest_literal read).most literal' ⟨_, same⟩ valid'
        exact longest.trans (List.prefix_append literal _)
      · -- a blank behind the literal ends it, so it is the one that was read
        have read' := readLiteral_complete valid' (blank.stops empty u)
        rw [same, read] at read'
        cases read'
        rw [List.prefix_append_right_inj, List.takeWhile_append_of_pos blank]
        exact List.prefix_append blanks _

theorem longest_operation (f : Operator) (behind : Text) :
    LongestPrefix Component.operation.Spells (signOf f :: behind.takeWhile isBlank) (signOf f :: behind) where
  belongs := .operation (blanks_takeWhile behind)
  begins := (List.prefix_cons_inj _).mpr (List.takeWhile_prefix isBlank)
  most := by
    intro t begins spelled
    cases spelled with
    | operation blank =>
      obtain ⟨same, begins⟩ := List.cons_prefix_cons.mp begins
      exact List.cons_prefix_cons.mpr ⟨same, (longest_blanks behind).most _ begins blank⟩

theorem not_begins_decimal {s : Text} (read : readLiteral s = none) : ¬ Component.decimal.Begins s := by
  rintro ⟨t, begins, spelled⟩
  cases spelled with
  | decimal valid blank => exact no_literal read _ ((List.prefix_append _ _).trans begins) valid

theorem not_begins_operation {s : Text} (read : readSign s = none) : ¬ Component.operation.Begins s := by
  rintro ⟨t, ⟨u, rfl⟩, spelled⟩
  cases spelled with
  | operation =>
    rw [List.cons_append, readSign_eq_some.mpr rfl] at read
    cases read

/-- A component that does not stand at the start of a text is reported there. Else the longest one there is taken, which
may fault as far as its value is concerned. -/
theorem parser_cases (component : Component) (s : Text) :
    (¬ component.Begins s ∧ component.parser (.text s) = ⟨[], .ok (.failure component.name (.text s))⟩) ∨
    ∃ front behind value, s = front ++ behind ∧ LongestPrefix component.Spells front s ∧
      component.parser (.text s) = Run.ofExcept do return .success (← value) (.text behind) := by
  cases component with
  | blanks =>
    refine .inr ⟨_, _, .ok (.text (s.takeWhile isBlank)), ?_, longest_spaces s, spaces_text s⟩
    exact List.takeWhile_append_dropWhile.symm
  | decimal =>
    have given := token_decimal_text s
    rcases read : readLiteral s with _ | ⟨literal, behind⟩ <;> rw [read] at given
    · exact .inl ⟨not_begins_decimal read, given⟩
    · refine .inr ⟨_, _, Value.toNumber (.text literal), ?_, longest_decimal read, given⟩
      rw [List.append_assoc, List.takeWhile_append_dropWhile]
      exact (readLiteral_sound read).2
  | operation =>
    have given := token_operation_text s
    rcases read : readSign s with _ | ⟨f, behind⟩ <;> rw [read] at given
    · exact .inl ⟨not_begins_operation read, given⟩
    · obtain rfl := readSign_eq_some.mp read
      refine .inr ⟨_, _, .ok (.operator f), ?_, longest_operation f behind, given⟩
      rw [List.cons_append, List.takeWhile_append_dropWhile]

end Component

/-- What components take in order, each the longest beginning of what the one before it has left. -/
inductive Takes : List Component → Text → Text → Prop where
  | nil {s : Text} : Takes [] [] s
  | cons {component : Component} {components : List Component} {front taken behind : Text} :
      LongestPrefix component.Spells front (front ++ (taken ++ behind)) → Takes components taken behind →
      Takes (component :: components) (front ++ taken) behind

/-- What a text lacks of components and the end behind them: the first component, or else the end. -/
inductive Lacks : List Component → Text → Value → Prop where
  | component {component : Component} {components : List Component} {s : Text} : ¬ component.Begins s →
      Lacks (component :: components) s component.name
  | finish {s : Text} : s ≠ [] → Lacks [] s (.ofString "end of input")

theorem inSequence_failure {f : List Value → Except Fault Value} {components : List Component} {given : List Value}
    {s : Text} {expected actual : Value}
    (fails : (Parser.inSequence f (components.map Component.parser ++ [.endOfInput]) given (.text s)).result =
      .ok (.failure expected actual)) :
    ∃ passed ahead taken behind, components = passed ++ ahead ∧ s = taken ++ behind ∧ Takes passed taken behind ∧
      Lacks ahead behind expected ∧ actual = .text behind := by
  induction components generalizing given s with
  | nil =>
    refine ⟨[], [], [], s, rfl, rfl, .nil, ?_⟩
    have ends := endOfInput_text s
    by_cases consumed : s = []
    · rw [if_pos consumed] at ends
      simp only [List.map_nil, List.nil_append, Parser.inSequence, ends, Run.ok_bind, Run.precededBy_nil] at fails
      obtain ⟨value, -, fails⟩ := Run.result_bind_eq_ok fails
      cases fails
    · rw [if_neg consumed] at ends
      simp only [List.map_nil, List.nil_append, Parser.inSequence, ends, Run.ok_bind, Run.precededBy_nil,
        Run.pure_def] at fails
      cases fails
      exact ⟨.finish consumed, rfl⟩
  | cons component components ih =>
    simp only [List.map_cons, List.cons_append, Parser.inSequence] at fails
    rcases component.parser_cases s with ⟨absent, run⟩ | ⟨front, behind, value, rfl, longest, run⟩ <;> rw [run] at fails
    · cases fails
      exact ⟨[], component :: components, [], s, rfl, rfl, .nil, .component absent, rfl⟩
    · cases value with
      | error fault => cases fails
      | ok value =>
        obtain ⟨passed, ahead, taken, rest, rfl, rfl, takes, lacks, same⟩ := ih fails
        refine ⟨component :: passed, ahead, front ++ taken, rest, rfl, ?_, .cons longest takes, lacks, same⟩
        exact (List.append_assoc front taken rest).symm

theorem chain_failure {s : Text} {expected actual : Value}
    (fails : (chain (.text s)).result = .ok (.failure expected actual)) :
    (readChain s = none ∧ expected = .ofString "a decimal" ∧ actual = .text (s.dropWhile isBlank)) ∨
      ∃ c rest, readChain s = some (c, rest) ∧ rest ≠ [] ∧ expected = .ofString "end of input" ∧ actual = .text rest := by
  rw [chain_text] at fails
  rcases read : readChain s with _ | ⟨c, rest⟩ <;> rw [read] at fails
  · cases fails
    exact .inl ⟨rfl, rfl, rfl⟩
  · obtain ⟨⟨first, steps⟩, -, fails⟩ := Run.except_bind_eq_ok fails
    by_cases consumed : rest = []
    · simp only [if_pos consumed] at fails
      obtain ⟨total, -, fails⟩ := Run.except_bind_eq_ok fails
      cases fails
    · simp only [if_neg consumed] at fails
      cases fails
      exact .inr ⟨c, rest, rfl, consumed, rfl, rfl⟩

theorem readLiteral_of_no_chain {s : Text} (read : readChain s = none) : readLiteral (s.dropWhile isBlank) = none := by
  cases inside : readLiteral (s.dropWhile isBlank) with
  | none => rfl
  | some found => simp [readChain, inside] at read

/-- The components of one operation between two operands, in front of the end. -/
def binaryComponents : List Component := [.blanks, .decimal, .operation, .decimal]

/-- A chain is rejected behind the blanks at its start where no digit stands there, and else behind the longest chain at
its start; an operation is never what it is said to lack. One operation is rejected behind as many of its components as
stand at the start, each read as far as it goes, and what is expected is the next one. -/
theorem rejection_places (s : Text) :
    (∀ expected actual, (chain (.text s)).result = .ok (.failure expected actual) →
      ((∃ blanks behind, s = blanks ++ behind ∧ LongestPrefix Blanks blanks s ∧
          (∀ c, behind.head? = some c → isDigit c = false) ∧
          expected = .ofString "a decimal" ∧ actual = .text behind) ∨
        ∃ written behind, s = written ++ behind ∧ LongestPrefix IsChain written s ∧ behind ≠ [] ∧
          expected = .ofString "end of input" ∧ actual = .text behind) ∧
      expected ≠ .ofString "an arithmetic operator") ∧
    ∀ expected actual, (binary (.text s)).result = .ok (.failure expected actual) →
      ∃ passed ahead taken behind, binaryComponents = passed ++ ahead ∧ s = taken ++ behind ∧
        Takes passed taken behind ∧ Lacks ahead behind expected ∧ actual = .text behind := by
  refine ⟨fun expected actual fails => ?_, fun expected actual fails => inSequence_failure fails⟩
  rcases chain_failure fails with ⟨read, rfl, rfl⟩ | ⟨c, rest, read, left, rfl, rfl⟩
  · refine ⟨.inl ⟨_, _, List.takeWhile_append_dropWhile.symm, longest_blanks s, ?_, rfl, rfl⟩,
      by simp [Value.ofString]⟩
    exact not_isDigit_of_unread (readLiteral_of_no_chain read)
  · obtain ⟨written, -, split, longest⟩ := longest_chain read
    exact ⟨.inr ⟨written, rest, split, longest, left, rfl, rfl⟩, by simp [Value.ofString]⟩

/-- A sign without an operand is left to the end of a chain, and is where one operation lacks its second operand. -/
theorem dangling_sign_rejected :
    (chain (.text "1 +.".toList)).result = .ok (.failure (.ofString "end of input") (.text "+.".toList)) ∧
      LongestPrefix IsChain "1 ".toList "1 +.".toList ∧
      (binary (.text "1 +.".toList)).result = .ok (.failure (.ofString "a decimal") (.text ".".toList)) ∧
      ∃ passed ahead taken behind, binaryComponents = passed ++ ahead ∧ "1 +.".toList = taken ++ behind ∧
        Takes passed taken behind ∧ Lacks ahead behind (.ofString "a decimal") ∧ Value.text ".".toList = .text behind := by
  have read : readChain "1 +.".toList = some (⟨['1'], []⟩, "+.".toList) := by cbv
  have fails : (chain (.text "1 +.".toList)).result = .ok (.failure (.ofString "end of input") (.text "+.".toList)) := by
    rw [chain_text, read]
    rfl
  have fails' : (binary (.text "1 +.".toList)).result = .ok (.failure (.ofString "a decimal") (.text ".".toList)) := rfl
  obtain ⟨places, places'⟩ := rejection_places "1 +.".toList
  refine ⟨fails, ?_, fails', places' _ _ fails'⟩
  rcases (places _ _ fails).1 with ⟨_, _, _, _, _, other, _⟩ | ⟨written, behind, split, longest, _, _, left⟩
  · simp [Value.ofString] at other
  · cases left
    have same : "1 ".toList = written := List.append_cancel_right (show "1 ".toList ++ "+.".toList = written ++ "+.".toList from split)
    rwa [same]

end Arithmetic

end ParseKit
