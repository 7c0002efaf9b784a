import ParseKit.Parser.Combinators

/-!
Ordered choice. Main statement: choices inside one another are one choice among all their alternatives, which are tried in
order on the same input, up to the first that does not fail.
-/

namespace ParseKit

def Run.Fails (r : Run Outcome) : Prop := ∃ expected actual, r.result = .ok (.failure expected actual)

namespace Parser

theorem firstOf_of_not_failure {p : Parser} {input : Value} (ps : List Parser)
    (never : ∀ expected actual, (p input).result ≠ .ok (.failure expected actual)) : firstOf (p :: ps) input = p input := by
  rcases same : p input with ⟨events, fault | ⟨data, rest⟩ | ⟨expected, actual⟩⟩
  · simp [firstOf, same]
  · simp [firstOf, same, Run.pure_def, Run.precededBy]
  · exact absurd (by rw [same]) (never expected actual)

theorem firstOf_of_failure {p : Parser} {input : Value} (ps : List Parser) (fails : (p input).Fails) :
    firstOf (p :: ps) input = (firstOf ps input).precededBy (p input).events := by
  obtain ⟨expected, actual, given⟩ := fails
  rcases same : p input with ⟨events, result⟩
  rw [same] at given
  cases given
  simp [firstOf, same]

theorem firstOf_cons_congr {input : Value} (p : Parser) {ps qs : List Parser} (same : firstOf ps input = firstOf qs input) :
    firstOf (p :: ps) input = firstOf (p :: qs) input := by
  by_cases fails : (p input).Fails
  · rw [firstOf_of_failure ps fails, firstOf_of_failure qs fails, same]
  · have never : ∀ expected actual, (p input).result ≠ .ok (.failure expected actual) :=
      fun expected actual given => fails ⟨expected, actual, given⟩
    rw [firstOf_of_not_failure ps never, firstOf_of_not_failure qs never]

theorem firstOf_append_congr {input : Value} (front : List Parser) {ps qs : List Parser}
    (same : firstOf ps input = firstOf qs input) : firstOf (front ++ ps) input = firstOf (front ++ qs) input := by
  induction front with
  | nil => exact same
  | cons p front ih => exact firstOf_cons_congr p ih

section trying

variable {failed : List Parser} {input : Value}

theorem firstOf_append_of_failed (all : ∀ p ∈ failed, (p input).Fails) (ps : List Parser) :
    firstOf (failed ++ ps) input = (firstOf ps input).precededBy (failed.flatMap fun p => (p input).events) := by
  induction failed with
  | nil => rfl
  | cons p failed ih =>
    have behind := ih fun q member => all q (by simp [member])
    rw [List.cons_append, firstOf_of_failure _ (all p (by simp)), behind, Run.precededBy_precededBy, List.flatMap_cons]

theorem firstOf_of_failed (all : ∀ p ∈ failed, (p input).Fails) :
    firstOf failed input = ⟨failed.flatMap fun p => (p input).events, .ok (.failure choiceExpectation input)⟩ := by
  have tried := firstOf_append_of_failed all []
  rw [List.append_nil] at tried
  rw [tried, firstOf]
  simp [Run.pure_def, Run.precededBy]

theorem firstOf_of_decided {p : Parser} (all : ∀ q ∈ failed, (q input).Fails) (decides : ¬ (p input).Fails)
    (behind : List Parser) :
    firstOf (failed ++ p :: behind) input =
      ⟨(failed.flatMap fun q => (q input).events) ++ (p input).events, (p input).result⟩ := by
  rw [firstOf_append_of_failed all, firstOf_of_not_failure behind]
  · rfl
  · exact fun expected actual given => decides ⟨expected, actual, given⟩

end trying

/-- All alternatives fail, or there is a first that does not. -/
theorem failed_or_decided (ps : List Parser) (input : Value) :
    (∀ p ∈ ps, (p input).Fails) ∨
      ∃ failed p behind, ps = failed ++ p :: behind ∧ (∀ q ∈ failed, (q input).Fails) ∧ ¬ (p input).Fails := by
  induction ps with
  | nil => exact .inl (by simp)
  | cons p ps ih =>
    by_cases fails : (p input).Fails
    · rcases ih with all | ⟨failed, q, behind, rfl, all, decides⟩
      · exact .inl (List.forall_mem_cons.mpr ⟨fails, all⟩)
      · exact .inr ⟨p :: failed, q, behind, rfl, List.forall_mem_cons.mpr ⟨fails, all⟩, decides⟩
    · exact .inr ⟨[], p, ps, rfl, by simp, fails⟩

/-- A choice in front of other alternatives: its own failure counts like any other. -/
theorem firstOf_firstOf (ps qs : List Parser) (input : Value) :
    firstOf (firstOf ps :: qs) input = firstOf (ps ++ qs) input := by
  rcases failed_or_decided ps input with all | ⟨failed, p, behind, rfl, all, decides⟩
  · have inner := firstOf_of_failed all
    rw [firstOf_of_failure qs ⟨choiceExpectation, input, by rw [inner]⟩, firstOf_append_of_failed all, inner]
  · have inner := firstOf_of_decided all decides behind
    rw [firstOf_of_not_failure, inner, List.append_assoc, List.cons_append, firstOf_of_decided all decides]
    intro expected actual given
    rw [inner] at given
    exact decides ⟨expected, actual, given⟩

end Parser

/-- Choices inside one another, with any parsers at their ends. -/
inductive Choice where
  | leaf (p : Parser)
  | among (branches : List Choice)

namespace Choice

mutual

def parser : Choice → Parser
  | leaf p => p
  | among branches => .firstOf (parsers branches)

def parsers : List Choice → List Parser
  | [] => []
  | branch :: branches => parser branch :: parsers branches

end

mutual

/-- The parsers at the ends, from left to right. -/
def leaves : Choice → List Parser
  | leaf p => [p]
  | among branches => leavesOf branches

def leavesOf : List Choice → List Parser
  | [] => []
  | branch :: branches => leaves branch ++ leavesOf branches

end

mutual

theorem firstOf_tree (tree : Choice) (ps : List Parser) (input : Value) :
    Parser.firstOf (tree.parser :: ps) input = Parser.firstOf (tree.leaves ++ ps) input := by
  cases tree with
  | leaf p => rfl
  | among branches => rw [parser, leaves, Parser.firstOf_firstOf, firstOf_branches branches]

theorem firstOf_branches (branches : List Choice) (ps : List Parser) (input : Value) :
    Parser.firstOf (parsers branches ++ ps) input = Parser.firstOf (leavesOf branches ++ ps) input := by
  cases branches with
  | nil => rfl
  | cons branch branches =>
    rw [parsers, leavesOf, List.cons_append, firstOf_tree branch, List.append_assoc]
    exact Parser.firstOf_append_congr branch.leaves (firstOf_branches branches ps input)

end

/-- Choices inside one another do what one choice among their parsers does. These are tried from left to right, each on
the whole input, whatever those before it had taken of it, up to the first that does not fail: its success or fault is the
outcome. If there is none, the failure is that of a choice and stands at the input. -/
theorem tries_leaves (branches : List Choice) (input : Value) :
    (among branches).parser input = Parser.firstOf (leavesOf branches) input ∧
    ((∃ failed p behind, leavesOf branches = failed ++ p :: behind ∧ (∀ q ∈ failed, (q input).Fails) ∧
        ¬ (p input).Fails ∧
        (among branches).parser input =
          ⟨(failed.flatMap fun q => (q input).events) ++ (p input).events, (p input).result⟩) ∨
      (∀ q ∈ leavesOf branches, (q input).Fails) ∧
        (among branches).parser input =
          ⟨(leavesOf branches).flatMap fun q => (q input).events, .ok (.failure (.ofString "oneOf") input)⟩) := by
  have flat : (among branches).parser input = Parser.firstOf (leavesOf branches) input := by
    have same := firstOf_branches branches [] input
    rwa [List.append_nil, List.append_nil] at same
  refine ⟨flat, ?_⟩
  rw [flat]
  rcases Parser.failed_or_decided (leavesOf branches) input with all | ⟨failed, p, behind, split, all, decides⟩
  · exact .inr ⟨all, Parser.firstOf_of_failed all⟩
  · refine .inl ⟨failed, p, behind, split, all, decides, ?_⟩
    rw [split, Parser.firstOf_of_decided all decides]

/-- The first alternative takes a letter before it fails, and the next one starts at that letter again. -/
example :
    let x := Parser.spy ['x'] (.literalOr (.text "'x'".toList) (.text ['x']))
    let y := Parser.spy ['y'] (.literalOr (.text "'y'".toList) (.text ['y']))
    let input := Value.text ['x', 'z']
    (among [among [], among [leaf (.collect [x, y]), leaf y], leaf x, leaf y]).parser input =
      ⟨[.call ['x'] input, .call ['y'] (.text ['z']), .call ['y'] input, .call ['x'] input],
        .ok (.success (.text ['x']) (.text ['z']))⟩ := rfl

end Choice

end ParseKit
