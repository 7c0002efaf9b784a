import ParseKit.Proofs.Arithmetic.Evaluation

/-!
What evaluations record. Main statement: an evaluation leaves one record if the text does not parse, of what was expected,
and otherwise none.
-/

namespace ParseKit

/-- Why the numbers of an expression come to nothing. -/
inductive Fault.Numeric : Fault → Prop where
  | tooLong (digits : Nat) : Numeric (.integerTooLong digits)
  | overflow {fault : Fault} : fault.Overflow → Numeric fault
  | zeroDivision {fault : Fault} : fault.ZeroDivision → Numeric fault

namespace Arithmetic

/-- The runs of grammars on texts. They leave no journal, and a failure is about texts. -/
inductive GrammarRun : Run Outcome → Prop where
  | number (total : Number) : GrammarRun ⟨[], .ok (.success total.toValue (.text []))⟩
  | failure (expected actual : Text) : GrammarRun ⟨[], .ok (.failure (.text expected) (.text actual))⟩
  | fault {fault : Fault} : fault.Numeric → GrammarRun ⟨[], .error fault⟩

theorem numberedRun_grammarRun (first : Number) (steps : List (Operator × Number)) (rest : Text) :
    GrammarRun (numberedRun first steps rest) := by
  unfold numberedRun
  by_cases consumed : rest = []
  · simp only [if_pos consumed]
    rcases foldLeft_cases first steps with ⟨total, same⟩ | ⟨fault, same, reason⟩ <;> rw [same]
    · exact .number total
    · rcases reason with overflow | ⟨division, -⟩
      · exact .fault (.overflow overflow)
      · exact .fault (.zeroDivision division)
  · simp only [if_neg consumed]
    exact .failure "end of input".toList rest

theorem chain_grammarRun (s : Text) : GrammarRun (chain (.text s)) := by
  rcases read : readChain s with _ | ⟨c, rest⟩
  · rw [chain_text, read]
    exact .failure "a decimal".toList _
  obtain ⟨written, spelled, -⟩ := readChain_sound read
  rcases Chain.numbers_cases fun literal member => (spelled.literals literal member).1 with
    ⟨literal, -, -, -, refused⟩ | ⟨-, first, steps, converted⟩
  · rw [chain_of_unnumbered read refused]
    exact .fault (.tooLong literal.length)
  · have run : chain (.text s) = numberedRun first steps rest := by
      rw [chain_text, read]
      simp only [converted]
      rfl
    rw [run]
    exact numberedRun_grammarRun first steps rest

theorem binary_grammarRun (s : Text) : GrammarRun (binary (.text s)) := by
  rcases binary_cases s with ⟨expected, actual, fails⟩ | ⟨-, -, -, same, -⟩
  · rw [fails]
    exact .failure expected actual
  · rw [same]
    exact chain_grammarRun s

theorem grammarRun {name : String} {p : Parser} (member : (name, p) ∈ grammars) (s : Text) : GrammarRun (p (.text s)) := by
  simp only [grammars, List.mem_cons, Prod.mk.injEq, List.not_mem_nil, or_false] at member
  rcases member with ⟨-, rfl⟩ | ⟨-, rfl⟩ | ⟨-, rfl⟩
  · exact binary_grammarRun s
  · rw [← binary_eq_binaryScript]
    exact binary_grammarRun s
  · exact chain_grammarRun s

/-- How evaluations run, with what they record. -/
inductive EvaluationRun : Run Value → Prop where
  | number (total : Number) : EvaluationRun ⟨[], .ok total.toValue⟩
  | unparsed {expected actual wording : Text} : Parser.failureWording (.text expected) (.text actual) = .ok wording →
      EvaluationRun ⟨[.record (Parser.failureRecord expected)], .error (.unparsed (.text expected) (.text actual) wording)⟩
  | fault {fault : Fault} : fault.Numeric → EvaluationRun ⟨[], .error fault⟩
  | unknown (shown : Text) : EvaluationRun ⟨[], .error (.missingKey shown)⟩

theorem GrammarRun.evaluationRun {p : Parser} {s : Text} (run : GrammarRun (p (.text s))) :
    EvaluationRun (do return (← p.parse (.text s)).data) := by
  generalize same : p (.text s) = r at run
  cases run with
  | number total =>
    rw [Parser.parse_of_success rfl (by rw [same]), same]
    exact .number total
  | failure expected actual =>
    rw [Parser.parse_of_failure rfl (by rw [same]) rfl rfl, same]
    exact .unparsed rfl
  | fault numeric =>
    rw [Parser.parse_of_fault rfl (by rw [same]), same]
    exact .fault numeric

theorem evaluate_run (expression grammar : Text) : EvaluationRun (evaluate expression grammar) := by
  unfold evaluate
  cases found : grammars.lookup (String.ofList grammar) with
  | none => exact .unknown _
  | some p =>
    obtain ⟨front, behind, listed, -⟩ := List.lookup_eq_some_iff.mp found
    have member : (String.ofList grammar, p) ∈ grammars := by simp [listed]
    exact (grammarRun member expression).evaluationRun

end Arithmetic

end ParseKit
