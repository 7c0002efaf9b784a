import ParseKit.Proofs.Arithmetic.Calculation
import ParseKit.Proofs.Arithmetic.Extension
import ParseKit.Proofs.Arithmetic.Longest

/-!
Evaluating an expression. Main statement: an evaluation ends in a number, or the text is not in the language of its
grammar, or an integer literal is too long, or a number is out of range, or a divisor is zero; the last two only where the
whole text is in the language.
-/

namespace ParseKit

namespace Arithmetic

open Text (LongestPrefix)

/-- How an evaluation may end, by the chains that its grammar allows. -/
inductive EvaluationEnds (allowed : Chain → Prop) (expression : Text) : Except Fault Value → Prop where
  | value {c : Chain} (number : Number) : c.Spells expression → allowed c → EvaluationEnds allowed expression (.ok number.toValue)
  | unparsed {expected actual : Value} {wording : Text} : (¬ ∃ c : Chain, c.Spells expression ∧ allowed c) →
      EvaluationEnds allowed expression (.error (.unparsed expected actual wording))
  | tooLong {digits : Text} : digits <:+: expression → (∀ c ∈ digits, isDigit c) → Numeral.digitLimit < digits.length →
      EvaluationEnds allowed expression (.error (.integerTooLong digits.length))
  | overflow {c : Chain} {fault : Fault} : c.Spells expression → allowed c → fault.Overflow →
      EvaluationEnds allowed expression (.error fault)
  | zeroDivision {c : Chain} {fault : Fault} {first : Value} {steps : List (Operator × Value)} {divisor : Number} :
      c.Spells expression → allowed c → c.numbers = .ok (first, steps) → (.truediv, divisor.toValue) ∈ steps →
      divisor.isZero → fault.ZeroDivision → EvaluationEnds allowed expression (.error fault)

section endings

variable {p : Parser} {allowed : Chain → Prop} {s : Text}

def parsedValue (p : Parser) (s : Text) : Except Fault Value := (p.parse (.text s)).result.map Parsed.data

theorem parsedValue_congr {q : Parser} (same : p (.text s) = q (.text s)) : parsedValue p s = parsedValue q s := by
  unfold parsedValue Parser.parse
  rw [same]

theorem parsedValue_of_fault {fault : Fault} (given : (p (.text s)).result = .error fault) : parsedValue p s = .error fault := by
  rw [parsedValue, Parser.parse_of_fault rfl given]
  rfl

theorem parsedValue_of_failure {expected actual : Text}
    (given : (p (.text s)).result = .ok (.failure (.text expected) (.text actual))) :
    ∃ wording, parsedValue p s = .error (.unparsed (.text expected) (.text actual) wording) := by
  refine ⟨"Parse error. Expected ".toList ++ expected ++ ". Instead found ".toList ++ actual ++ ['.'], ?_⟩
  rw [parsedValue, Parser.parse_of_failure rfl given rfl rfl]
  rfl

theorem parsedValue_of_calculated {result : Except Fault Value}
    (run : p (.text s) = Run.ofExcept do return .success (← result) (.text [])) : parsedValue p s = result := by
  cases result with
  | error fault => exact parsedValue_of_fault (by rw [run]; rfl)
  | ok value =>
    have ends : (p (.text s)).result = .ok (.success value (.text [])) := by
      rw [run]
      rfl
    rw [parsedValue, Parser.parse_of_success rfl ends]
    rfl

theorem ends_calculated {c : Chain} {first : Number} {steps : List (Operator × Number)} (spelled : c.Spells s)
    (allows : allowed c) (converted : c.numbers = .ok (first.toValue, valued steps)) :
    EvaluationEnds allowed s (foldLeft first.toValue (valued steps)) := by
  rcases foldLeft_cases first steps with ⟨total, same⟩ | ⟨fault, same, reason⟩ <;> rw [same]
  · exact .value total spelled allows
  · rcases reason with overflow | ⟨division, divisor, member, zero⟩
    · exact .overflow spelled allows overflow
    · have member' : (.truediv, divisor.toValue) ∈ valued steps := List.mem_map.mpr ⟨_, member, rfl⟩
      exact .zeroDivision spelled allows converted member' zero division

end endings

/-- What a chain with these numbers comes to where `rest` is behind it. -/
def numberedRun (first : Number) (steps : List (Operator × Number)) (rest : Text) : Run Outcome :=
  Run.ofExcept do
    if rest = [] then return .success (← foldLeft first.toValue (valued steps)) (.text [])
    else return .failure (.ofString "end of input") (.text rest)

/-- A chain that is read at the start has a literal that is too long, and this is the fault, or it has its numbers, and
is calculated if nothing is left behind it. -/
theorem chain_reading {s rest : Text} {c : Chain} (read : readChain s = some (c, rest)) :
    (∃ literal ∈ c.literals, TooLong literal ∧ (∀ d ∈ literal, isDigit d) ∧ literal <:+: s ∧
      (chain (.text s)).result = .error (.integerTooLong literal.length)) ∨
    ((∀ literal ∈ c.literals, ¬ TooLong literal) ∧
      ∃ (first : Number) (steps : List (Operator × Number)), c.numbers = .ok (first.toValue, valued steps) ∧
        chain (.text s) = numberedRun first steps rest) := by
  obtain ⟨written, spelled, split⟩ := readChain_sound read
  have run := chain_text s
  simp only [read] at run
  rcases Chain.numbers_cases fun literal member => (spelled.literals literal member).1 with
    ⟨literal, member, long, digits, refused⟩ | ⟨short, first, steps, converted⟩
  · refine .inl ⟨literal, member, long, digits, ?_, by rw [run, refused]; rfl⟩
    exact (spelled.literals literal member).2.trans ⟨[], rest, split.symm⟩
  · rw [converted] at run
    exact .inr ⟨short, first, steps, converted, run⟩

theorem parsedValue_unread {s : Text} (read : readChain s = none) :
    ∃ expected actual wording, parsedValue chain s = .error (.unparsed expected actual wording) := by
  have fails := chain_text s
  rw [read] at fails
  exact ⟨_, _, parsedValue_of_failure (by rw [fails]; rfl)⟩

theorem parsedValue_read {s rest : Text} {first : Number} {steps : List (Operator × Number)}
    (run : chain (.text s) = numberedRun first steps rest) :
    (rest = [] ∧ parsedValue chain s = foldLeft first.toValue (valued steps)) ∨
      rest ≠ [] ∧ ∃ expected actual wording, parsedValue chain s = .error (.unparsed expected actual wording) := by
  unfold numberedRun at run
  by_cases consumed : rest = []
  · simp only [if_pos consumed] at run
    exact .inl ⟨consumed, parsedValue_of_calculated run⟩
  · simp only [if_neg consumed] at run
    exact .inr ⟨consumed, _, _, parsedValue_of_failure (by rw [run]; rfl)⟩

theorem chain_ends {allowed : Chain → Prop} {s : Text} (all : ∀ c, allowed c) :
    EvaluationEnds allowed s (parsedValue chain s) := by
  rcases read : readChain s with _ | ⟨c, rest⟩
  · obtain ⟨expected, actual, wording, ends⟩ := parsedValue_unread read
    rw [ends]
    exact .unparsed fun ⟨c, spelled, _⟩ => no_chain read s (List.prefix_refl s) ⟨c, spelled⟩
  rcases chain_reading read with ⟨literal, member, long, digits, inside, faults⟩ | ⟨-, first, steps, converted, run⟩
  · rw [parsedValue_of_fault faults]
    exact .tooLong inside digits long.2
  rcases parsedValue_read run with ⟨rfl, calculated⟩ | ⟨left, expected, actual, wording, ends⟩
  · rw [calculated]
    exact ends_calculated (readChain_iff.mp read) (all c) converted
  · rw [ends]
    refine .unparsed fun ⟨c', spelled, _⟩ => left ?_
    have whole := readChain_iff.mpr spelled
    rw [read] at whole
    cases whole
    rfl

theorem Chain.Spells.passes {c : Chain} {s : Text} (spelled : c.Spells s) (expected actual : Value) :
    (chain (.text s)).result ≠ .ok (.failure expected actual) := by
  rcases chain_reading (readChain_iff.mpr spelled) with ⟨literal, -, -, -, -, faults⟩ | ⟨-, first, steps, -, run⟩
  · rw [faults]
    rintro ⟨⟩
  · rw [run, numberedRun]
    cases foldLeft first.toValue (valued steps) <;> rintro ⟨⟩

theorem binary_ends {allowed : Chain → Prop} {s : Text} (single : ∀ c, allowed c ↔ c.steps.length = 1) :
    EvaluationEnds allowed s (parsedValue binary s) := by
  rcases binary_cases s with ⟨expected, actual, fails⟩ | ⟨c, rest, read, same, reason⟩
  · obtain ⟨wording, ends⟩ := parsedValue_of_failure (p := binary) (by rw [fails])
    rw [ends]
    refine .unparsed fun ⟨c, spelled, allows⟩ => spelled.passes (.text expected) (.text actual) ?_
    rw [← binary_of_single spelled ((single c).mp allows), fails]
  rw [parsedValue_congr same]
  rcases chain_reading read with ⟨literal, member, long, digits, inside, faults⟩ | ⟨-, first, steps, converted, run⟩
  · rw [parsedValue_of_fault faults]
    exact .tooLong inside digits long.2
  · rcases reason with ⟨fault, refused⟩ | ⟨rfl, one⟩
    · rw [converted] at refused
      cases refused
    · rw [parsedValue_of_calculated run]
      exact ends_calculated (readChain_iff.mp read) ((single c).mpr one) converted

theorem not_tooLong {s rest : Text} {first : Number} {steps : List (Operator × Number)}
    (run : chain (.text s) = numberedRun first steps rest) (digits : Nat) :
    parsedValue chain s ≠ .error (.integerTooLong digits) := by
  intro ends
  rcases parsedValue_read run with ⟨-, calculated⟩ | ⟨-, expected, actual, wording, unparsed⟩
  · rw [ends] at calculated
    rcases foldLeft_cases first steps with ⟨total, same⟩ | ⟨fault, same, reason⟩ <;> rw [← calculated] at same <;> cases same
    rcases reason with ⟨⟨⟩⟩ | ⟨⟨⟨⟩⟩, -⟩
  · rw [ends] at unparsed
    cases unparsed

theorem chain_tooLong_iff (s : Text) :
    (∃ digits, parsedValue chain s = .error (.integerTooLong digits)) ↔
      ∃ (written : Text) (c : Chain), LongestPrefix IsChain written s ∧ c.Spells written ∧
        ∃ literal ∈ c.literals, TooLong literal := by
  constructor
  · rintro ⟨digits, ends⟩
    rcases read : readChain s with _ | ⟨c, rest⟩
    · obtain ⟨expected, actual, wording, unparsed⟩ := parsedValue_unread read
      rw [ends] at unparsed
      cases unparsed
    obtain ⟨written, spelled, -, longest⟩ := longest_chain read
    refine ⟨written, c, longest, spelled, ?_⟩
    rcases chain_reading read with ⟨literal, member, long, -⟩ | ⟨short, first, steps, converted, run⟩
    · exact ⟨literal, member, long⟩
    · exact absurd ends (not_tooLong run digits)
  · rintro ⟨written, c, longest, spelled, literal, member, long⟩
    rcases read : readChain s with _ | ⟨c', rest⟩
    · exact absurd longest.belongs (no_chain read written longest.begins)
    obtain ⟨written', spelled', -, longest'⟩ := longest_chain read
    obtain rfl := longest.unique longest'
    obtain rfl : c = c' := by
      have same := (readChain_iff.mpr spelled).symm.trans (readChain_iff.mpr spelled')
      cases same
      rfl
    rcases chain_reading read with ⟨literal', -, -, -, -, faults⟩ | ⟨short, -⟩
    · exact ⟨_, parsedValue_of_fault faults⟩
    · exact absurd long (short literal member)

theorem evaluate_result {name : Text} {p : Parser} (found : grammars.lookup (String.ofList name) = some p)
    (expression : Text) : (evaluate expression name).result = parsedValue p expression := by
  rw [evaluate, found, parsedValue]
  rcases same : p.parse (.text expression) with ⟨events, fault | parsed⟩ <;> simp only [same] <;> rfl

theorem lookup_grammars {name : String} {p : Parser} (member : (name, p) ∈ grammars) :
    grammars.lookup (String.ofList name.toList) = some p := by
  simp only [grammars, List.mem_cons, Prod.mk.injEq, List.not_mem_nil, or_false] at member
  rcases member with ⟨rfl, rfl⟩ | ⟨rfl, rfl⟩ | ⟨rfl, rfl⟩ <;> simp [grammars, List.lookup_cons]

theorem mem_grammars_chain : ("chain", chain) ∈ grammars := by simp [grammars]

theorem Chain.Spells.evaluate {c : Chain} {expression : Text} (spelled : c.Spells expression) :
    (evaluate expression "chain".toList).result = c.numbers >>= fun numbers => foldLeft numbers.1 numbers.2 := by
  rw [evaluate_result (lookup_grammars mem_grammars_chain)]
  refine parsedValue_of_calculated ?_
  rw [spelled.run]
  cases c.numbers <;> rfl

def Allows (name : String) (c : Chain) : Prop := name = "chain" ∨ c.steps.length = 1

theorem evaluate_ends {name : String} {p : Parser} (member : (name, p) ∈ grammars) (expression : Text) :
    EvaluationEnds (Allows name) expression (evaluate expression name.toList).result := by
  rw [evaluate_result (lookup_grammars member)]
  simp only [grammars, List.mem_cons, Prod.mk.injEq, List.not_mem_nil, or_false] at member
  rcases member with ⟨rfl, rfl⟩ | ⟨rfl, rfl⟩ | ⟨rfl, rfl⟩
  · exact binary_ends fun c => by simp [Allows]
  · rw [← binary_eq_binaryScript]
    exact binary_ends fun c => by simp [Allows]
  · exact chain_ends fun c => .inl rfl

/-- An evaluation gives a number, or its text is not in the language of the grammar, or an integer literal is too long,
or the text is in the language and a number is out of range or the right operand of a division is zero. With chains, a
literal is too long exactly if there is one in the longest chain at the start. A grammar that is not known is a fault
whatever the text, and nothing else happens. -/
theorem evaluation_outcomes (expression : Text) :
    (∀ name p, (name, p) ∈ grammars →
      EvaluationEnds (Allows name) expression (evaluate expression name.toList).result) ∧
    ((∃ digits, (evaluate expression "chain".toList).result = .error (.integerTooLong digits)) ↔
      ∃ (written : Text) (c : Chain), LongestPrefix IsChain written expression ∧ c.Spells written ∧
        ∃ literal ∈ c.literals, TooLong literal) ∧
    ∀ name : Text, (∀ p, (String.ofList name, p) ∉ grammars) →
      evaluate expression name = ⟨[], .error (.missingKey (Quoted.text name))⟩ := by
  have known : ("chain", chain) ∈ grammars := by simp [grammars]
  refine ⟨fun name p member => evaluate_ends member expression, ?_, fun name unknown => ?_⟩
  · rw [evaluate_result (lookup_grammars known)]
    exact chain_tooLong_iff expression
  · have missing : grammars.lookup (String.ofList name) = none := by
      cases found : grammars.lookup (String.ofList name) with
      | none => rfl
      | some p =>
        obtain ⟨front, behind, same, -⟩ := List.lookup_eq_some_iff.mp found
        exact absurd (by simp [same]) (unknown p)
    rw [evaluate, missing]
    rfl

/-- A division by zero on a text that is in the language, and a grammar that has no name. -/
theorem division_evaluated :
    (evaluate "1/0".toList "binary".toList).result = .error .divisionByZero ∧
      EvaluationEnds (Allows "binary") "1/0".toList (.error .divisionByZero) ∧
      evaluate "1/0".toList [] = ⟨[], .error (.missingKey (Quoted.text []))⟩ := by
  have known : ("binary", binary) ∈ grammars := by simp [grammars]
  have faults : (evaluate "1/0".toList "binary".toList).result = .error .divisionByZero := by
    rw [evaluate_result (lookup_grammars known)]
    rfl
  obtain ⟨ends, -, unknown⟩ := evaluation_outcomes "1/0".toList
  have reason := ends _ _ known
  rw [faults] at reason
  exact ⟨faults, reason, unknown [] (by simp [grammars])⟩

end Arithmetic

end ParseKit
