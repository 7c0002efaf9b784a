import Mathlib
import ParseKit.Proofs.Arithmetic.Reading

/-!
The language of chains: literals with operations between them, and blanks in front of and behind each of
them. Main statements: reading accepts exactly the texts of the language, each in one way, and the parser of
chains gives the value of what is written, from left to right.
-/

namespace ParseKit

namespace Arithmetic

theorem compile_decimal (characters : CharacterNames) : Pattern.compile characters decimalPattern.source {} = .ok decimalPattern := by
  cbv

theorem compile_spaces (characters : CharacterNames) : Pattern.compile characters spacesPattern.source {} = .ok spacesPattern := by
  cbv

def Blanks (s : Text) : Prop := ∀ c ∈ s, isBlank c

/-- How steps are written: each as a sign and a literal, with blanks behind either. -/
inductive StepsSpell : List (Operator × Text) → Text → Prop where
  | nil : StepsSpell [] []
  | cons {f : Operator} {literal before behind rest : Text} {steps : List (Operator × Text)} :
      Blanks before → IsLiteral literal → Blanks behind → StepsSpell steps rest →
      StepsSpell ((f, literal) :: steps) (signOf f :: (before ++ (literal ++ (behind ++ rest))))

inductive Chain.Spells : Chain → Text → Prop where
  | intro {literal before behind rest : Text} {steps : List (Operator × Text)} :
      Blanks before → IsLiteral literal → Blanks behind → StepsSpell steps rest →
      Chain.Spells ⟨literal, steps⟩ (before ++ (literal ++ (behind ++ rest)))

theorem blanks_takeWhile (s : Text) : Blanks (s.takeWhile isBlank) := fun _ => Text.of_mem_takeWhile

theorem signOf_apart (f : Operator) :
    isDigit (signOf f) = false ∧ isBlank (signOf f) = false ∧ signOf f ≠ '.' := by
  cases f <;> decide

theorem IsLiteral.starts {literal : Text} (valid : IsLiteral literal) :
    ∃ c rest, literal = c :: rest ∧ isDigit c := by
  cases valid with
  | whole nonempty inside =>
    obtain ⟨c, rest, rfl⟩ := List.exists_cons_of_ne_nil nonempty
    exact ⟨c, rest, rfl, inside c (by simp)⟩
  | point nonempty inside fractional behind =>
    obtain ⟨c, rest, rfl⟩ := List.exists_cons_of_ne_nil nonempty
    exact ⟨c, _, rfl, inside c (by simp)⟩

theorem IsLiteral.dropWhile_blanks {literal before : Text} (valid : IsLiteral literal) (blank : Blanks before)
    (behind : Text) : (before ++ (literal ++ behind)).dropWhile isBlank = literal ++ behind := by
  obtain ⟨c, rest, rfl, digit⟩ := valid.starts
  refine Text.dropWhile_exact blank fun d first => ?_
  cases first
  exact not_isBlank_of_isDigit digit

theorem StepsSpell.starts {steps : List (Operator × Text)} {s : Text} (spelled : StepsSpell steps s) (c : Char)
    (first : s.head? = some c) : ∃ f, c = signOf f := by
  cases spelled with
  | nil => cases first
  | cons => exact ⟨_, by cases first; rfl⟩

theorem Blanks.stops {behind : Text} (blank : Blanks behind) (nonempty : behind ≠ []) (s : Text) (c : Char)
    (first : (behind ++ s).head? = some c) : isDigit c = false ∧ c ≠ '.' := by
  obtain ⟨d, rest, rfl⟩ := List.exists_cons_of_ne_nil nonempty
  cases first
  have blank : isBlank c := blank c (by simp)
  refine ⟨not_isDigit_of_isBlank blank, ?_⟩
  rintro rfl
  exact absurd blank (by decide)

/-- Behind a literal stands a blank or a sign, and neither goes on with it. -/
theorem StepsSpell.stops {steps : List (Operator × Text)} {behind rest : Text} (blank : Blanks behind)
    (spelled : StepsSpell steps rest) (c : Char) (first : (behind ++ rest).head? = some c) :
    isDigit c = false ∧ c ≠ '.' := by
  by_cases empty : behind = []
  · rw [empty, List.nil_append] at first
    obtain ⟨f, rfl⟩ := spelled.starts c first
    exact ⟨(signOf_apart f).1, (signOf_apart f).2.2⟩
  · exact blank.stops empty rest c first

theorem StepsSpell.readLiteral {steps : List (Operator × Text)} {literal behind rest : Text}
    (valid : IsLiteral literal) (blank : Blanks behind) (spelled : StepsSpell steps rest) :
    readLiteral (literal ++ (behind ++ rest)) = some (literal, behind ++ rest) :=
  readLiteral_complete valid (spelled.stops blank)

theorem StepsSpell.dropWhile_blanks {steps : List (Operator × Text)} {behind rest : Text} (blank : Blanks behind)
    (spelled : StepsSpell steps rest) : (behind ++ rest).dropWhile isBlank = rest := by
  refine Text.dropWhile_exact blank fun c first => ?_
  obtain ⟨f, rfl⟩ := spelled.starts c first
  exact (signOf_apart f).2.1

theorem readStep_of_spelled {f : Operator} {literal before behind rest : Text} {steps : List (Operator × Text)}
    (blank : Blanks before) (valid : IsLiteral literal) (blank' : Blanks behind) (spelled : StepsSpell steps rest) :
    readStep (signOf f :: (before ++ (literal ++ (behind ++ rest)))) = some ((f, literal), rest) := by
  refine readStep_eq_some.mpr ⟨_, behind ++ rest, rfl, ?_, (spelled.dropWhile_blanks blank').symm⟩
  rw [valid.dropWhile_blanks blank, StepsSpell.readLiteral valid blank' spelled]

theorem StepsSpell.readSteps {steps : List (Operator × Text)} {s : Text} (spelled : StepsSpell steps s) :
    readSteps s = (steps, []) := by
  induction spelled with
  | nil => exact readSteps_none rfl
  | cons blank valid blank' spelled ih => rw [readSteps_some (readStep_of_spelled blank valid blank' spelled), ih]

theorem readSteps_sound {s rest : Text} {steps : List (Operator × Text)} (read : readSteps s = (steps, rest)) :
    ∃ written, StepsSpell steps written ∧ s = written ++ rest := by
  induction s using readSteps.induct generalizing steps with
  | case1 s missing =>
    rw [readSteps_none missing] at read
    cases read
    exact ⟨[], .nil, rfl⟩
  | case2 s step next found ih =>
    obtain ⟨f, literal⟩ := step
    rw [readSteps_some found] at read
    obtain ⟨rfl, ended⟩ := Prod.mk.inj read
    obtain ⟨behind, after, rfl, inside, rfl⟩ := readStep_eq_some.mp found
    obtain ⟨valid, split⟩ := readLiteral_sound inside
    obtain ⟨written, spelled, left⟩ := ih (Prod.ext rfl ended)
    refine ⟨_, .cons (blanks_takeWhile behind) valid (blanks_takeWhile after) spelled, ?_⟩
    rw [List.cons_append, List.append_assoc, List.append_assoc, List.append_assoc, ← left,
      List.takeWhile_append_dropWhile, ← split, List.takeWhile_append_dropWhile]

theorem readChain_sound {s rest : Text} {chain : Chain} (read : readChain s = some (chain, rest)) :
    ∃ written, chain.Spells written ∧ s = written ++ rest := by
  simp only [readChain, bind, pure, Option.bind_eq_some_iff, Option.some.injEq, Prod.mk.injEq, Prod.exists] at read
  obtain ⟨literal, after, inside, rfl, rfl⟩ := read
  obtain ⟨valid, split⟩ := readLiteral_sound inside
  obtain ⟨written, spelled, left⟩ := readSteps_sound (s := after.dropWhile isBlank) rfl
  refine ⟨_, .intro (blanks_takeWhile s) valid (blanks_takeWhile after) spelled, ?_⟩
  rw [List.append_assoc, List.append_assoc, List.append_assoc, ← left, List.takeWhile_append_dropWhile, ← split,
    List.takeWhile_append_dropWhile]

/-- Reading takes a text to its end exactly as the chain that is written there. -/
theorem readChain_iff {s : Text} {chain : Chain} : readChain s = some (chain, []) ↔ chain.Spells s := by
  constructor
  · intro read
    obtain ⟨written, spelled, rfl⟩ := readChain_sound read
    rwa [List.append_nil]
  · rintro ⟨blank, valid, blank', spelled⟩
    simp [readChain, valid.dropWhile_blanks blank, StepsSpell.readLiteral valid blank' spelled,
      spelled.dropWhile_blanks blank', spelled.readSteps]

theorem StepsSpell.numbers {steps : List (Operator × Text)} {s : Text} (spelled : StepsSpell steps s)
    (short : ShortRuns s) : ∃ numbers, steps.mapM stepNumber = .ok numbers := by
  induction spelled with
  | nil => exact ⟨[], rfl⟩
  | @cons f literal before behind rest steps _ valid _ _ ih =>
    have here : literal <:+: signOf f :: (before ++ (literal ++ (behind ++ rest))) :=
      ⟨signOf f :: before, behind ++ rest, by simp⟩
    have later : rest <:+: signOf f :: (before ++ (literal ++ (behind ++ rest))) :=
      ⟨signOf f :: (before ++ (literal ++ behind)), [], by simp⟩
    obtain ⟨number, denoted⟩ := valid.toNumber (short.within here)
    obtain ⟨numbers, converted⟩ := ih (short.within later)
    exact ⟨(f, number) :: numbers, by rw [List.mapM_cons, stepNumber, denoted, converted]; rfl⟩

theorem Chain.Spells.numbers {chain : Chain} {s : Text} (spelled : chain.Spells s) (short : ShortRuns s) :
    ∃ first steps, chain.numbers = .ok (first, steps) := by
  cases spelled with
  | @intro literal before behind rest steps _ valid _ spelled =>
    have here : literal <:+: before ++ (literal ++ (behind ++ rest)) := ⟨before, behind ++ rest, by simp⟩
    have later : rest <:+: before ++ (literal ++ (behind ++ rest)) := ⟨before ++ (literal ++ behind), [], by simp⟩
    obtain ⟨first, denoted⟩ := valid.toNumber (short.within here)
    obtain ⟨numbers, converted⟩ := spelled.numbers (short.within later)
    exact ⟨first, numbers, by rw [Chain.numbers, denoted, converted]; rfl⟩

theorem Chain.Spells.run {chain : Chain} {s : Text} (spelled : chain.Spells s) :
    Arithmetic.chain (.text s) = Run.ofExcept do
      let (first, steps) ← chain.numbers
      return .success (← foldLeft first steps) (.text []) := by
  rw [chain_text, readChain_iff.mpr spelled]
  simp

theorem chain_fails {s : Text} (short : ShortRuns s) (outside : ¬∃ chain : Chain, chain.Spells s) :
    ∃ expected actual, chain (.text s) = ⟨[], .ok (.failure expected actual)⟩ := by
  rw [chain_text]
  rcases read : readChain s with _ | ⟨c, rest⟩
  · exact ⟨_, _, rfl⟩
  · -- the literals in front of what is left have their numbers, so the end is found missing
    have left : rest ≠ [] := by
      rintro rfl
      exact outside ⟨c, readChain_iff.mp read⟩
    obtain ⟨written, spelled, rfl⟩ := readChain_sound read
    obtain ⟨first, steps, converted⟩ := spelled.numbers (short.within ⟨[], rest, rfl⟩)
    simp only [converted, if_neg left]
    exact ⟨_, _, rfl⟩

/-- The parser of chains fails on exactly the texts outside the language. On a text of the language it takes
all of it, and gives the value of its numbers under the operations, from left to right, or the fault of the
first operation that has one. A text is written as one chain only, and a chain gives the same wherever its
blanks stand. -/
theorem chain_exact {s : Text} (short : ShortRuns s) :
    ((∃ expected actual, chain (.text s) = ⟨[], .ok (.failure expected actual)⟩) ↔ ¬∃ c : Chain, c.Spells s) ∧
    (∀ c : Chain, c.Spells s → ∃ first steps, c.numbers = .ok (first, steps) ∧
      chain (.text s) = Run.ofExcept do return .success (← foldLeft first steps) (.text [])) ∧
    (∀ c d : Chain, c.Spells s → d.Spells s → c = d) ∧
    (∀ (c : Chain) (t : Text), c.Spells s → c.Spells t → chain (.text t) = chain (.text s)) := by
  have value (c : Chain) (spelled : c.Spells s) : ∃ first steps, c.numbers = .ok (first, steps) ∧
      chain (.text s) = Run.ofExcept do return .success (← foldLeft first steps) (.text []) := by
    obtain ⟨first, steps, converted⟩ := spelled.numbers short
    exact ⟨first, steps, converted, by rw [spelled.run, converted]; rfl⟩
  refine ⟨⟨?_, chain_fails short⟩, value, ?_, ?_⟩
  · rintro ⟨expected, actual, failed⟩ ⟨c, spelled⟩
    obtain ⟨first, steps, -, run⟩ := value c spelled
    rw [failed] at run
    cases total : foldLeft first steps <;> rw [total] at run <;> cases run
  · intro c d spelled spelled'
    have same := (readChain_iff.mpr spelled).symm.trans (readChain_iff.mpr spelled')
    cases same
    rfl
  · intro c t spelled spelled'
    rw [spelled.run, spelled'.run]

/-- Blanks are of no account, and multiplication does not come before addition. -/
theorem chain_of_three :
    ShortRuns " 1 +2* 3".toList ∧ Chain.Spells ⟨['1'], [(.add, ['2']), (.mul, ['3'])]⟩ " 1 +2* 3".toList ∧
    chain (.text " 1 +2* 3".toList) = ⟨[], .ok (.success (.int 9) (.text []))⟩ := by
  have short : ShortRuns " 1 +2* 3".toList := .of_length (by decide)
  have spelled : Chain.Spells ⟨['1'], [(.add, ['2']), (.mul, ['3'])]⟩ " 1 +2* 3".toList :=
    readChain_iff.mp (by cbv)
  obtain ⟨first, steps, converted, run⟩ := (chain_exact short).2.1 _ spelled
  cases converted
  exact ⟨short, spelled, run⟩

end Arithmetic

end ParseKit
