import ParseKit.Proofs.Command.Evaluation

/-!
Faults that escape from the command. Main statement: with a known grammar, the only faults that the command does not tell
about are those of numbers that are too large to be read, to be calculated with, or to be written.
-/

namespace ParseKit

namespace Command

namespace Evaluate

open Arithmetic (Chain Allows isDigit)

/-- The numbers of an expression that are too large: an integer literal to be read, one of the numbers of a text in the
language to be calculated with, or an integer result to be written. -/
inductive TooLarge (name : String) (expression : Text) : Fault → Prop where
  | read {digits : Text} : digits <:+: expression → (∀ c ∈ digits, isDigit c) → Numeral.digitLimit < digits.length →
      TooLarge name expression (.integerTooLong digits.length)
  | calculated {c : Chain} {fault : Fault} : c.Spells expression → Allows name c → fault.Overflow → TooLarge name expression fault
  | written {n : Int} : (Arithmetic.evaluate expression name.toList).result = .ok (.int n) → ¬ Value.IsShort n →
      TooLarge name expression .integerTextTooLong

section faults

variable {name : String} {p : Parser} {expression : Text} {fault : Fault}

theorem TooLarge.not_handled (large : TooLarge name expression fault) : ¬ Handled fault := by
  rcases large with _ | ⟨-, -, overflow⟩ | _
  · rintro (_ | ⟨⟨⟩⟩)
  · cases overflow <;> rintro (_ | ⟨⟨⟩⟩)
  · rintro (_ | ⟨⟨⟩⟩)

theorem tooLarge_of_not_handled (member : (name, p) ∈ Arithmetic.grammars)
    (refused : resultText name.toList expression = .error fault) (unhandled : ¬ Handled fault) :
    TooLarge name expression fault := by
  have ends := Arithmetic.evaluate_ends member expression
  generalize given : (Arithmetic.evaluate expression name.toList).result = r at ends
  cases r with
  | ok value =>
    cases ends with
    | value number =>
      rw [resultText_of_value given] at refused
      rcases Value.formatNumber_cases number with ⟨text, formatted⟩ | ⟨n, rfl, long, unwritten⟩
      · rw [refused] at formatted
        cases formatted
      · rw [refused] at unwritten
        cases unwritten
        exact .written given long
  | error fault' =>
    obtain rfl : fault' = fault := by
      rw [resultText_of_fault given] at refused
      exact Except.error.inj refused
    cases ends with
    | unparsed => exact absurd (.unparsed ..) unhandled
    | tooLong inside digits long => exact .read inside digits long
    | overflow spelled allows overflow => exact .calculated spelled allows overflow
    | zeroDivision _ _ _ _ _ division => exact absurd (.zeroDivision division) unhandled

theorem Reports.ending_cases {grammar : Text} {records : List LogRecord} {ending : Ending}
    (reports : Reports grammar expression fault records ending) :
    (Handled fault ∧ ∃ message, ending = .refused message) ∨ (¬ Handled fault ∧ ending = .failed fault) := by
  cases reports with
  | unparsed => exact .inl ⟨.unparsed .., _, rfl⟩
  | zeroDivision division => exact .inl ⟨.zeroDivision division, _, rfl⟩
  | unhandled unhandled => exact .inr ⟨unhandled, rfl⟩

end faults

section quotient

open Arithmetic (Blanks IsLiteral StepsSpell foldLeft)

/-- A quotient of nines and one. -/
def quotientOf (size : Nat) : Text := List.replicate (size + 1) '9' ++ "/1".toList

theorem isLiteral_replicate {c : Char} (digit : isDigit c) (size : Nat) : IsLiteral (List.replicate (size + 1) c) :=
  .whole (by simp) fun d member => by rwa [List.eq_of_mem_replicate member]

theorem spells_quotientOf (size : Nat) :
    Chain.Spells ⟨List.replicate (size + 1) '9', [(.truediv, ['1'])]⟩ (quotientOf size) := by
  have blank : Blanks [] := by simp [Blanks]
  have step : StepsSpell [(.truediv, ['1'])] "/1".toList := .cons blank (isLiteral_replicate (by decide) 0) blank .nil
  exact .intro blank (isLiteral_replicate (by decide) size) blank step

theorem foldLeft_truediv_one {n : Int} (beyond : Binary64.ofQuotient? n 1 = none) :
    foldLeft (.int n) [(.truediv, .int 1)] = .error .quotientTooLarge := by
  rw [foldLeft, List.foldlM_cons]
  simp only [Value.operate, Number.ofValue?, Number.operate, Number.divide, beyond]
  rfl

theorem resultText_quotientOf {size : Nat} (short : size < Numeral.digitLimit)
    (beyond : Binary64.ofQuotient? (Numeral.value (Numeral.toAscii (List.replicate (size + 1) '9'))) 1 = none) :
    resultText "chain".toList (quotientOf size) = .error .quotientTooLarge := by
  refine resultText_of_fault ?_
  have nine : isDigit '9' := by decide
  have nonempty : List.replicate (size + 1) '9' ≠ [] := by simp
  have nines := Arithmetic.toNumber_whole nonempty fun c member => by rwa [List.eq_of_mem_replicate member]
  -- the number is left as it is, since only its quotient is looked at
  rw [if_neg (by simpa using short)] at nines
  rw [(spells_quotientOf size).evaluate, Chain.numbers, nines]
  exact foldLeft_truediv_one beyond

theorem quotientOf_overflows : resultText "chain".toList (quotientOf 399) = .error .quotientTooLarge :=
  resultText_quotientOf (by decide) (by decide +kernel)

end quotient

/-- With a known grammar, the command ends well, or with an error that it tells, or with a fault; the latter exactly where
the first expression without a result has a number that is too large. -/
theorem escapes_by_size {name : String} {p : Parser} (member : (name, p) ∈ Arithmetic.grammars) (settings : Settings)
    (chosen : settings.text? "grammar".toList = some name.toList) (l : Logging) :
    let expressions := settings.texts "expressions".toList
    ((run settings l).2 = .ok () ∨ (∃ message, (run settings l).2 = .error (.refused message)) ∨
      ∃ fault, (run settings l).2 = .error (.failed fault)) ∧
    ∀ fault, (run settings l).2 = .error (.failed fault) ↔
      ∃ before bad after texts, expressions = before ++ bad :: after ∧ before.mapM (resultText name.toList) = .ok texts ∧
        resultText name.toList bad = .error fault ∧ TooLarge name bad fault := by
  intro expressions
  have runs : run settings l = printResults name.toList expressions l := by
    rw [run, chosen]
    rfl
  rw [runs]
  constructor
  · rcases printResults_cases name.toList expressions l with ⟨texts, -, ends⟩ |
      ⟨before, bad, after, texts, fault, records, ending, -, -, -, reports, ends⟩ <;> rw [ends]
    · exact .inl rfl
    · rcases reports.ending_cases with ⟨-, message, rfl⟩ | ⟨-, rfl⟩
      · exact .inr (.inl ⟨message, rfl⟩)
      · exact .inr (.inr ⟨fault, rfl⟩)
  · intro fault
    constructor
    · intro failed
      rcases printResults_cases name.toList expressions l with ⟨texts, -, ends⟩ |
        ⟨before, bad, after, texts, fault', records, ending, split, given, refused, reports, ends⟩ <;> rw [ends] at failed
      · cases failed
      · rcases reports.ending_cases with ⟨-, message, rfl⟩ | ⟨unhandled, rfl⟩
        · cases failed
        · cases failed
          exact ⟨before, bad, after, texts, split, given, refused, tooLarge_of_not_handled member refused unhandled⟩
    · rintro ⟨before, bad, after, texts, split, given, refused, large⟩
      obtain ⟨records, ending, reports, stops⟩ := printResults_stops given refused l
      rw [split, stops after]
      rcases reports.ending_cases with ⟨handled, -⟩ | ⟨-, rfl⟩
      · exact absurd handled large.not_handled
      · rfl

/-- Behind an expression that has a result, a quotient out of range ends the command with its fault. -/
theorem quotient_behind_result_escapes :
    let expressions := [['7'], quotientOf 399]
    (run (settingsOf "chain".toList expressions) (.start .fresh [])).2 = .error (.failed .quotientTooLarge) ∧
      TooLarge "chain" (quotientOf 399) .quotientTooLarge := by
  intro expressions
  have large : TooLarge "chain" (quotientOf 399) .quotientTooLarge :=
    .calculated (spells_quotientOf 399) (.inl rfl) .quotient
  have seven : resultText "chain".toList ['7'] = .ok ['7'] := by
    have spelled : Chain.Spells ⟨['7'], []⟩ ['7'] := Arithmetic.readChain_iff.mp (by cbv)
    have value : (Arithmetic.evaluate ['7'] "chain".toList).result = .ok (.int 7) := spelled.evaluate.trans rfl
    have short : (Text.ofNat 7).length ≤ Numeral.digitLimit := by decide
    exact resultText_of_int value short
  have given : [['7']].mapM (resultText "chain".toList) = .ok [['7']] := by
    rw [List.mapM_cons, seven]
    rfl
  obtain ⟨-, escapes⟩ := escapes_by_size Arithmetic.mem_grammars_chain (settingsOf "chain".toList expressions) rfl (.start .fresh [])
  exact ⟨(escapes _).mpr ⟨_, _, [], _, rfl, given, quotientOf_overflows, large⟩, large⟩

/-- A quotient out of range is neither a result nor an error that the command tells: its fault escapes, and nothing is
written. -/
theorem quotient_out_of_range_escapes :
    let ended := Toolkit.work ⟨spec, run⟩ (wordsOf "chain".toList [quotientOf 399]) none (.start .fresh [])
    ended.2 = .error (.failed .quotientTooLarge) ∧ ended.2 ≠ .ok () ∧ (∀ message, ended.2 ≠ .error (.refused message)) ∧
      (Answer.ofRun ended).fault = some .quotientTooLarge ∧ (Answer.ofRun ended).output.err = [] := by
  intro ended
  have words : ended = run (settingsOf "chain".toList [quotientOf 399]) (.start .fresh []) :=
    work_wordsOf Arithmetic.mem_grammars_chain _ (by simp)
  have before : [].mapM (resultText "chain".toList) = .ok [] := rfl
  obtain ⟨records, ending, reports, stops⟩ := printResults_stops before quotientOf_overflows (.start .fresh [])
  have ends := words.trans (stops [])
  cases reports with
  | zeroDivision division => cases division
  | unhandled =>
    rw [ends]
    refine ⟨rfl, ?_, fun message => ?_, rfl, rfl⟩
    · rintro ⟨⟩
    · rintro ⟨⟩

end Evaluate

end Command

end ParseKit
