import ParseKit.Command.Toolkit
import ParseKit.Proofs.Arithmetic.Journal
import ParseKit.Proofs.Logging.Quiet
import ParseKit.Proofs.Value.Format

/-!
Expressions on the command line. Main statement: the command prints the results in front of the first expression that has
none, and what stands behind that expression makes no difference; it ends well exactly if all expressions have results.
-/

namespace ParseKit

namespace Command

namespace Evaluate

/-- The text of the result of an expression, or why there is none. -/
def resultText (grammar expression : Text) : Except Fault Text := do
  Value.formatNumber (← (Arithmetic.evaluate expression grammar).result)

section resultText

variable {grammar expression : Text}

theorem resultText_of_value {value : Value} (ends : (Arithmetic.evaluate expression grammar).result = .ok value) :
    resultText grammar expression = Value.formatNumber value := by
  rw [resultText, ends]
  rfl

theorem resultText_of_int {n : Int} (ends : (Arithmetic.evaluate expression grammar).result = .ok (.int n))
    (short : Value.IsShort n) : resultText grammar expression = .ok (Text.ofInt n) := by
  rw [resultText_of_value ends, Value.formatNumber_int, Value.writeInt_of_short short]

theorem resultText_of_fault {fault : Fault} (ends : (Arithmetic.evaluate expression grammar).result = .error fault) :
    resultText grammar expression = .error fault := by
  rw [resultText, ends]
  rfl

end resultText

def lines (texts : List Text) : Text := (texts.map (· ++ ['\n'])).flatten

/-- The faults that the command tells about. -/
inductive Handled : Fault → Prop where
  | unparsed (expected actual : Value) (wording : Text) : Handled (.unparsed expected actual wording)
  | zeroDivision {fault : Fault} : fault.ZeroDivision → Handled fault

/-- What is logged about an expression without a result, and how the command ends with it. -/
inductive Reports (grammar expression : Text) : Fault → List LogRecord → Ending → Prop where
  | unparsed {expected actual wording : Text} : Parser.failureWording (.text expected) (.text actual) = .ok wording →
      Reports grammar expression (.unparsed (.text expected) (.text actual) wording)
        [Parser.failureRecord expected, unparsedRecord grammar expression] (.refused wording)
  | zeroDivision {fault : Fault} : fault.ZeroDivision →
      Reports grammar expression fault [] (.refused ("Division by zero in ".toList ++ Quoted.text expression))
  | unhandled {fault : Fault} : ¬ Handled fault → Reports grammar expression fault [] (.failed fault)

section reports

variable {grammar expression : Text} {fault : Fault} {records : List LogRecord} {ending : Ending}

theorem Reports.status (reports : Reports grammar expression fault records ending) : ending.status = 1 := by
  cases reports <;> rfl

theorem Reports.tell_out (reports : Reports grammar expression fault records ending) (o : Output) :
    (ending.tell o).out = o.out := by
  cases reports <;> rfl

theorem Reports.of_unparsed {expected actual : Value} {wording : Text}
    (reports : Reports grammar expression (.unparsed expected actual wording) records ending) :
    ending = .refused wording ∧ ∃ wanted, records = [Parser.failureRecord wanted, unparsedRecord grammar expression] := by
  cases reports with
  | unparsed => exact ⟨rfl, _, rfl⟩
  | zeroDivision division => cases division
  | unhandled unhandled => exact absurd (.unparsed ..) unhandled

theorem Reports.of_zeroDivision (reports : Reports grammar expression fault records ending) (division : fault.ZeroDivision) :
    records = [] ∧ ending = .refused ("Division by zero in ".toList ++ Quoted.text expression) := by
  cases reports with
  | unparsed => cases division
  | zeroDivision => exact ⟨rfl, rfl⟩
  | unhandled unhandled => exact absurd (.zeroDivision division) unhandled

theorem not_handled_of_numeric (numeric : fault.Numeric) (nonzero : ¬ fault.ZeroDivision) : ¬ Handled fault := by
  rintro (_ | division)
  · rcases numeric with _ | ⟨⟨⟩⟩ | ⟨⟨⟩⟩
  · exact nonzero division

theorem result_of_unhandled (unhandled : ¬ Handled fault) {records : List Event}
    (ends : Arithmetic.evaluate expression grammar = ⟨records, .error fault⟩) :
    result grammar expression = (recordsOf records, .error (.failed fault)) := by
  rw [result, ends]
  cases fault with
  | unparsed => exact absurd (.unparsed ..) unhandled
  | divisionByZero => exact absurd (.zeroDivision .integer) unhandled
  | floatDivisionByZero => exact absurd (.zeroDivision .float) unhandled
  | _ => rfl

theorem result_of_zeroDivision (division : fault.ZeroDivision) {records : List Event}
    (ends : Arithmetic.evaluate expression grammar = ⟨records, .error fault⟩) :
    result grammar expression =
      (recordsOf records, .error (.refused ("Division by zero in ".toList ++ Quoted.text expression))) := by
  rw [result, ends]
  cases division with
  | integer => rfl
  | float => rfl

end reports

theorem result_cases (grammar expression : Text) :
    (∃ text, resultText grammar expression = .ok text ∧ result grammar expression = ([], .ok text)) ∨
    ∃ fault records ending, resultText grammar expression = .error fault ∧
      Reports grammar expression fault records ending ∧ result grammar expression = (records, .error ending) := by
  have run := Arithmetic.evaluate_run expression grammar
  generalize ends : Arithmetic.evaluate expression grammar = r at run
  cases run with
  | number total =>
    have same := resultText_of_value (congrArg Run.result ends)
    have run : result grammar expression = ([], (Value.formatNumber total.toValue).mapError .failed) := by
      rw [result, ends]
      rfl
    rcases Value.formatNumber_cases total with ⟨text, formatted⟩ | ⟨n, -, -, long⟩
    · rw [formatted] at same run
      exact .inl ⟨text, same, run⟩
    · rw [long] at same run
      exact .inr ⟨_, [], _, same, .unhandled (by rintro (_ | ⟨⟨⟩⟩)), run⟩
  | unparsed worded =>
    have faults := resultText_of_fault (congrArg Run.result ends)
    exact .inr ⟨_, _, _, faults, .unparsed worded, by rw [result, ends]; rfl⟩
  | @fault fault numeric =>
    have faults := resultText_of_fault (congrArg Run.result ends)
    by_cases division : fault.ZeroDivision
    · exact .inr ⟨_, [], _, faults, .zeroDivision division, result_of_zeroDivision division ends⟩
    · have unhandled := not_handled_of_numeric numeric division
      exact .inr ⟨_, [], _, faults, .unhandled unhandled, result_of_unhandled unhandled ends⟩
  | unknown shown =>
    have faults := resultText_of_fault (congrArg Run.result ends)
    have unhandled : ¬ Handled (.missingKey shown) := by rintro (_ | ⟨⟨⟩⟩)
    exact .inr ⟨_, [], _, faults, .unhandled unhandled, result_of_unhandled unhandled ends⟩

section course

variable {grammar bad : Text} {before texts : List Text} {fault : Fault}

theorem result_of_text {expression text : Text} (given : resultText grammar expression = .ok text) :
    result grammar expression = ([], .ok text) := by
  rcases result_cases grammar expression with ⟨text', same, ends⟩ | ⟨fault, records, ending, refused, -, -⟩
  · rw [given] at same
    cases same
    exact ends
  · rw [given] at refused
    cases refused

theorem result_of_fault (refused : resultText grammar bad = .error fault) :
    ∃ records ending, Reports grammar bad fault records ending ∧ result grammar bad = (records, .error ending) := by
  rcases result_cases grammar bad with ⟨text, given, -⟩ | ⟨fault', records, ending, same, reports, ends⟩
  · rw [refused] at given
    cases given
  · rw [refused] at same
    cases same
    exact ⟨records, ending, reports, ends⟩

/-- Expressions that have texts are printed, and then the others have their turn. -/
theorem printResults_append (given : before.mapM (resultText grammar) = .ok texts) (others : List Text) (l : Logging) :
    printResults grammar (before ++ others) l = printResults grammar others (l.print (lines texts)) := by
  induction before generalizing texts l with
  | nil =>
    cases given
    simp [lines, Logging.print, Output.print]
  | cons expression before ih =>
    -- the first expression is printed, and the others run on what that leaves
    rw [List.mapM_cons] at given
    obtain ⟨text, first, given⟩ := Run.except_bind_eq_ok given
    obtain ⟨texts', later, given⟩ := Run.except_bind_eq_ok given
    cases given
    have printed : printResults grammar (expression :: (before ++ others)) l =
        printResults grammar (before ++ others) (l.print (text ++ ['\n'])) := by
      rw [printResults, result_of_text first]
      rfl
    rw [List.cons_append, printed, ih later, Logging.print_print]
    rfl

theorem printResults_of_texts {expressions : List Text} (given : expressions.mapM (resultText grammar) = .ok texts)
    (l : Logging) : printResults grammar expressions l = (l.print (lines texts), .ok ()) := by
  have run := printResults_append given [] l
  rwa [List.append_nil] at run

/-- An expression without a result ends the command, whatever stands behind it. -/
theorem printResults_of_result {records : List LogRecord} {ending : Ending} (given : before.mapM (resultText grammar) = .ok texts)
    (ends : result grammar bad = (records, .error ending)) (others : List Text) (l : Logging) :
    printResults grammar (before ++ bad :: others) l = ((l.print (lines texts)).logAll records, .error ending) := by
  rw [printResults_append given, printResults, ends]

theorem printResults_stops (given : before.mapM (resultText grammar) = .ok texts)
    (refused : resultText grammar bad = .error fault) (l : Logging) :
    ∃ records ending, Reports grammar bad fault records ending ∧ ∀ others,
      printResults grammar (before ++ bad :: others) l = ((l.print (lines texts)).logAll records, .error ending) := by
  obtain ⟨records, ending, reports, ends⟩ := result_of_fault refused
  exact ⟨records, ending, reports, fun others => printResults_of_result given ends others l⟩

theorem mapM_cases {α β : Type} (f : α → Except Fault β) (items : List α) :
    (∃ results, items.mapM f = .ok results) ∨
      ∃ before bad after results fault, items = before ++ bad :: after ∧ before.mapM f = .ok results ∧ f bad = .error fault := by
  induction items with
  | nil => exact .inl ⟨[], rfl⟩
  | cons item items ih =>
    cases first : f item with
    | error fault => exact .inr ⟨[], item, items, [], fault, rfl, rfl, first⟩
    | ok result =>
      have step (others : List α) : (item :: others).mapM f = (others.mapM f).map (result :: ·) := by
        rw [List.mapM_cons, first]
        rfl
      rcases ih with ⟨results, given⟩ | ⟨before, bad, after, results, fault, rfl, given, refused⟩
      · exact .inl ⟨result :: results, by rw [step, given]; rfl⟩
      · exact .inr ⟨item :: before, bad, after, result :: results, fault, rfl, by rw [step, given]; rfl, refused⟩

theorem printResults_cases (grammar : Text) (expressions : List Text) (l : Logging) :
    (∃ texts, expressions.mapM (resultText grammar) = .ok texts ∧
      printResults grammar expressions l = (l.print (lines texts), .ok ())) ∨
    ∃ before bad after texts fault records ending, expressions = before ++ bad :: after ∧
      before.mapM (resultText grammar) = .ok texts ∧ resultText grammar bad = .error fault ∧
      Reports grammar bad fault records ending ∧
      printResults grammar expressions l = ((l.print (lines texts)).logAll records, .error ending) := by
  rcases mapM_cases (resultText grammar) expressions with ⟨texts, given⟩ | ⟨before, bad, after, texts, fault, rfl, given, refused⟩
  · exact .inl ⟨texts, given, printResults_of_texts given l⟩
  · obtain ⟨records, ending, reports, stops⟩ := printResults_stops given refused l
    exact .inr ⟨before, bad, after, texts, fault, records, ending, rfl, given, refused, reports, stops after⟩

end course

section words

def wordsOf (grammar : Text) (expressions : List Text) : List Text :=
  "--grammar".toList :: grammar :: "--".toList :: expressions

def settingsOf (grammar : Text) (expressions : List Text) : Settings :=
  ⟨none, [("grammar".toList, .text grammar), ("expressions".toList, .texts expressions)]⟩

theorem read_wordsOf (grammar : Text) (expressions : List Text) :
    spec.read (wordsOf grammar expressions) = .ok ⟨[("grammar".toList, .text grammar)], expressions⟩ := by
  -- the page is long, and no word is compared with it
  unfold spec
  generalize evaluatePage = page
  cbv

theorem shown_texts (expressions : List Text) : (expressions.map Toml.Datum.text).map Toml.Datum.shown = expressions := by
  rw [List.map_map]
  exact List.map_id expressions

theorem settingsOnly_wordsOf {name : String} {p : Parser} (member : (name, p) ∈ Arithmetic.grammars) (s : Storage)
    {expressions : List Text} (nonempty : expressions ≠ []) :
    spec.settingsOnly s (wordsOf name.toList expressions) none = ([], .ok (settingsOf name.toList expressions)) := by
  obtain ⟨first, others, rfl⟩ := List.exists_cons_of_ne_nil nonempty
  have settled : spec.settingsOnly s (wordsOf name.toList (first :: others)) none =
      ([], .ok (settingsOf name.toList (((first :: others).map Toml.Datum.text).map Toml.Datum.shown))) := by
    simp only [Arithmetic.grammars, List.mem_cons, Prod.mk.injEq, List.not_mem_nil, or_false] at member
    rw [Spec.settingsOnly, read_wordsOf]
    unfold spec
    generalize evaluatePage = page
    rcases member with ⟨rfl, -⟩ | ⟨rfl, -⟩ | ⟨rfl, -⟩ <;> cbv
  rwa [shown_texts] at settled

theorem work_wordsOf {name : String} {p : Parser} (member : (name, p) ∈ Arithmetic.grammars) (l : Logging)
    {expressions : List Text} (nonempty : expressions ≠ []) :
    Toolkit.work ⟨spec, run⟩ (wordsOf name.toList expressions) none l = run (settingsOf name.toList expressions) l := by
  rw [Toolkit.work, settingsOnly_wordsOf member _ nonempty]
  rfl

end words

section informed

/-- Logging as the toolkit sets it up for level INFO. -/
def informed (s : Storage) (time : Text) : Logging :=
  ((Logging.start s time).configure { logger := commandLogger, level := .int Level.info }).1

/-- The line about an expression that does not parse. -/
def unparsedLine (time grammar expression : Text) : Text :=
  LineStyle.full.line time (unparsedRecord grammar expression) ++ ['\n']

/-- Of the two records about an expression that does not parse, level INFO lets the second one through. -/
theorem informed_logAll (s : Storage) (time text wanted grammar expression : Text) :
    (((informed s time).print text).logAll [Parser.failureRecord wanted, unparsedRecord grammar expression]).output.err =
      unparsedLine time grammar expression := by
  rfl

end informed

/-- Of the expressions that the command is given, the results in front of the first without one are printed, and only they.
If there is such an expression, the command ends with status 1, and the expressions behind it are not looked at; the text
of the error is that of the parse error, or it names the expression that divides by zero, and about an expression that
does not parse there is one record of level INFO, which a logger of that level writes to the second stream. Every grammar
and all expressions can be given. -/
theorem results_before_first_bad (settings : Settings) {l : Logging} (quiet : l.Quiet) :
    let grammar := (settings.text? "grammar".toList).getD []
    let expressions := settings.texts "expressions".toList
    let answer := Answer.ofRun (run settings l)
    (∀ texts, expressions.mapM (resultText grammar) = .ok texts → answer = ⟨0, l.output.print (lines texts), none⟩) ∧
    (∀ before bad after texts fault, expressions = before ++ bad :: after →
      before.mapM (resultText grammar) = .ok texts → resultText grammar bad = .error fault →
      answer.status = 1 ∧ answer.output.out = l.output.out ++ lines texts ∧
      ∃ records ending, Reports grammar bad fault records ending ∧ result grammar bad = (records, .error ending) ∧
        (∀ others, printResults grammar (before ++ bad :: others) l = ((l.print (lines texts)).logAll records, .error ending)) ∧
        (∀ expected actual wording, fault = .unparsed expected actual wording →
          ending = .refused wording ∧ records.filter (·.level = .info) = [unparsedRecord grammar bad] ∧
          ∀ s time, (Answer.ofRun (run settings (informed s time))).output.err =
            unparsedLine time grammar bad ++ Ending.errorLine wording) ∧
        (fault.ZeroDivision → records = [] ∧ ending = .refused ("Division by zero in ".toList ++ Quoted.text bad)) ∧
        ∀ message, ending = .refused message →
          answer.output.err = ((l.print (lines texts)).logAll records).output.err ++ Ending.errorLine message) ∧
    (answer.status = 0 ↔ ∃ texts, expressions.mapM (resultText grammar) = .ok texts) ∧
    ∀ name p (expressions : List Text), (name, p) ∈ Arithmetic.grammars → expressions ≠ [] →
      Toolkit.work ⟨spec, run⟩ (wordsOf name.toList expressions) none l = run (settingsOf name.toList expressions) l := by
  intro grammar expressions answer
  have printed (texts : List Text) (given : expressions.mapM (resultText grammar) = .ok texts) :
      answer = ⟨0, l.output.print (lines texts), none⟩ := congrArg Answer.ofRun (printResults_of_texts given l)
  refine ⟨printed, ?_, ⟨fun zero => ?_, ?_⟩, fun name p expressions member nonempty => work_wordsOf member l nonempty⟩
  · intro before bad after texts fault split given refused
    obtain ⟨records, ending, reports, found⟩ := result_of_fault refused
    have stops (others : List Text) := printResults_of_result given found others
    have ends : answer = .ofRun ((l.print (lines texts)).logAll records, .error ending) :=
      congrArg Answer.ofRun ((congrArg (printResults grammar · l) split).trans (stops after l))
    have kept := (quiet.print (lines texts)).logAll records
    rw [ends]
    refine ⟨reports.status, (reports.tell_out _).trans kept.out, records, ending, reports, found, fun others => stops others l, ?_,
      reports.of_zeroDivision, ?_⟩
    · rintro expected actual wording rfl
      obtain ⟨rfl, wanted, rfl⟩ := reports.of_unparsed
      refine ⟨rfl, rfl, fun s time => ?_⟩
      have ends := (congrArg (printResults grammar · (informed s time)) split).trans (stops after _)
      have told := congrArg (·.output.err) (congrArg Answer.ofRun ends)
      exact told.trans (congrArg (· ++ Ending.errorLine wording) (informed_logAll ..))
    · rintro message rfl
      rfl
  · rcases printResults_cases grammar expressions l with ⟨texts, given, -⟩ |
      ⟨before, bad, after, texts, fault, records, ending, split, given, refused, reports, run⟩
    · exact ⟨texts, given⟩
    · have status : answer.status = 1 := (congrArg (Answer.status ∘ Answer.ofRun) run).trans reports.status
      rw [status] at zero
      cases zero
  · rintro ⟨texts, given⟩
    rw [printed texts given]

/-- The result in front of a division by zero is printed, and the expression behind it, which would not parse, is not
looked at. -/
theorem division_stops_printing :
    let l := ((Logging.start .fresh []).configure { logger := commandLogger }).1
    let answer := Answer.ofRun (Toolkit.work ⟨spec, run⟩ (wordsOf "chain".toList ["1+2".toList, "1/0".toList, "+".toList]) none l)
    answer.status = 1 ∧ answer.output.out = "3\n".toList ∧ answer.output.err = "Error: Division by zero in '1/0'\n".toList := by
  intro l answer
  have quiet : l.Quiet := (Logging.quiet_start _ _).configure (.inr rfl)
  let expressions := ["1+2".toList, "1/0".toList, "+".toList]
  obtain ⟨-, stops, -, words⟩ := results_before_first_bad (settingsOf "chain".toList expressions) quiet
  have three : resultText "chain".toList "1+2".toList = .ok ['3'] := by
    have spelled : Arithmetic.Chain.Spells ⟨['1'], [(.add, ['2'])]⟩ "1+2".toList := Arithmetic.readChain_iff.mp (by cbv)
    have value : (Arithmetic.evaluate "1+2".toList "chain".toList).result = .ok (.int 3) := spelled.evaluate.trans rfl
    have short : (Text.ofNat 3).length ≤ Numeral.digitLimit := by decide
    exact resultText_of_int value short
  have given : ["1+2".toList].mapM (resultText "chain".toList) = .ok [['3']] := by
    rw [List.mapM_cons, three]
    rfl
  have faults : resultText "chain".toList "1/0".toList = .error .divisionByZero := by
    have spelled : Arithmetic.Chain.Spells ⟨['1'], [(.truediv, ['0'])]⟩ "1/0".toList := Arithmetic.readChain_iff.mp (by cbv)
    exact resultText_of_fault (spelled.evaluate.trans rfl)
  obtain ⟨status, out, records, ending, -, -, -, -, named, err⟩ := stops _ _ ["+".toList] _ _ rfl given faults
  have same : answer = .ofRun (run (settingsOf "chain".toList expressions) l) :=
    congrArg Answer.ofRun (words _ _ expressions Arithmetic.mem_grammars_chain (by simp [expressions]))
  rw [same]
  obtain ⟨rfl, rfl⟩ := named .integer
  exact ⟨status, out, err _ rfl⟩

end Evaluate

end Command

end ParseKit
