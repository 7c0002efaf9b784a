import ParseKit.Parser.Report
import ParseKit.Proofs.Cleanup
import ParseKit.Proofs.Consumption
import ParseKit.Proofs.Repetition
import ParseKit.Proofs.Wording

/-!
Totality: a fault only ever comes from outside. Main statement: a parser put together from primitives succeeds or
fails on every sequence where its functions and scripts do not fault, and what a failure becomes is known.
-/

namespace ParseKit

/-- Parsers that are put together from primitives, on an input where no function that they were given faults on what
it receives, and no script that they run raises. Only what is run there counts. -/
inductive Faultless : Parser → Value → Prop where
  | literal {start input : Value} {p : Parser} : Parser.literal start = .ok p → Faultless p input
  | matching (p : Pattern) (input : Value) : Faultless (.matching p) input
  | endOfInput (input : Value) : Faultless .endOfInput input
  | succeed (value input : Value) : Faultless (.succeed value) input
  | map {p : Parser} {f : Value → Except Fault Value} {input : Value} : Faultless p input →
      (∀ data rest, (p input).result = .ok (.success data rest) → ∃ value, f data = .ok value) →
      Faultless (.map f p) input
  | firstOf_nil (input : Value) : Faultless (.firstOf []) input
  | firstOf_cons {p : Parser} {ps : List Parser} {input : Value} : Faultless p input →
      (∀ expected actual, (p input).result = .ok (.failure expected actual) → Faultless (.firstOf ps) input) →
      Faultless (.firstOf (p :: ps)) input
  | inSequence_nil {f : List Value → Except Fault Value} {done : List Value} {value : Value} (input : Value) :
      f done.reverse = .ok value → Faultless (.inSequence f [] done) input
  | inSequence_cons {f : List Value → Except Fault Value} {p : Parser} {ps : List Parser} {done : List Value}
      {input : Value} : Faultless p input →
      (∀ data rest, (p input).result = .ok (.success data rest) →
        Faultless (.inSequence f ps (data :: done)) rest) → Faultless (.inSequence f (p :: ps) done) input
  | label {p : Parser} {input : Value} (expected : Value) : Faultless p input → Faultless (.label p expected) input
  | many {p : Parser} {input : Value} :
      (∀ events items place, p.Rounds input events items place → Faultless p place) → Faultless p.many input
  | bind {p : Parser} {f : Value → Except Fault Parser} {input : Value} : Faultless p input →
      (∀ data rest, (p input).result = .ok (.success data rest) → ∃ q, f data = .ok q) →
      (∀ data rest q, (p input).result = .ok (.success data rest) → f data = .ok q → Faultless q rest) →
      Faultless (.bind p f) input
  | script {body : Script} {input : Value} (cleanup : Option Text) :
      (∀ events p next place, body.Advances input events (.await p next) place → Faultless p place) →
      (∀ events fault place, ¬ body.Advances input events (.raise fault) place) →
      Faultless (.script body cleanup) input

theorem Value.exists_cut {input : Value} (count : Nat) (sequence : input.isSequence) :
    ∃ front rest, input.take? count = some front ∧ input.drop? count = some rest := by
  cases input with
  | text | bytes | bytearray | list | tuple => exact ⟨_, _, rfl, rfl⟩
  | _ => cases sequence

namespace Parser

def SettlesOn (p : Parser) (input : Value) : Prop :=
  ∃ outcome, (p input).result = .ok outcome ∧ outcome.remaining.IsSuffix input

theorem Consumes.settlesOn {p : Parser} {input : Value} (consumes : p.Consumes) (sequence : input.isSequence)
    (ends : ∃ outcome, (p input).result = .ok outcome) : p.SettlesOn input := by
  obtain ⟨outcome, ends⟩ := ends
  exact ⟨outcome, ends, consumes input outcome sequence ends⟩

theorem exists_beginsWith {input start : Value} (sequence : input.isSequence) (given : start.isSequence) :
    ∃ holds, beginsWith input start = .ok holds := by
  obtain ⟨count, measured⟩ := Value.exists_length given
  obtain ⟨front, -, taken, -⟩ := Value.exists_cut count sequence
  exact ⟨front.equal start, beginsWith_eq_equal measured taken⟩

theorem settlesOn_literal {start input : Value} {p : Parser} (made : literal start = .ok p) (sequence : input.isSequence) :
    p.SettlesOn input := by
  have consumes := consumes_literal made
  obtain ⟨given, expected, rfl⟩ := literal_eq_ok made
  obtain ⟨holds, begins⟩ := exists_beginsWith sequence given
  obtain ⟨-, behind, -, dropped⟩ := Value.exists_cut (start.length?.getD 0) sequence
  have cut : rest (start.length?.getD 0) input = .ok behind := by simp [rest, dropped]
  refine consumes.settlesOn sequence ?_
  cases holds
  · exact ⟨.failure expected input, by rw [literalOr_of_differs begins]⟩
  · exact ⟨.success start behind, by rw [literalOr_of_begins begins cut]⟩

theorem settlesOn_matching (p : Pattern) {input : Value} (sequence : input.isSequence) : (matching p).SettlesOn input :=
  (consumes_matching p).settlesOn sequence ⟨_, rfl⟩

theorem settlesOn_endOfInput {input : Value} (sequence : input.isSequence) : endOfInput.SettlesOn input := by
  refine consumes_endOfInput.settlesOn sequence ?_
  rcases empty : input.isEmpty? with _ | _ | _
  · cases input <;> simp [Value.isEmpty?, Value.isSequence] at empty sequence
  · exact ⟨_, by rw [endOfInput, empty]; rfl⟩
  · exact ⟨_, by rw [endOfInput, empty]; rfl⟩

theorem settlesOn_succeed (value : Value) {input : Value} (sequence : input.isSequence) :
    (succeed value).SettlesOn input :=
  (consumes_succeed value).settlesOn sequence ⟨_, rfl⟩

variable {p : Parser} {input : Value}

/-- What follows a parser that settles also comes to an outcome in the input, if it does so behind each success. -/
theorem SettlesOn.andThen {next : Outcome → Run Outcome} (settles : p.SettlesOn input)
    (success : ∀ data rest, (p input).result = .ok (.success data rest) → rest.isSequence →
      ∃ outcome, (next (.success data rest)).result = .ok outcome ∧ outcome.remaining.IsSuffix rest)
    (failure : ∀ expected actual, (p input).result = .ok (.failure expected actual) → actual.IsSuffix input →
      ∃ outcome, (next (.failure expected actual)).result = .ok outcome ∧ outcome.remaining.IsSuffix input) :
    ∃ outcome, (p input >>= next).result = .ok outcome ∧ outcome.remaining.IsSuffix input := by
  obtain ⟨outcome, given, suffix⟩ := settles
  cases outcome with
  | success data rest =>
    obtain ⟨outcome, ends, further⟩ := success data rest given suffix.isSequence
    exact ⟨outcome, Run.result_bind_of_ok given ends, further.trans suffix⟩
  | failure expected actual =>
    obtain ⟨outcome, ends, inside⟩ := failure expected actual given suffix
    exact ⟨outcome, Run.result_bind_of_ok given ends, inside⟩

theorem SettlesOn.map {f : Value → Except Fault Value} (settles : p.SettlesOn input)
    (total : ∀ data rest, (p input).result = .ok (.success data rest) → ∃ value, f data = .ok value) :
    (p.map f).SettlesOn input := by
  refine settles.andThen ?_ ?_
  · intro data rest given sequence
    obtain ⟨value, applied⟩ := total data rest given
    exact ⟨.success value rest, Run.result_bind_of_ok applied rfl, .refl sequence⟩
  · intro expected actual _ inside
    exact ⟨_, rfl, inside⟩

theorem SettlesOn.firstOf {ps : List Parser} (settles : p.SettlesOn input)
    (others : ∀ expected actual, (p input).result = .ok (.failure expected actual) → (firstOf ps).SettlesOn input) :
    (firstOf (p :: ps)).SettlesOn input := by
  refine settles.andThen ?_ ?_
  · intro data rest _ sequence
    exact ⟨_, rfl, .refl sequence⟩
  · intro expected actual given _
    exact others expected actual given

theorem SettlesOn.inSequence {f : List Value → Except Fault Value} {ps : List Parser} {done : List Value}
    (settles : p.SettlesOn input)
    (others : ∀ data rest, (p input).result = .ok (.success data rest) → rest.isSequence →
      (inSequence f ps (data :: done)).SettlesOn rest) : (inSequence f (p :: ps) done).SettlesOn input := by
  refine settles.andThen others ?_
  intro expected actual _ inside
  exact ⟨_, rfl, inside⟩

theorem SettlesOn.label (expected : Value) (settles : p.SettlesOn input) : (p.label expected).SettlesOn input := by
  refine settles.andThen ?_ ?_
  · intro data rest _ sequence
    exact ⟨_, rfl, .refl sequence⟩
  · intro other actual _ inside
    exact ⟨.failure expected actual, rfl, inside⟩

theorem SettlesOn.bind {f : Value → Except Fault Parser} (settles : p.SettlesOn input)
    (total : ∀ data rest, (p input).result = .ok (.success data rest) → ∃ q, f data = .ok q)
    (next : ∀ data rest q, (p input).result = .ok (.success data rest) → f data = .ok q → rest.isSequence →
      q.SettlesOn rest) : (p.bind f).SettlesOn input := by
  refine settles.andThen ?_ ?_
  · intro data rest given sequence
    obtain ⟨q, made⟩ := total data rest given
    obtain ⟨outcome, ends, suffix⟩ := next data rest q given made sequence
    exact ⟨outcome, Run.result_bind_of_ok made ends, suffix⟩
  · intro expected actual _ inside
    exact ⟨_, rfl, inside⟩

theorem Rounds.isSuffix {rest : Value} {events : List Event} {items : List Value}
    (rounds : p.Rounds input events items rest) (sequence : input.isSequence)
    (settles : ∀ events items place, p.Rounds input events items place → place.isSequence → p.SettlesOn place) :
    rest.IsSuffix input := by
  induction rounds with
  | start input => exact .refl sequence
  | @round input data middle rest heard events items given shorter _ ih =>
    obtain ⟨outcome, ends, suffix⟩ := settles _ _ _ (.start input) sequence
    rw [given] at ends
    cases ends
    refine (ih suffix.isSequence ?_).trans suffix
    intro events items place rounds
    exact settles _ _ _ (.round given shorter rounds)

theorem concluded_of_ok {items : List Value} {rest : Value} {last : Run Outcome} {outcome : Outcome}
    (given : last.result = .ok outcome) (measured : ∃ size, outcome.remaining.length? = some size) :
    (concluded items rest last).result = .ok (.success (.list items) rest) := by
  obtain ⟨heard, result⟩ := last
  cases given
  cases outcome with
  | failure expected actual => rfl
  | success data next =>
    obtain ⟨size, measured⟩ := measured
    simp only [Outcome.remaining] at measured
    simp [concluded, measured]

theorem SettlesOn.many (sequence : input.isSequence)
    (settles : ∀ events items place, p.Rounds input events items place → place.isSequence → p.SettlesOn place) :
    p.many.SettlesOn input := by
  obtain ⟨events, items, rest, rounds, stops⟩ := exists_rounds p input
  have suffix := rounds.isSuffix sequence settles
  obtain ⟨size, measured⟩ := Value.exists_length sequence
  obtain ⟨outcome, given, left⟩ := settles _ _ _ rounds suffix.isSequence
  obtain ⟨size', measured'⟩ := Value.exists_length left.isSequence
  refine ⟨.success (.list items) rest, ?_, suffix⟩
  rw [rounds.many_eq stops measured]
  exact concluded_of_ok given ⟨size', measured'⟩

theorem settlesOn_meaning (body : Script) (sequence : input.isSequence)
    (settles : ∀ events p next place, body.Advances input events (.await p next) place → place.isSequence →
      p.SettlesOn place)
    (quiet : ∀ events fault place, ¬ body.Advances input events (.raise fault) place) :
    body.meaning.SettlesOn input := by
  induction body generalizing input with
  | done value => exact settlesOn_succeed value sequence
  | raise fault => exact absurd (.start _ _) (quiet [] fault input)
  | note value next ih =>
    refine ih sequence ?_ ?_
    · intro events p after place comes
      exact settles _ p after place (.note value comes)
    · intro events fault place comes
      exact quiet _ fault place (.note value comes)
  | await p next ih =>
    refine (settles [] p next input (.start _ _) sequence).bind (fun data _ _ => ⟨_, rfl⟩) ?_
    intro data rest q given made still
    cases made
    have given : p input = ⟨(p input).events, .ok (.success data rest)⟩ := by rw [← given]
    refine ih data still ?_ ?_
    · intro events q after place comes
      exact settles _ q after place (.await given comes)
    · intro events fault place comes
      exact quiet _ fault place (.await given comes)

end Parser

theorem Faultless.settlesOn {p : Parser} {input : Value} (faultless : Faultless p input) (sequence : input.isSequence) :
    p.SettlesOn input := by
  induction faultless with
  | literal made => exact Parser.settlesOn_literal made sequence
  | matching p input => exact Parser.settlesOn_matching p sequence
  | endOfInput input => exact Parser.settlesOn_endOfInput sequence
  | succeed value input => exact Parser.settlesOn_succeed value sequence
  | map _ total ih => exact (ih sequence).map total
  | firstOf_nil input => exact ⟨_, rfl, .refl sequence⟩
  | firstOf_cons _ _ first others =>
    exact (first sequence).firstOf fun expected actual fails => others expected actual fails sequence
  | inSequence_nil input applied => exact ⟨_, Run.result_bind_of_ok applied rfl, .refl sequence⟩
  | inSequence_cons _ _ first others => exact (first sequence).inSequence others
  | label expected _ ih => exact (ih sequence).label expected
  | many _ ih => exact .many sequence ih
  | bind _ total _ first next => exact (first sequence).bind total next
  | @script body input cleanup _ quiet ih =>
    obtain ⟨outcome, ends, suffix⟩ := Parser.settlesOn_meaning body sequence ih quiet
    refine ⟨outcome, ?_, suffix⟩
    rw [Parser.script_apply]
    exact ends

/-- Where nothing faults that a parser was given, it succeeds or fails. A success is what parsing returns, and nothing
is added to the journal. A failure is recorded once and becomes a fault with its own expectation and place, whose
wording is known unless some integer in it is too long to be written. -/
theorem Faultless.parse_settles {p : Parser} {input : Value} (faultless : Faultless p input)
    (sequence : input.isSequence) :
    (∃ data rest, (p input).result = .ok (.success data rest) ∧
      p.parse input = ⟨(p input).events, .ok ⟨data, rest⟩⟩) ∨
    (∃ expected actual, (p input).result = .ok (.failure expected actual) ∧
      ((∀ n ∈ expected.integers ++ actual.integers, Value.IsShort n) →
        ∃ wanted found, expected.describe = .ok wanted ∧ actual.render = .ok found ∧
          p.parse input =
            ⟨(p input).events ++ [.record
                ⟨"pcomb.parsing.driver".toList, Level.debug, "Parse failed; expected ".toList ++ wanted⟩],
              .error (.unparsed expected actual
                ("Parse error. Expected ".toList ++ wanted ++ ". Instead found ".toList ++ found ++ ['.']))⟩)) := by
  obtain ⟨outcome, given, -⟩ := faultless.settlesOn sequence
  cases outcome with
  | success data rest => exact .inl ⟨data, rest, given, Parser.parse_of_success sequence given⟩
  | failure expected actual =>
    refine .inr ⟨expected, actual, given, fun short => ?_⟩
    obtain ⟨wanted, described⟩ := Value.exists_describe expected fun n member => short n (by simp [member])
    obtain ⟨found, rendered⟩ := Value.exists_render actual fun n member => short n (by simp [member])
    have worded : Parser.failureWording expected actual = .ok
        ("Parse error. Expected ".toList ++ wanted ++ ". Instead found ".toList ++ found ++ ['.']) := by
      rw [Parser.failureWording, described, rendered]
      rfl
    exact ⟨wanted, found, described, rendered, Parser.parse_of_failure sequence given described worded⟩

/-- A repetition that measures what it takes, with an alternative of another kind in front, and a failure behind it. -/
theorem ones_settle :
    let one := Parser.literalOr (.text "'1'".toList) (.text ['1'])
    let other := Parser.literalOr (.text "'(None,)'".toList) (.tuple [.none])
    let measure (data : Value) : Except Fault Value :=
      match data.length? with
      | some size => .ok (.int size)
      | none => .error .typeMismatch
    let item := Parser.firstOf [other, one.map measure]
    let p := Parser.lexeme .endOfInput item.many
    let input := Value.text ['1', '1', 'x']
    Faultless p input ∧ input.isSequence ∧
      (p input).result = .ok (.failure (.ofString "end of input") (.text ['x'])) ∧
      ∃ wanted found, (Value.ofString "end of input").describe = .ok wanted ∧ (Value.text ['x']).render = .ok found ∧
        p.parse input =
          ⟨(p input).events ++ [.record
              ⟨"pcomb.parsing.driver".toList, Level.debug, "Parse failed; expected ".toList ++ wanted⟩],
            .error (.unparsed (.ofString "end of input") (.text ['x'])
              ("Parse error. Expected ".toList ++ wanted ++ ". Instead found ".toList ++ found ++ ['.']))⟩ := by
  intro one other measure item p input
  have made : Parser.literal (.text ['1']) = .ok one := rfl
  have made' : Parser.literal (.tuple [.none]) = .ok other := rfl
  have measured (place data rest : Value) (given : (one place).result = .ok (.success data rest)) :
      ∃ value, measure data = .ok value := by
    obtain ⟨-, rfl, -⟩ := Parser.literalOr_success given
    exact ⟨.int 1, rfl⟩
  have everywhere (place : Value) : Faultless item place :=
    .firstOf_cons (.literal made') fun _ _ _ =>
      .firstOf_cons (.map (.literal made) (measured place)) fun _ _ _ => .firstOf_nil place
  have faultless : Faultless p input := by
    refine .inSequence_cons (.many fun _ _ place _ => everywhere place) fun data rest _ => ?_
    refine .inSequence_cons (.endOfInput rest) fun data' rest' _ => ?_
    exact .inSequence_nil rest' (rfl : Parser.keepFirst [data, data'] = .ok data)
  have failed : (p input).result = .ok (.failure (.ofString "end of input") (.text ['x'])) := by
    simp only [p, item, one, other, measure, input]
    cbv
  refine ⟨faultless, rfl, failed, ?_⟩
  rcases faultless.parse_settles rfl with ⟨data, rest, given, -⟩ | ⟨expected, actual, given, reports⟩
  · rw [failed] at given
    cases given
  · rw [failed] at given
    cases given
    exact reports (by simp [Value.ofString, Value.integers])

end ParseKit
