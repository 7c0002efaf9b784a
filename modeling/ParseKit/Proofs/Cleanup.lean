import ParseKit.Proofs.Sequencing

/-!
Cleaning up: the cleanup of a script is the last event of each of its runs, and where one failure or fault
ends several scripts inside one another, they are cleaned up from the innermost outwards.
-/

namespace ParseKit

def Run.Unsuccessful (r : Run Outcome) : Prop := ∀ data rest, r.result ≠ .ok (.success data rest)

namespace Script

/-- A script on an input comes, after some events, to what is left of it and of the input. -/
inductive Advances : Script → Value → List Event → Script → Value → Prop where
  | start (body : Script) (input : Value) : Advances body input [] body input
  | note {next later : Script} {input rest : Value} {events : List Event} (value : Value) :
      Advances next input events later rest →
      Advances (.note value next) input (.note value :: events) later rest
  | await {p : Parser} {next : Value → Script} {later : Script} {input data middle rest : Value}
      {events more : List Event} : p input = ⟨events, .ok (.success data middle)⟩ →
      Advances (next data) middle more later rest →
      Advances (.await p next) input (events ++ more) later rest

theorem Advances.meaning_eq {body later : Script} {input rest : Value} {before : List Event}
    (comes : body.Advances input before later rest) :
    body.meaning input = (later.meaning rest).precededBy before := by
  induction comes with
  | start body input => rfl
  | note value _ ih =>
    simp only [meaning]
    rw [ih, Run.precededBy_precededBy, List.singleton_append]
  | await gives _ ih =>
    rw [meaning, Parser.bind_apply, gives]
    simp only [Run.ofExcept, Run.ok_bind, Run.precededBy_nil]
    rw [ih, Run.precededBy_precededBy]

end Script

namespace Parser

theorem events_bind (p : Parser) (f : Value → Except Fault Parser) (input : Value) :
    ∃ after, (p.bind f input).events = (p input).events ++ after := by
  rw [bind_apply]
  rcases p input with ⟨events, fault | ⟨data, rest⟩ | ⟨expected, actual⟩⟩
  · exact ⟨[], (List.append_nil _).symm⟩
  · exact ⟨_, rfl⟩
  · exact ⟨[], (List.append_nil _).symm⟩

theorem bind_unsuccessful (p : Parser) (f : Value → Except Fault Parser) (input : Value)
    (ends : (p input).Unsuccessful) : p.bind f input = p input := by
  rw [bind_apply]
  rcases same : p input with ⟨events, fault | ⟨data, rest⟩ | ⟨expected, actual⟩⟩
  · rfl
  · exact absurd (by rw [same]) (ends data rest)
  · rfl

theorem events_label (p : Parser) (expected input : Value) : (p.label expected input).events = (p input).events := by
  rcases same : p input with ⟨events, fault | ⟨data, rest⟩ | ⟨found, actual⟩⟩ <;>
    simp [label, same, Run.pure_def, Run.precededBy]

theorem label_unsuccessful (p : Parser) (expected input : Value) (ends : (p input).Unsuccessful) :
    (p.label expected input).Unsuccessful := by
  intro data rest given
  obtain ⟨first, inside, given⟩ := Run.result_bind_eq_ok given
  cases first with
  | success data' rest' => exact ends data' rest' inside
  | failure expected actual => cases given

theorem script_unsuccessful {body : Script} {input rest : Value} {before : List Event} {p : Parser}
    {next : Value → Script} (tag : Text) (comes : body.Advances input before (.await p next) rest)
    (ends : (p rest).Unsuccessful) :
    script body (some tag) input = ((p rest).precededBy before).followedBy [.cleanup tag] := by
  rw [script_apply, comes.meaning_eq, Script.meaning, bind_unsuccessful _ _ _ ends]
  rfl

end Parser

/-- The second run leads into the first through scripts with the given cleanups, the innermost first. What
stands between two scripts adds no events behind an inner run that gives no success, and gives none itself. -/
inductive Encloses (inner : Run Outcome) : List Text → Run Outcome → Prop where
  | itself : Encloses inner [] inner
  | handedOn {tags : List Text} {outer between : Run Outcome} (before : List Event) :
      Encloses inner tags outer → (outer.Unsuccessful → between.events = before ++ outer.events) →
      (outer.Unsuccessful → between.Unsuccessful) → Encloses inner tags between
  | script {tags : List Text} {body : Script} {input rest : Value} {before : List Event} {p : Parser}
      {next : Value → Script} (tag : Text) : body.Advances input before (.await p next) rest →
      Encloses inner tags (p rest) → Encloses inner (tags ++ [tag]) (Parser.script body (some tag) input)

namespace Encloses

/-- An unsuccessful end passes through all scripts around it, and each cleans up before those around it do. -/
theorem unwinds {inner outer : Run Outcome} {tags : List Text} (encloses : Encloses inner tags outer)
    (ends : inner.Unsuccessful) :
    outer.Unsuccessful ∧ ∃ before, outer.events = before ++ inner.events ++ tags.map Event.cleanup := by
  induction encloses with
  | itself => exact ⟨ends, [], by simp⟩
  | @handedOn tags outer between before _ adds stays ih =>
    obtain ⟨stopped, first, events⟩ := ih
    exact ⟨stays stopped, before ++ first, by simp [adds stopped, events]⟩
  | @script tags body input rest before p next tag comes _ ih =>
    obtain ⟨stopped, first, events⟩ := ih
    rw [Parser.script_unsuccessful tag comes stopped]
    exact ⟨stopped, before ++ first, by simp [Run.precededBy, Run.followedBy, events]⟩

theorem label {inner : Run Outcome} {tags : List Text} {p : Parser} {input : Value} (expected : Value)
    (encloses : Encloses inner tags (p input)) : Encloses inner tags (p.label expected input) :=
  .handedOn [] encloses (fun _ => Parser.events_label p expected input)
    (Parser.label_unsuccessful p expected input)

end Encloses

/-- Every run of a script with a cleanup ends as it does without one, and its last event, behind what the
script means and behind every parser that it comes to, is the one cleanup; where such a parser gives no
success, the script ends as the parser does. An unsuccessful end that passes through scripts inside one
another is followed by their cleanups from the innermost outwards. -/
theorem script_cleanup :
    (∀ (body : Script) (tag : Text) (input : Value),
      (Parser.script body (some tag) input).result = (Parser.script body none input).result ∧
      (Parser.script body (some tag) input).events = (body.meaning input).events ++ [.cleanup tag]) ∧
    (∀ (body : Script) (tag : Text) (input rest : Value) (before : List Event) (p : Parser)
      (next : Value → Script), body.Advances input before (.await p next) rest →
      (∃ after, (Parser.script body (some tag) input).events =
        before ++ (p rest).events ++ after ++ [.cleanup tag]) ∧
      ((p rest).Unsuccessful → (Parser.script body (some tag) input).result = (p rest).result)) ∧
    (∀ (inner outer : Run Outcome) (tags : List Text), Encloses inner tags outer → inner.Unsuccessful →
      outer.Unsuccessful ∧ ∃ before, outer.events = before ++ inner.events ++ tags.map Event.cleanup) := by
  refine ⟨fun body tag input => ?_, ?_, fun inner outer tags => Encloses.unwinds⟩
  · rw [Parser.script_none, Parser.script_apply]
    exact ⟨rfl, rfl⟩
  · intro body tag input rest before p next comes
    refine ⟨?_, fun stopped => by rw [Parser.script_unsuccessful tag comes stopped]; rfl⟩
    obtain ⟨after, events⟩ := Parser.events_bind p (fun data => .ok (next data).meaning) rest
    refine ⟨after, ?_⟩
    rw [Parser.script_apply, comes.meaning_eq, Script.meaning]
    simp [Run.followedBy, Run.precededBy, Coroutine.cleanupEvents, events]

/-- A failure inside two scripts, with a label between them: the inner one cleans up first. -/
theorem nested_scripts_clean_up :
    let refused := Parser.fail (.text ['x']) (.text ['y'])
    let inner := Parser.script (.note .none (.await (Parser.fail (.text ['x'])) .done)) (some ['a'])
    let labelled := inner.label (.text ['z'])
    let body : Script := .await (Parser.succeed .none) fun _ => .await labelled .done
    let outer := Parser.script body (some ['b']) (.text ['y'])
    (body.Advances (.text ['y']) [] (.await labelled .done) (.text ['y']) ∧
      (∃ after, outer.events = [] ++ (labelled (.text ['y'])).events ++ after ++ [.cleanup ['b']]) ∧
      (labelled (.text ['y'])).Unsuccessful ∧ outer.result = (labelled (.text ['y'])).result) ∧
    Encloses refused [['a'], ['b']] outer ∧ refused.Unsuccessful ∧ outer.Unsuccessful ∧
      ∃ before, outer.events = before ++ refused.events ++ [.cleanup ['a'], .cleanup ['b']] := by
  intro refused inner labelled body outer
  have gives : Parser.succeed .none (.text ['y']) = ⟨[], .ok (.success .none (.text ['y']))⟩ := rfl
  have comes : body.Advances (.text ['y']) ([] ++ []) (.await labelled .done) (.text ['y']) :=
    .await gives (.start _ _)
  have once : Encloses refused ([] ++ [['a']]) (inner (.text ['y'])) :=
    .script ['a'] (.note .none (.start _ _)) .itself
  have twice : Encloses refused ([['a']] ++ [['b']]) outer := .script ['b'] comes (once.label _)
  have ends : refused.Unsuccessful := fun data rest => by simp [refused, Parser.fail, Run.pure_def]
  have stopped : (labelled (.text ['y'])).Unsuccessful := ((once.label _).unwinds ends).1
  have passed := script_cleanup.2.1 _ ['b'] _ _ _ _ _ comes
  exact ⟨⟨comes, passed.1, stopped, passed.2 stopped⟩, twice, ends, script_cleanup.2.2 _ _ _ twice ends⟩

end ParseKit
