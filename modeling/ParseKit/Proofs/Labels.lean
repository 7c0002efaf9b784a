import ParseKit.Proofs.Repetition
import ParseKit.Proofs.Sequencing

/-!
Labels: what parsers say they expected decides nothing. Main statement: a parser with some labels changed or
taken away does the same on every input, but for the expectation that its failures name.
-/

namespace ParseKit

/-- Two runs that differ at most in what a failure says it expected. -/
inductive Run.Alike : Run Outcome → Run Outcome → Prop where
  | fault (events : List Event) (fault : Fault) : Alike ⟨events, .error fault⟩ ⟨events, .error fault⟩
  | success (events : List Event) (data rest : Value) :
      Alike ⟨events, .ok (.success data rest)⟩ ⟨events, .ok (.success data rest)⟩
  | failure (events : List Event) (expected expected' actual : Value) :
      Alike ⟨events, .ok (.failure expected actual)⟩ ⟨events, .ok (.failure expected' actual)⟩

namespace Run.Alike

variable {r r' : Run Outcome}

theorem refl (r : Run Outcome) : r.Alike r := by
  obtain ⟨events, fault | ⟨data, rest⟩ | ⟨expected, actual⟩⟩ := r
  · exact .fault events fault
  · exact .success events data rest
  · exact .failure events expected expected actual

theorem precededBy (events : List Event) (alike : r.Alike r') : (r.precededBy events).Alike (r'.precededBy events) := by
  cases alike with
  | fault => exact .fault _ _
  | success => exact .success _ _ _
  | failure => exact .failure _ _ _ _

theorem followedBy (events : List Event) (alike : r.Alike r') : (r.followedBy events).Alike (r'.followedBy events) := by
  cases alike with
  | fault => exact .fault _ _
  | success => exact .success _ _ _
  | failure => exact .failure _ _ _ _

theorem bind {next next' : Outcome → Run Outcome} (alike : r.Alike r')
    (success : ∀ data rest, (next (.success data rest)).Alike (next' (.success data rest)))
    (failure : ∀ expected expected' actual,
      (next (.failure expected actual)).Alike (next' (.failure expected' actual))) :
    (r >>= next).Alike (r' >>= next') := by
  cases alike with
  | fault events fault => exact .fault events fault
  | success events data rest => exact (success data rest).precededBy events
  | failure events expected expected' actual => exact (failure expected expected' actual).precededBy events

end Run.Alike

namespace Parser

def Alike (p q : Parser) : Prop := ∀ input, (p input).Alike (q input)

namespace Alike

variable {p q : Parser}

theorem refl (p : Parser) : p.Alike p := fun input => .refl (p input)

theorem label (expected expected' : Value) (alike : p.Alike q) : (p.label expected).Alike (q.label expected') := by
  intro input
  refine (alike input).bind ?_ ?_
  · intro data rest
    exact .refl _
  · intro _ _ actual
    exact .failure [] expected expected' actual

theorem label_left (expected : Value) (alike : p.Alike q) : (p.label expected).Alike q := by
  intro input
  rw [← bind_pure (q input)]
  refine (alike input).bind ?_ ?_
  · intro data rest
    exact .refl _
  · intro _ expected' actual
    exact .failure [] expected expected' actual

theorem map (f : Value → Except Fault Value) (alike : p.Alike q) : (p.map f).Alike (q.map f) := by
  intro input
  refine (alike input).bind ?_ ?_
  · intro data rest
    exact .refl _
  · intro expected expected' actual
    exact .failure [] expected expected' actual

theorem spy (name : Text) (alike : p.Alike q) : (p.spy name).Alike (q.spy name) :=
  fun input => (alike input).precededBy [.call name input]

theorem firstOf (pairs : List (Parser × Parser)) (alike : ∀ pair ∈ pairs, pair.1.Alike pair.2) :
    (firstOf (pairs.map Prod.fst)).Alike (.firstOf (pairs.map Prod.snd)) := by
  induction pairs with
  | nil => exact .refl _
  | cons pair pairs ih =>
    have others := ih fun other member => alike other (List.mem_cons_of_mem _ member)
    intro input
    refine (alike pair (by simp) input).bind ?_ ?_
    · intro data rest
      exact .refl _
    · intro _ _ _
      exact others input

theorem inSequence (f : List Value → Except Fault Value) (pairs : List (Parser × Parser))
    (alike : ∀ pair ∈ pairs, pair.1.Alike pair.2) (done : List Value) :
    (inSequence f (pairs.map Prod.fst) done).Alike (.inSequence f (pairs.map Prod.snd) done) := by
  induction pairs generalizing done with
  | nil => exact .refl _
  | cons pair pairs ih =>
    have others := ih fun other member => alike other (List.mem_cons_of_mem _ member)
    intro input
    refine (alike pair (by simp) input).bind ?_ ?_
    · intro data rest
      exact others (data :: done) rest
    · intro expected expected' actual
      exact .failure [] expected expected' actual

theorem result_success (alike : p.Alike q) {input data rest : Value} :
    (p input).result = .ok (.success data rest) ↔ (q input).result = .ok (.success data rest) := by
  have same := alike input
  generalize p input = r, q input = r' at same
  cases same <;> simp

theorem rounds (alike : p.Alike q) {input rest : Value} {events : List Event} {items : List Value}
    (rounds : p.Rounds input events items rest) : q.Rounds input events items rest := by
  induction rounds with
  | start input => exact .start input
  | @round input data middle rest heard events items given shorter _ ih =>
    have same := alike input
    rw [given] at same
    generalize taken : q input = r at same
    cases same
    exact .round taken shorter ih

theorem stops (alike : p.Alike q) {rest : Value} (stops : p.Stops rest) : q.Stops rest :=
  fun data next gives => stops data next (alike.result_success.mpr gives)

theorem many (alike : p.Alike q) : p.many.Alike q.many := by
  intro input
  cases measured : input.length? with
  | some size =>
    obtain ⟨events, items, rest, rounds, stops⟩ := exists_rounds p input
    rw [rounds.many_eq stops measured, (alike.rounds rounds).many_eq (alike.stops stops) measured]
    refine Run.Alike.precededBy events ?_
    -- a failure ends the repetition whatever it expected
    have last := alike rest
    generalize p rest = r, q rest = r' at last
    cases last <;> exact .refl _
  | none =>
    simp only [Parser.many, measured]
    refine (alike input).bind ?_ ?_ <;> intros <;> exact .refl _

theorem bind {f g : Value → Except Fault Parser} (alike : p.Alike q)
    (faults : ∀ data fault, f data = .error fault ↔ g data = .error fault)
    (next : ∀ data a b, f data = .ok a → g data = .ok b → a.Alike b) : (p.bind f).Alike (q.bind g) := by
  intro input
  refine (alike input).bind ?_ ?_
  · intro data rest
    cases made : f data with
    | error fault =>
      have made' := (faults data fault).mp made
      simp only [made, made']
      exact .refl _
    | ok a =>
      cases made' : g data with
      | error fault => simp [(faults data fault).mpr made'] at made
      | ok b =>
        simp only [made, made']
        exact (next data a b made made' rest).precededBy []
  · intro expected expected' actual
    exact .failure [] expected expected' actual

theorem script {body body' : Script} (cleanup : Option Text) (alike : body.meaning.Alike body'.meaning) :
    (script body cleanup).Alike (.script body' cleanup) := by
  intro input
  rw [script_apply, script_apply]
  exact (alike input).followedBy _

end Alike

end Parser

mutual

/-- The second parser comes from the first by changing labels or taking them away, at any number of places:
also in what functions and scripts make of the data. Parsers may be spied on in both, which shows in the journal. -/
inductive Relabelled : Parser → Parser → Prop where
  | same (p : Parser) : Relabelled p p
  | changed {p q : Parser} (expected expected' : Value) :
      Relabelled p q → Relabelled (.label p expected) (.label q expected')
  | removed {p q : Parser} (expected : Value) : Relabelled p q → Relabelled (.label p expected) q
  | spy {p q : Parser} (name : Text) : Relabelled p q → Relabelled (.spy name p) (.spy name q)
  | map {p q : Parser} (f : Value → Except Fault Value) : Relabelled p q → Relabelled (.map f p) (.map f q)
  | firstOf (pairs : List (Parser × Parser)) : (∀ pair ∈ pairs, Relabelled pair.1 pair.2) →
      Relabelled (.firstOf (pairs.map Prod.fst)) (.firstOf (pairs.map Prod.snd))
  | apply (f : List Value → Except Fault Value) (pairs : List (Parser × Parser)) :
      (∀ pair ∈ pairs, Relabelled pair.1 pair.2) →
      Relabelled (.apply f (pairs.map Prod.fst)) (.apply f (pairs.map Prod.snd))
  | many {p q : Parser} : Relabelled p q → Relabelled (.many p) (.many q)
  | bind {p q : Parser} {f g : Value → Except Fault Parser} : Relabelled p q →
      (∀ data fault, f data = .error fault ↔ g data = .error fault) →
      (∀ data a b, f data = .ok a → g data = .ok b → Relabelled a b) → Relabelled (.bind p f) (.bind q g)
  | script {body body' : Script} (cleanup : Option Text) : Script.Relabelled body body' →
      Relabelled (.script body cleanup) (.script body' cleanup)

/-- Two scripts that go on in the same way, but for the labels in the parsers that they hand out. -/
inductive Script.Relabelled : Script → Script → Prop where
  | done (value : Value) : Script.Relabelled (.done value) (.done value)
  | raise (fault : Fault) : Script.Relabelled (.raise fault) (.raise fault)
  | note {next next' : Script} (value : Value) : Script.Relabelled next next' →
      Script.Relabelled (.note value next) (.note value next')
  | await {p q : Parser} {next next' : Value → Script} : Relabelled p q →
      (∀ data, Script.Relabelled (next data) (next' data)) → Script.Relabelled (.await p next) (.await q next')

end

mutual

theorem Relabelled.alike {p q : Parser} (edited : Relabelled p q) : p.Alike q :=
  match edited with
  | .same p => .refl p
  | .changed expected expected' inner => inner.alike.label expected expected'
  | .removed expected inner => inner.alike.label_left expected
  | .spy name inner => inner.alike.spy name
  | .map f inner => inner.alike.map f
  | .firstOf pairs inner => .firstOf pairs fun pair member => (inner pair member).alike
  | .apply f pairs inner => .inSequence f pairs (fun pair member => (inner pair member).alike) []
  | .many inner => inner.alike.many
  | .bind inner faults next => inner.alike.bind faults fun data a b made made' => (next data a b made made').alike
  | .script cleanup inner => .script cleanup inner.alike

theorem Script.Relabelled.alike {body body' : Script} (edited : body.Relabelled body') :
    body.meaning.Alike body'.meaning :=
  match edited with
  | .done value => .refl _
  | .raise fault => .refl _
  | .note value inner => fun input => (inner.alike input).precededBy [.note value]
  | .await inner next => by
    refine inner.alike.bind (by simp) ?_
    rintro data a b made made'
    cases made
    cases made'
    exact (next data).alike

end

namespace Relabelled

theorem collect (pairs : List (Parser × Parser)) (edited : ∀ pair ∈ pairs, Relabelled pair.1 pair.2) :
    Relabelled (.collect (pairs.map Prod.fst)) (.collect (pairs.map Prod.snd)) :=
  .apply _ pairs edited

theorem lexeme {junk junk' p p' : Parser} (skipped : Relabelled junk junk') (kept : Relabelled p p') :
    Relabelled (.lexeme junk p) (.lexeme junk' p') := by
  refine .apply Parser.keepFirst [(p, p'), (junk, junk')] ?_
  intro pair member
  rcases (by simpa using member : pair = (p, p') ∨ pair = (junk, junk')) with rfl | rfl
  · exact kept
  · exact skipped

/-- Parsers that differ in labels only have the same journal on every input: the same parsers run on the same
inputs in the same order, and the same is logged. Both end in the same fault, or succeed with the same data and
rest, or fail at the same place. -/
theorem agree_but_expected {p q : Parser} (edited : Relabelled p q) (input : Value) :
    (p input).events = (q input).events ∧
    (∀ fault, (p input).result = .error fault ↔ (q input).result = .error fault) ∧
    (∀ data rest, (p input).result = .ok (.success data rest) ↔ (q input).result = .ok (.success data rest)) ∧
    (∀ actual, (∃ expected, (p input).result = .ok (.failure expected actual)) ↔
      ∃ expected, (q input).result = .ok (.failure expected actual)) := by
  have alike := edited.alike input
  generalize p input = r, q input = r' at alike
  cases alike with
  | fault events fault => simp
  | success events data rest => simp
  | failure events expected expected' actual => simp

/-- A script over a repetition, with one label taken away in the repetition and one changed behind it. -/
theorem letters_agree :
    let blanks := Parser.many (.literalOr (.text "' '".toList) (.text [' ']))
    let letter := Parser.spy ['a'] (.literalOr (.text "'a'".toList) (.text ['a']))
    let whole (item : Parser) (wanted : Value) := Parser.script (.await (.many (.collect [.lexeme blanks item]))
      fun data => .await (.label .endOfInput wanted) fun _ => .done data) none
    let named := whole (.label letter (.text ['A'])) (.text ['.'])
    let plain := whole letter (.text ['!'])
    let input := Value.text ['a', ' ', 'a', 'b']
    Relabelled named plain ∧
      (named input).result = .ok (.failure (.text ['.']) (.text ['b'])) ∧
      (plain input).events = [.call ['a'] input, .call ['a'] (.text ['a', 'b']), .call ['a'] (.text ['b'])] ∧
      (named input).events = (plain input).events ∧
      ∃ expected, (plain input).result = .ok (.failure expected (.text ['b'])) := by
  intro blanks letter whole named plain input
  have item : Relabelled (.lexeme blanks (.label letter (.text ['A']))) (.lexeme blanks letter) :=
    .lexeme (.same blanks) (.removed _ (.same letter))
  have items : ∀ pair ∈ [(Parser.lexeme blanks (.label letter (.text ['A'])), Parser.lexeme blanks letter)],
      Relabelled pair.1 pair.2 := by simpa using item
  have edited : Relabelled named plain :=
    .script none (.await (.many (.collect _ items)) fun data => .await (.changed _ _ (.same _)) fun _ => .done data)
  have failed : (named input).result = .ok (.failure (.text ['.']) (.text ['b'])) := by
    simp only [named, whole, letter, blanks, input]
    cbv
  have heard : (plain input).events = [.call ['a'] input, .call ['a'] (.text ['a', 'b']), .call ['a'] (.text ['b'])] := by
    simp only [plain, whole, letter, blanks, input]
    cbv
  obtain ⟨journal, -, -, failures⟩ := agree_but_expected edited input
  exact ⟨edited, failed, heard, journal, (failures _).mp ⟨_, failed⟩⟩

end Relabelled

end ParseKit
