import ParseKit.Proofs.Repetition

/-!
The course of a repetition: on which inputs it runs its parser, and in which order. Main statement: these are the input
and the rests of the rounds that take something, each once, and the last of them decides how the repetition ends.
-/

namespace ParseKit

namespace Parser

/-- From an input, rounds that each take something start at some places, give some items and leave a rest. -/
inductive Course (p : Parser) : Value → List Value → List Value → Value → Prop where
  | start (input : Value) : Course p input [] [] input
  | round {input data middle rest : Value} {places items : List Value} :
      (p input).result = .ok (.success data middle) → middle.Shorter input → Course p middle places items rest →
      Course p input (input :: places) (data :: items) rest

/-- What the run on the last rest decides behind some items: what is recorded, and how the repetition ends. -/
inductive Ends (p : Parser) (items : List Value) (rest : Value) : List Event → Except Fault Outcome → Prop where
  | fault {fault : Fault} : (p rest).result = .error fault → Ends p items rest [] (.error fault)
  | failure {expected actual : Value} : (p rest).result = .ok (.failure expected actual) →
      Ends p items rest [] (.ok (.success (.list items) rest))
  | still {data next : Value} {size size' : Nat} : (p rest).result = .ok (.success data next) →
      rest.length? = some size → next.length? = some size' → size ≤ size' →
      Ends p items rest
        [.record ⟨"pcomb.parsing.combinators".toList, Level.debug,
          "Zero-width match after ".toList ++ Text.ofNat items.length ++ " item(s); stopping repetition".toList⟩]
        (.ok (.success (.list items) rest))

theorem Rounds.exists_course {p : Parser} {input rest : Value} {events : List Event} {items : List Value}
    (rounds : p.Rounds input events items rest) : ∃ places, p.Course input places items rest := by
  induction rounds with
  | start input => exact ⟨[], .start input⟩
  | @round input data middle rest heard events items given shorter _ ih =>
    obtain ⟨places, course⟩ := ih
    exact ⟨input :: places, .round (by rw [given]) shorter course⟩

namespace Course

variable {p : Parser} {input rest : Value} {places items : List Value}

theorem length_eq (course : p.Course input places items rest) : places.length = items.length := by
  induction course with
  | start => rfl
  | round _ _ _ ih => rw [List.length_cons, List.length_cons, ih]

theorem length_le (course : p.Course input places items rest) {size : Nat} (measured : input.length? = some size) :
    places.length ≤ size := by
  induction course generalizing size with
  | start => exact Nat.zero_le _
  | round _ shorter _ ih =>
    obtain ⟨whole, left, known, measured', less⟩ := shorter
    rw [measured, Option.some.injEq] at known
    have behind := ih measured'
    simp only [List.length_cons]
    omega

theorem rounds (course : p.Course input places items rest) {q : Parser}
    (same : ∀ place, (q place).result = (p place).result) :
    q.Rounds input (places.flatMap fun place => (q place).events) items rest := by
  induction course with
  | start input => exact .start input
  | @round input data middle rest places items given shorter _ ih =>
    have taken : q input = ⟨(q input).events, .ok (.success data middle)⟩ := by rw [← given, ← same]
    exact .round taken shorter ih

theorem many_eq (course : p.Course input places items rest) (stops : p.Stops rest) {q : Parser}
    (same : ∀ place, (q place).result = (p place).result) {size : Nat} (measured : input.length? = some size) :
    q.many input = (concluded items rest (q rest)).precededBy (places.flatMap fun place => (q place).events) := by
  have stops' : q.Stops rest := fun data next gives => stops data next ((same rest).symm.trans gives)
  exact (course.rounds same).many_eq stops' measured

end Course

theorem exists_ends {p : Parser} {rest : Value} {size : Nat} (items : List Value) (stops : p.Stops rest)
    (measures : ∀ data next, (p rest).result = .ok (.success data next) → next.isSequence)
    (left : rest.length? = some size) :
    ∃ logged result, p.Ends items rest logged result ∧
      ∀ heard, concluded items rest ⟨heard, (p rest).result⟩ = ⟨heard ++ logged, result⟩ := by
  rcases last : (p rest).result with fault | ⟨data, next⟩ | ⟨expected, actual⟩
  · refine ⟨[], .error fault, .fault last, fun heard => ?_⟩
    rw [List.append_nil]
    rfl
  · obtain ⟨size', measured⟩ := Value.exists_length (measures data next last)
    have still : ¬ size' < size := fun less => stops data next last ((Value.shorter_iff left measured).mpr less)
    refine ⟨_, _, .still last left measured (by omega), fun heard => ?_⟩
    simp only [concluded, measured]
    rfl
  · refine ⟨[], .ok (.success (.list items) rest), .failure last, fun heard => ?_⟩
    rw [List.append_nil]
    rfl

/-- A repetition runs its parser on the input, then on what each round left that took something, and on nothing else;
there are at most as many such rounds as the input has elements. The run on the last rest decides the end: a fault of it
is the fault of the repetition. Else the repetition succeeds with the items of the rounds before, and makes a record of
their number if the last run was a success that took nothing. -/
theorem many_runs_out {p : Parser} {input : Value} {size : Nat} (name : Text)
    (measures : ∀ place data next, (p place).result = .ok (.success data next) → next.isSequence)
    (measured : input.length? = some size) :
    ∃ (places items : List Value) (rest : Value) (logged : List Event) (result : Except Fault Outcome),
      p.Course input places items rest ∧ p.Ends items rest logged result ∧
      places.length = items.length ∧ places.length ≤ size ∧
      p.many input = ⟨(places ++ [rest]).flatMap (fun place => (p place).events) ++ logged, result⟩ ∧
      (p.spy name).many input =
        ⟨(places ++ [rest]).flatMap (fun place => .call name place :: (p place).events) ++ logged, result⟩ := by
  obtain ⟨events, items, rest, rounds, stops⟩ := exists_rounds p input
  obtain ⟨places, course⟩ := rounds.exists_course
  obtain ⟨size', left⟩ := rounds.rest_measured measured
  obtain ⟨logged, result, ends, concludes⟩ := exists_ends items stops (measures rest) left
  have runs (q : Parser) (same : ∀ place, (q place).result = (p place).result) :
      q.many input = ⟨(places ++ [rest]).flatMap (fun place => (q place).events) ++ logged, result⟩ := by
    have last : concluded items rest (q rest) = ⟨(q rest).events ++ logged, result⟩ := by rw [← concludes, ← same]
    rw [course.many_eq stops same measured, last]
    simp [Run.precededBy]
  exact ⟨places, items, rest, logged, result, course, ends, course.length_eq, course.length_le measured,
    runs p fun _ => rfl, runs (p.spy name) fun _ => rfl⟩

/-- Two rounds take a character each, and the last run gives back more than it was given. -/
theorem characters_run_out :
    let p : Parser := fun input => match input with
      | .text (c :: d :: s) => pure (.success (.text [c]) (.text (d :: s)))
      | _ => pure (.success .none (.text ['y', 'y']))
    let input := Value.text ['x', 'a', 'b']
    (∀ place data next, (p place).result = .ok (.success data next) → next.isSequence) ∧ input.length? = some 3 ∧
      (p.spy ['p']).many input =
        ⟨[.call ['p'] input, .call ['p'] (.text ['a', 'b']), .call ['p'] (.text ['b']), .record (zeroWidthRecord 2)],
          .ok (.success (.list [.text ['x'], .text ['a']]) (.text ['b']))⟩ ∧
      ∃ (places items : List Value) (rest : Value) (logged : List Event) (result : Except Fault Outcome),
        p.Course input places items rest ∧ p.Ends items rest logged result ∧
        places.length = items.length ∧ places.length ≤ 3 ∧
        p.many input = ⟨(places ++ [rest]).flatMap (fun place => (p place).events) ++ logged, result⟩ ∧
        (p.spy ['p']).many input =
          ⟨(places ++ [rest]).flatMap (fun place => .call ['p'] place :: (p place).events) ++ logged, result⟩ := by
  intro p input
  have measures (place data next : Value) (gives : (p place).result = .ok (.success data next)) : next.isSequence := by
    simp only [p] at gives
    split at gives
    all_goals
      cases gives
      rfl
  have one : p.spy ['p'] input = ⟨[.call ['p'] input], .ok (.success (.text ['x']) (.text ['a', 'b']))⟩ := rfl
  have two : p.spy ['p'] (.text ['a', 'b']) =
      ⟨[.call ['p'] (.text ['a', 'b'])], .ok (.success (.text ['a']) (.text ['b']))⟩ := rfl
  have rounds : (p.spy ['p']).Rounds input [.call ['p'] input, .call ['p'] (.text ['a', 'b'])]
      [.text ['x'], .text ['a']] (.text ['b']) :=
    .round one ⟨3, 2, rfl, rfl, by decide⟩ (.round two ⟨2, 1, rfl, rfl, by decide⟩ (.start _))
  have stops : (p.spy ['p']).Stops (.text ['b']) := by
    intro data next gives shorter
    cases gives
    exact absurd ((Value.shorter_iff rfl rfl).mp shorter) (by decide)
  exact ⟨measures, rfl, rounds.many_eq stops rfl, many_runs_out ['p'] measures rfl⟩

end Parser

end ParseKit
