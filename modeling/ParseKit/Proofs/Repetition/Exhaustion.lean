import ParseKit.Proofs.Repetition

/-!
What a repetition leaves for itself. Main statement: where a repetition has stopped, whether because its parser failed
or because it took nothing, the same repetition takes nothing more, so that a repetition of repetitions has one item or
none.
-/

namespace ParseKit

theorem Value.Shorter.trans {rest middle input : Value} (first : rest.Shorter middle) (second : middle.Shorter input) :
    rest.Shorter input := by
  obtain ⟨size, size', measured, measured', less⟩ := first
  obtain ⟨whole, part, known, known', less'⟩ := second
  rw [measured, Option.some.injEq] at known'
  exact ⟨whole, size', known, measured', by omega⟩

theorem Value.Shorter.irrefl (v : Value) : ¬ v.Shorter v := by
  rintro ⟨size, size', measured, measured', less⟩
  rw [measured, Option.some.injEq] at measured'
  omega

namespace Parser

namespace Rounds

variable {p : Parser} {input rest data : Value} {events : List Event} {items : List Value}

theorem rest_of_none (rounds : p.Rounds input events [] rest) : rest = input := by
  cases rounds
  rfl

theorem rest_shorter (rounds : p.Rounds input events (data :: items) rest) : rest.Shorter input := by
  -- on the rounds behind the first, each of which shortens what the one before it has left
  induction items generalizing input events data with
  | nil =>
    cases rounds with
    | round _ shorter rounds =>
      rw [rounds.rest_of_none]
      exact shorter
  | cons next items ih =>
    cases rounds with
    | round _ shorter rounds => exact (ih rounds).trans shorter

end Rounds

theorem concluded_anew {items : List Value} {rest : Value} {last : Run Outcome} {outcome : Outcome}
    (ends : (concluded items rest last).result = .ok outcome) (others : List Value) :
    (concluded others rest last).result = .ok (.success (.list others) rest) := by
  obtain ⟨heard, fault | ⟨data, next⟩ | ⟨expected, actual⟩⟩ := last
  · cases ends
  · cases measured : next.length? with
    | none => simp [concluded, measured] at ends
    | some size => simp [concluded, measured]
  · rfl

section stopped

variable {p : Parser} {input rest : Value}

theorem many_of_stops {outcome : Outcome} {size : Nat} {items : List Value} (stops : p.Stops rest)
    (measured : rest.length? = some size) (ends : (concluded items rest (p rest)).result = .ok outcome) :
    (p.many rest).result = .ok (.success (.list []) rest) := by
  rw [(Rounds.start rest).many_eq stops measured]
  exact concluded_anew ends []

/-- Without a length only a failure at once is no fault. -/
theorem many_of_unmeasured {outcome : Outcome} (unmeasured : input.length? = none)
    (ends : (p.many input).result = .ok outcome) : outcome = .success (.list []) input := by
  rcases given : p input with ⟨heard, fault | ⟨data, next⟩ | ⟨expected, actual⟩⟩
  · simp [many, unmeasured, given] at ends
  · simp [many, unmeasured, given, Run.fault, Run.precededBy] at ends
  · simp only [many, unmeasured, given, Run.ok_bind, Run.pure_def, Run.precededBy, Except.ok.injEq] at ends
    exact ends.symm

theorem many_stopped {outcome : Outcome} (ends : (p.many input).result = .ok outcome) :
    ∃ items rest, outcome = .success (.list items) rest ∧ (p.many rest).result = .ok (.success (.list []) rest) ∧
      (items = [] → rest = input) ∧ (items ≠ [] → rest.Shorter input) := by
  cases measured : input.length? with
  | none =>
    have same := many_of_unmeasured measured ends
    rw [same] at ends
    exact ⟨[], input, same, ends, fun _ => rfl, fun nonempty => absurd rfl nonempty⟩
  | some size =>
    obtain ⟨events, items, rest, rounds, stops⟩ := exists_rounds p input
    obtain ⟨size', left⟩ := rounds.rest_measured measured
    rw [rounds.many_eq stops measured] at ends
    refine ⟨items, rest, success_of_concluded ends, many_of_stops stops left ends, ?_, ?_⟩
    · rintro rfl
      exact rounds.rest_of_none
    · intro nonempty
      obtain ⟨data, others, rfl⟩ := List.exists_cons_of_ne_nil nonempty
      exact rounds.rest_shorter

end stopped

section nested

variable {p : Parser} {input rest : Value}

theorem many_of_still {data : Value} {size : Nat} (measured : rest.length? = some size)
    (still : (p rest).result = .ok (.success data rest)) : p.Stops rest ∧
      ∀ items, (concluded items rest (p rest)).result = .ok (.success (.list items) rest) := by
  refine ⟨fun data' next gives shorter => ?_, fun items => ?_⟩
  · rw [still] at gives
    cases gives
    exact Value.Shorter.irrefl rest shorter
  · rcases given : p rest with ⟨heard, result⟩
    rw [given] at still
    cases still
    simp [concluded, measured]

theorem many_many_of_fault {fault : Fault} (ends : (p.many input).result = .error fault) :
    (p.many.many input).result = .error fault := by
  rcases given : p.many input with ⟨heard, result⟩
  rw [given] at ends
  cases ends
  cases measured : input.length? with
  | none =>
    rw [many]
    simp [measured, given]
  | some size =>
    have stops : p.many.Stops input := by
      intro data next gives
      rw [given] at gives
      cases gives
    rw [(Rounds.start input).many_eq stops measured, given]
    rfl

theorem many_many_of_none {size : Nat} (measured : input.length? = some size)
    (ends : (p.many input).result = .ok (.success (.list []) input)) :
    (p.many.many input).result = .ok (.success (.list []) input) := by
  obtain ⟨stops, concludes⟩ := many_of_still measured ends
  rw [(Rounds.start input).many_eq stops measured]
  exact concludes []

theorem many_many_of_some {items : List Value} (shorter : rest.Shorter input)
    (ends : (p.many input).result = .ok (.success (.list items) rest))
    (again : (p.many rest).result = .ok (.success (.list []) rest)) :
    (p.many.many input).result = .ok (.success (.list [.list items]) rest) := by
  have given : p.many input = ⟨(p.many input).events, .ok (.success (.list items) rest)⟩ := by rw [← ends]
  have rounds := Rounds.round given shorter (.start rest)
  obtain ⟨size, size', measured, left, -⟩ := shorter
  obtain ⟨stops, concludes⟩ := many_of_still left again
  rw [rounds.many_eq stops measured]
  exact concludes [.list items]

end nested

/-- Where a repetition has ended, the same repetition gives no items and leaves everything. On a sequence, which has a
length, a repetition of repetitions therefore gives the items of the one inside as its only item, or no item and the whole
input where that gives none; a fault of the one inside is its fault. -/
theorem many_leaves_nothing (p : Parser) (input : Value) :
    (∀ outcome, (p.many input).result = .ok outcome → ∃ items rest, outcome = .success (.list items) rest ∧
      (p.many rest).result = .ok (.success (.list []) rest)) ∧
    (∀ items rest size, input.length? = some size → (p.many input).result = .ok (.success (.list items) rest) →
      (items ≠ [] → (p.many.many input).result = .ok (.success (.list [.list items]) rest)) ∧
      (items = [] → (p.many.many input).result = .ok (.success (.list []) input))) ∧
    (∀ fault, (p.many input).result = .error fault → (p.many.many input).result = .error fault) := by
  refine ⟨fun outcome ends => ?_, fun items rest size measured ends => ?_, fun fault => many_many_of_fault⟩
  · obtain ⟨items, rest, same, again, -⟩ := many_stopped ends
    exact ⟨items, rest, same, again⟩
  · obtain ⟨items', rest', same, again, whole, shorter⟩ := many_stopped ends
    cases same
    refine ⟨fun nonempty => many_many_of_some (shorter nonempty) ends again, fun empty => ?_⟩
    rw [empty, whole empty] at ends
    exact many_many_of_none measured ends

/-- The parser takes two characters and then nothing, and a repetition around that ends as well. -/
theorem characters_left_alone :
    let p : Parser := fun input => match input with
      | .text (c :: d :: s) => pure (.success (.text [c]) (.text (d :: s)))
      | rest => pure (.success .none rest)
    let input := Value.text ['x', 'a', 'b']
    let items := Value.list [.text ['x'], .text ['a']]
    (p.many input).result = .ok (.success items (.text ['b'])) ∧
      (p.many (.text ['b'])).result = .ok (.success (.list []) (.text ['b'])) ∧
      (p.many.many input).result = .ok (.success (.list [items]) (.text ['b'])) ∧
      (p.many.many (.text ['b'])).result = .ok (.success (.list []) (.text ['b'])) := by
  intro p input items
  have one : p input = ⟨[], .ok (.success (.text ['x']) (.text ['a', 'b']))⟩ := rfl
  have two : p (.text ['a', 'b']) = ⟨[], .ok (.success (.text ['a']) (.text ['b']))⟩ := rfl
  have rounds : p.Rounds input ([] ++ ([] ++ [])) [.text ['x'], .text ['a']] (.text ['b']) :=
    .round one ⟨3, 2, rfl, rfl, by decide⟩ (.round two ⟨2, 1, rfl, rfl, by decide⟩ (.start _))
  have stops : p.Stops (.text ['b']) := by
    intro data next gives shorter
    cases gives
    exact Value.Shorter.irrefl _ shorter
  have taken : (p.many input).result = .ok (.success items (.text ['b'])) := by
    rw [rounds.many_eq stops rfl]
    rfl
  obtain ⟨leaves, nested, -⟩ := many_leaves_nothing p input
  obtain ⟨_, rest, same, again⟩ := leaves _ taken
  obtain ⟨-, rfl⟩ := Outcome.success.inj same
  have behind := (many_leaves_nothing p (.text ['b'])).2.1 [] (.text ['b']) 1 rfl again
  exact ⟨taken, again, (nested _ _ 3 rfl taken).1 (by simp), behind.2 rfl⟩

end Parser

end ParseKit
