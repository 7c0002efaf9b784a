import ParseKit.Parser.Combinators

/-!
Repetition in rounds: a repetition runs its parser on ever shorter rests until a round fails, faults or takes
nothing. Main statement: such rounds always come to a last one, and what it does decides how the repetition ends.
-/

namespace ParseKit

theorem Value.exists_length {v : Value} (sequence : v.isSequence) : ∃ size, v.length? = some size := by
  cases v with
  | text | bytes | bytearray | list | tuple => exact ⟨_, rfl⟩
  | _ => cases sequence

def Value.Shorter (rest input : Value) : Prop :=
  ∃ size size', input.length? = some size ∧ rest.length? = some size' ∧ size' < size

theorem Value.shorter_iff {rest input : Value} {size size' : Nat} (measured : input.length? = some size)
    (left : rest.length? = some size') : rest.Shorter input ↔ size' < size := by
  constructor
  · rintro ⟨whole, part, known, known', less⟩
    rw [measured, Option.some.injEq] at known
    rw [left, Option.some.injEq] at known'
    omega
  · intro less
    exact ⟨size, size', measured, left, less⟩

namespace Parser

/-- From an input, rounds that each take something give some items, make some events and leave a rest. -/
inductive Rounds (p : Parser) : Value → List Event → List Value → Value → Prop where
  | start (input : Value) : Rounds p input [] [] input
  | round {input data middle rest : Value} {heard events : List Event} {items : List Value} :
      p input = ⟨heard, .ok (.success data middle)⟩ → middle.Shorter input → Rounds p middle events items rest →
      Rounds p input (heard ++ events) (data :: items) rest

def Stops (p : Parser) (rest : Value) : Prop :=
  ∀ data next, (p rest).result = .ok (.success data next) → ¬ next.Shorter rest

/-- What a repetition makes of the round that ends it, behind some items. -/
def concluded (items : List Value) (rest : Value) (last : Run Outcome) : Run Outcome :=
  match last with
  | ⟨heard, .error fault⟩ => ⟨heard, .error fault⟩
  | ⟨heard, .ok (.failure _ _)⟩ => ⟨heard, .ok (.success (.list items) rest)⟩
  | ⟨heard, .ok (.success _ next)⟩ =>
    match next.length? with
    | none => ⟨heard, .error .typeMismatch⟩
    | some _ => ⟨heard ++ [.record (zeroWidthRecord items.length)], .ok (.success (.list items) rest)⟩

theorem exists_rounds (p : Parser) (input : Value) :
    ∃ events items rest, p.Rounds input events items rest ∧ p.Stops rest := by
  -- on the length, which every round makes less
  induction length : input.length?.getD 0 using Nat.strongRecOn generalizing input with
  | ind size ih =>
    by_cases further : ∃ data middle, (p input).result = .ok (.success data middle) ∧ middle.Shorter input
    · obtain ⟨data, middle, gives, shorter⟩ := further
      have given : p input = ⟨(p input).events, .ok (.success data middle)⟩ := by rw [← gives]
      have less : middle.length?.getD 0 < size := by
        obtain ⟨whole, left, measured, measured', less⟩ := shorter
        simpa [← length, measured, measured'] using less
      obtain ⟨events, items, rest, rounds, stops⟩ := ih _ less middle rfl
      exact ⟨_, data :: items, rest, .round given shorter rounds, stops⟩
    · refine ⟨[], [], input, .start input, ?_⟩
      intro data next gives shorter
      exact further ⟨data, next, gives, shorter⟩

namespace Rounds

variable {p : Parser} {input rest : Value} {events : List Event} {items : List Value}

theorem manyFrom_eq (rounds : p.Rounds input events items rest) {size size' count : Nat} {done : List Value}
    {before : List Event} (measured : input.length? = some size) (left : rest.length? = some size') :
    manyFrom p size count done before input =
      manyFrom p size' (count + items.length) (items.reverse ++ done) (events.reverse ++ before) rest := by
  induction rounds generalizing size count done before with
  | start input =>
    obtain rfl : size = size' := Option.some.inj (measured.symm.trans left)
    rfl
  | @round input data middle rest heard events items given shorter _ ih =>
    obtain ⟨_, middleSize, known, measured', less⟩ := shorter
    obtain rfl : size = _ := Option.some.inj (measured.symm.trans known)
    rw [manyFrom_of_success given measured' less, ih measured' left]
    simp [Nat.add_assoc, Nat.add_comm 1]

theorem rest_measured (rounds : p.Rounds input events items rest) {size : Nat}
    (measured : input.length? = some size) : ∃ size', rest.length? = some size' := by
  induction rounds generalizing size with
  | start input => exact ⟨size, measured⟩
  | round given shorter _ ih =>
    obtain ⟨-, size', -, measured', -⟩ := shorter
    exact ih measured'

end Rounds

theorem manyFrom_of_stops {p : Parser} {rest : Value} {size count : Nat} {done : List Value} {before : List Event}
    (stops : p.Stops rest) (measured : rest.length? = some size) (counted : count = done.length) :
    manyFrom p size count done before rest = (concluded done.reverse rest (p rest)).precededBy before.reverse := by
  rcases given : p rest with ⟨heard, fault | ⟨data, next⟩ | ⟨expected, actual⟩⟩
  · rw [manyFrom_of_fault given]
    rfl
  · -- without a length this is a fault; with one, the round took nothing and is dropped
    have still : ¬ next.Shorter rest := stops data next (by rw [given])
    rw [manyFrom, given]
    cases measured' : next.length? with
    | none => simp [measured', concluded, Run.precededBy]
    | some size' =>
      have enough : ¬ size' < size := fun less => still ⟨size, size', measured, measured', less⟩
      simp [measured', enough, concluded, Run.precededBy, counted]
  · rw [manyFrom_of_failure given]
    rfl

/-- A repetition gives what its rounds gave, up to the one that ends it. -/
theorem Rounds.many_eq {p : Parser} {input rest : Value} {events : List Event} {items : List Value}
    (rounds : p.Rounds input events items rest) (stops : p.Stops rest) {size : Nat}
    (measured : input.length? = some size) :
    p.many input = (concluded items rest (p rest)).precededBy events := by
  obtain ⟨size', left⟩ := rounds.rest_measured measured
  have counted : 0 + items.length = (items.reverse ++ []).length := by simp
  simp only [many, measured]
  rw [rounds.manyFrom_eq measured left, manyFrom_of_stops stops left counted]
  simp

theorem success_of_concluded {items : List Value} {rest : Value} {last : Run Outcome} {outcome : Outcome}
    (ends : (concluded items rest last).result = .ok outcome) : outcome = .success (.list items) rest := by
  obtain ⟨heard, fault | ⟨data, next⟩ | ⟨expected, actual⟩⟩ := last
  · cases ends
  · cases measured : next.length? with
    | none => simp [concluded, measured] at ends
    | some size =>
      simp only [concluded, measured, Except.ok.injEq] at ends
      exact ends.symm
  · cases ends
    rfl

theorem rounds_of_many {p : Parser} {input : Value} {outcome : Outcome} {size : Nat}
    (measured : input.length? = some size) (ends : (p.many input).result = .ok outcome) :
    ∃ events items rest, p.Rounds input events items rest ∧ p.Stops rest ∧ outcome = .success (.list items) rest := by
  obtain ⟨events, items, rest, rounds, stops⟩ := exists_rounds p input
  rw [rounds.many_eq stops measured] at ends
  exact ⟨events, items, rest, rounds, stops, success_of_concluded ends⟩

end Parser

end ParseKit
