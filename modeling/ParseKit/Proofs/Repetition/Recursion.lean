import ParseKit.Proofs.Choice
import ParseKit.Proofs.Cleanup
import ParseKit.Proofs.Repetition.Course

/-!
Repetition by recursion: one item and again a repetition, or else nothing. Main statement: where items always take
something, the repetition in a loop is the one parser that solves this equation.
-/

namespace ParseKit

namespace Parser

def prepend : List Value → Except Fault Value
  | [item, .list items] => .ok (.list (item :: items))
  | _ => .error .typeMismatch

/-- An item and what `again` gives behind it, or else no items. -/
def itemsOrNone (p again : Parser) : Parser := firstOf [apply prepend [p, again], succeed (.list [])]

def Shortens (p : Parser) : Prop :=
  ∀ input data rest, (p input).result = .ok (.success data rest) → rest.Shorter input

theorem fixpoint_succ (depth : Nat) (f : Parser → Parser) (input : Value) :
    fixpoint (depth + 1) f input = f (fixpoint depth f) input := rfl

theorem concluded_ne_failure (items : List Value) (rest : Value) (last : Run Outcome) (expected actual : Value) :
    (concluded items rest last).result ≠ .ok (.failure expected actual) := by
  intro ends
  have succeeds := success_of_concluded ends
  cases succeeds

section steps

variable {p again : Parser} {input : Value}

theorem apply_prepend {data middle rest : Value} {items : List Value} {heard events : List Event} {last : Run Outcome}
    (given : p input = ⟨heard, .ok (.success data middle)⟩) (ends : last.Unsuccessful)
    (behind : again middle = (concluded items rest last).precededBy events) :
    apply prepend [p, again] input = (concluded (data :: items) rest last).precededBy (heard ++ events) := by
  obtain ⟨more, fault | ⟨data', next⟩ | ⟨expected, actual⟩⟩ := last
  · simp only [concluded, Run.precededBy] at behind
    simp [apply, inSequence, given, behind, concluded, Run.precededBy]
  · exact absurd rfl (ends data' next)
  · simp only [concluded, Run.precededBy] at behind
    simp [apply, inSequence, given, behind, concluded, prepend, Run.ofExcept, Run.pure_def, Run.precededBy]

theorem itemsOrNone_round {data middle rest : Value} {items : List Value} {heard events : List Event}
    {last : Run Outcome} (given : p input = ⟨heard, .ok (.success data middle)⟩) (ends : last.Unsuccessful)
    (behind : again middle = (concluded items rest last).precededBy events) :
    itemsOrNone p again input = (concluded (data :: items) rest last).precededBy (heard ++ events) := by
  have first := apply_prepend given ends behind
  rw [itemsOrNone, firstOf_of_not_failure, first]
  intro expected actual
  rw [first]
  exact concluded_ne_failure _ _ _ _ _

theorem itemsOrNone_last (again : Parser) (ends : (p input).Unsuccessful) :
    itemsOrNone p again input = concluded [] input (p input) := by
  rcases given : p input with ⟨heard, fault | ⟨data, next⟩ | ⟨expected, actual⟩⟩
  · simp [itemsOrNone, firstOf, apply, inSequence, given, concluded]
  · exact absurd (by rw [given]) (ends data next)
  · simp [itemsOrNone, firstOf, apply, inSequence, given, concluded, succeed, Run.pure_def, Run.precededBy]

end steps

namespace Shortens

variable {p : Parser} {input rest : Value} {events : List Event} {items : List Value}

theorem unsuccessful (shortens : p.Shortens) (stops : p.Stops rest) : (p rest).Unsuccessful :=
  fun data next gives => stops data next gives (shortens rest data next gives)

theorem many_eq (shortens : p.Shortens) (rounds : p.Rounds input events items rest) (stops : p.Stops rest) :
    p.many input = (concluded items rest (p rest)).precededBy events := by
  cases measured : input.length? with
  | some size => exact rounds.many_eq stops measured
  | none =>
    -- nothing is shorter than what has no length
    cases rounds with
    | round _ shorter _ =>
      obtain ⟨size, -, known, -⟩ := shorter
      rw [measured] at known
      cases known
    | start =>
      rcases given : p input with ⟨heard, fault | ⟨data, next⟩ | ⟨expected, actual⟩⟩
      · simp [many, measured, given, concluded]
      · exact absurd (by rw [given]) (shortens.unsuccessful stops data next)
      · simp [many, measured, given, concluded, Run.pure_def, Run.precededBy]

theorem solution_eq (shortens : p.Shortens) {again : Parser} (solves : again = itemsOrNone p again)
    (rounds : p.Rounds input events items rest) (stops : p.Stops rest) :
    again input = (concluded items rest (p rest)).precededBy events := by
  induction rounds with
  | start input =>
    rw [solves, itemsOrNone_last again (shortens.unsuccessful stops)]
    rfl
  | round given _ _ ih =>
    rw [solves, itemsOrNone_round given (shortens.unsuccessful stops) (ih stops)]

theorem fixpoint_eq (shortens : p.Shortens) (rounds : p.Rounds input events items rest) (stops : p.Stops rest)
    {depth : Nat} (enough : items.length < depth) :
    fixpoint depth (itemsOrNone p) input = (concluded items rest (p rest)).precededBy events := by
  induction rounds generalizing depth with
  | start input =>
    cases depth with
    | zero => exact absurd enough (Nat.not_lt_zero _)
    | succ depth =>
      rw [fixpoint_succ, itemsOrNone_last _ (shortens.unsuccessful stops)]
      rfl
  | round given _ _ ih =>
    cases depth with
    | zero => exact absurd enough (Nat.not_lt_zero _)
    | succ depth =>
      have behind := ih stops (Nat.lt_of_succ_lt_succ enough)
      rw [fixpoint_succ, itemsOrNone_round given (shortens.unsuccessful stops) behind]

theorem many_solves (shortens : p.Shortens) : p.many = itemsOrNone p p.many := by
  funext input
  obtain ⟨events, items, rest, rounds, stops⟩ := exists_rounds p input
  have ends := shortens.unsuccessful stops
  rw [shortens.many_eq rounds stops]
  cases rounds with
  | start => rw [itemsOrNone_last _ ends]; rfl
  | round given _ rounds => rw [itemsOrNone_round given ends (shortens.many_eq rounds stops)]

end Shortens

/-- Where items always take something, a repetition in a loop is the one parser that gives an item and then what itself
gives, or else no items: it has the same data and rest or the same fault on every input, and the same journal. The choice
never comes back from its first alternative once an item was there, and as many parsers inside one another as the input
has elements, and one, are enough. -/
theorem many_unique_recursion {p : Parser} (shortens : p.Shortens) :
    (∀ again : Parser, again = itemsOrNone p again ↔ again = p.many) ∧
    (∀ input data rest, (p input).result = .ok (.success data rest) →
      p.many input = apply prepend [p, p.many] input ∧
      ∀ expected actual, (apply prepend [p, p.many] input).result ≠ .ok (.failure expected actual)) ∧
    (∀ input size depth, input.length? = some size → size < depth →
      fixpoint depth (itemsOrNone p) input = p.many input) := by
  refine ⟨fun again => ⟨fun solves => ?_, fun same => ?_⟩, fun input data middle gives => ?_, ?_⟩
  · funext input
    obtain ⟨events, items, rest, rounds, stops⟩ := exists_rounds p input
    rw [shortens.solution_eq solves rounds stops, shortens.many_eq rounds stops]
  · rw [same]
    exact shortens.many_solves
  · have given : p input = ⟨(p input).events, .ok (.success data middle)⟩ := by rw [← gives]
    obtain ⟨events, items, rest, rounds, stops⟩ := exists_rounds p middle
    have whole := Rounds.round given (shortens input data middle gives) rounds
    have first := apply_prepend given (shortens.unsuccessful stops) (shortens.many_eq rounds stops)
    rw [shortens.many_eq whole stops, first]
    exact ⟨rfl, fun expected actual => concluded_ne_failure _ _ _ _ _⟩
  · intro input size depth measured enough
    obtain ⟨events, items, rest, rounds, stops⟩ := exists_rounds p input
    obtain ⟨places, course⟩ := rounds.exists_course
    have bound := course.length_le measured
    rw [course.length_eq] at bound
    rw [shortens.fixpoint_eq rounds stops (by omega), shortens.many_eq rounds stops]

/-- Two letters, and a third run that ends both repetitions at the same place. -/
theorem letters_by_recursion :
    let p := Parser.spy ['p'] (.literalOr (.text "'x'".toList) (.text ['x']))
    let input := Value.text ['x', 'x', 'b']
    p.Shortens ∧ input.length? = some 3 ∧
      (p input).result = .ok (.success (.text ['x']) (.text ['x', 'b'])) ∧
      (∀ again : Parser, again = itemsOrNone p again ↔ again = p.many) ∧
      p.many input = apply prepend [p, p.many] input ∧
      fixpoint 4 (itemsOrNone p) input = p.many input ∧
      p.many input = ⟨[.call ['p'] input, .call ['p'] (.text ['x', 'b']), .call ['p'] (.text ['b'])],
        .ok (.success (.list [.text ['x'], .text ['x']]) (.text ['b']))⟩ := by
  intro p input
  have shortens : p.Shortens := by
    intro place data rest gives
    obtain ⟨begins, -, cut⟩ := literalOr_success gives
    cases place with
    | text s =>
      cases s with
      | nil => cases begins
      | cons c s =>
        cases cut
        exact ⟨s.length + 1, s.length, rfl, rfl, Nat.lt_succ_self _⟩
    | _ => cases begins
  have first : (p input).result = .ok (.success (.text ['x']) (.text ['x', 'b'])) := rfl
  have taken : p.many input = ⟨[.call ['p'] input, .call ['p'] (.text ['x', 'b']), .call ['p'] (.text ['b'])],
      .ok (.success (.list [.text ['x'], .text ['x']]) (.text ['b']))⟩ := by
    simp only [p, input]
    cbv
  obtain ⟨unique, keeps, reaches⟩ := many_unique_recursion shortens
  exact ⟨shortens, rfl, first, unique, (keeps _ _ _ first).1, reaches input 3 4 rfl (by decide), taken⟩

end Parser

end ParseKit
