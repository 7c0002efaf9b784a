import ParseKit.Proofs.Cleanup

/-!
Parsers in succession, each on what the one before it has left. Main statement: a function applied to what they give is
the parsers bound one inside another, each is run once until one gives no success, and a succession may be cut anywhere
into two.
-/

namespace ParseKit

theorem Run.success_or_unsuccessful (r : Run Outcome) :
    (∃ data rest, r.result = .ok (.success data rest)) ∨ r.Unsuccessful := by
  rcases same : r.result with fault | ⟨data, rest⟩ | ⟨expected, actual⟩
  · exact .inr fun data rest given => by simp [same] at given
  · exact .inl ⟨data, rest, rfl⟩
  · exact .inr fun data rest given => by simp [same] at given

namespace Parser

def returning (result : Except Fault Value) : Parser := fun input => do
  return .success (← Run.ofExcept result) input

/-- Parsers bound one inside another, and innermost what a function makes of all that they gave. -/
def nested : List Parser → (List Value → Except Fault Value) → Parser
  | [], f => returning (f [])
  | p :: ps, f => p.bind fun data => .ok (nested ps fun others => f (data :: others))

theorem inSequence_eq_nested (f : List Value → Except Fault Value) (ps : List Parser) (given : List Value) :
    inSequence f ps given = nested ps fun others => f (given.reverse ++ others) := by
  induction ps generalizing given with
  | nil =>
    rw [nested, List.append_nil]
    rfl
  | cons p ps ih =>
    rw [inSequence_cons, nested]
    simp only [ih, List.reverse_cons, List.append_assoc, List.singleton_append]

/-- From an input parsers succeed one behind another, at some places, give some items and leave a rest. -/
inductive Passes : List Parser → Value → List Value → List Value → Value → Prop where
  | start (input : Value) : Passes [] input [] [] input
  | step {p : Parser} {ps : List Parser} {input data middle rest : Value} {places items : List Value} :
      (p input).result = .ok (.success data middle) → Passes ps middle places items rest →
      Passes (p :: ps) input (input :: places) (data :: items) rest

/-- What happens when parsers run at some places, in order. -/
def heard (ps : List Parser) (places : List Value) : List Event :=
  (List.zipWith (fun p place => (p place).events) ps places).flatten

theorem heard_cons (p : Parser) (ps : List Parser) (place : Value) (places : List Value) :
    heard (p :: ps) (place :: places) = (p place).events ++ heard ps places := rfl

theorem inSequence_step {p : Parser} {input data middle : Value} (f : List Value → Except Fault Value)
    (ps : List Parser) (given : List Value) (gives : (p input).result = .ok (.success data middle)) :
    inSequence f (p :: ps) given input = (inSequence f ps (data :: given) middle).precededBy (p input).events := by
  have taken : p input = ⟨(p input).events, .ok (.success data middle)⟩ := by rw [← gives]
  rw [inSequence_cons, bind_of_success taken rfl]

theorem inSequence_stop {p : Parser} {input : Value} (f : List Value → Except Fault Value) (ps : List Parser)
    (given : List Value) (ends : (p input).Unsuccessful) : inSequence f (p :: ps) given input = p input := by
  rw [inSequence_cons, bind_unsuccessful _ _ _ ends]

namespace Passes

variable {ps qs : List Parser} {input middle rest : Value} {places items : List Value}

theorem inSequence_append (passes : Passes ps input places items middle) (f : List Value → Except Fault Value)
    (qs : List Parser) (given : List Value) :
    inSequence f (ps ++ qs) given input =
      (inSequence f qs (items.reverse ++ given) middle).precededBy (heard ps places) := by
  induction passes generalizing given with
  | start input => rfl
  | step gives _ ih =>
    rw [List.cons_append, inSequence_step f _ given gives, ih, Run.precededBy_precededBy, heard_cons]
    simp only [List.reverse_cons, List.append_assoc, List.singleton_append]

theorem inSequence_stop {p : Parser} (passes : Passes ps input places items rest) (ends : (p rest).Unsuccessful)
    (f : List Value → Except Fault Value) (behind : List Parser) (given : List Value) :
    inSequence f (ps ++ p :: behind) given input = (p rest).precededBy (heard ps places) := by
  rw [passes.inSequence_append, Parser.inSequence_stop f behind _ ends]

theorem apply_eq (passes : Passes ps input places items rest) (f : List Value → Except Fault Value) :
    apply f ps input = ⟨heard ps places, (f items).map fun data => .success data rest⟩ := by
  have run := passes.inSequence_append f [] []
  rw [List.append_nil, List.append_nil] at run
  have last : inSequence f [] items.reverse rest = ⟨[], (f items).map fun data => .success data rest⟩ := by
    rw [inSequence, List.reverse_reverse]
    cases f items <;> rfl
  rw [apply, run, last, Run.precededBy, List.append_nil]

theorem collect_eq (passes : Passes ps input places items rest) :
    collect ps input = ⟨heard ps places, .ok (.success (.list items) rest)⟩ := passes.apply_eq _

theorem append (first : Passes ps input places items middle) {places' items' : List Value}
    (second : Passes qs middle places' items' rest) :
    Passes (ps ++ qs) input (places ++ places') (items ++ items') rest := by
  induction first with
  | start => exact second
  | step gives _ ih => exact .step gives (ih second)

theorem heard_append (first : Passes ps input places items middle) (qs : List Parser) (places' : List Value) :
    heard (ps ++ qs) (places ++ places') = heard ps places ++ heard qs places' := by
  induction first with
  | start => rfl
  | step _ _ ih => rw [List.cons_append, List.cons_append, heard_cons, heard_cons, ih, List.append_assoc]

theorem cut (passes : Passes (ps ++ qs) input places items rest) :
    ∃ places₁ places₂ items₁ items₂ middle, places = places₁ ++ places₂ ∧ items = items₁ ++ items₂ ∧
      Passes ps input places₁ items₁ middle ∧ Passes qs middle places₂ items₂ rest := by
  induction ps generalizing input places items with
  | nil => exact ⟨[], places, [], items, input, rfl, rfl, .start input, passes⟩
  | cons p ps ih =>
    cases passes with
    | step gives passes =>
      obtain ⟨places₁, places₂, items₁, items₂, middle, rfl, rfl, first, second⟩ := ih passes
      exact ⟨input :: places₁, places₂, _ :: items₁, items₂, middle, rfl, rfl, .step gives first, second⟩

end Passes

/-- Parsers in succession all succeed, or there is a first that does not. -/
theorem exists_passes (ps : List Parser) (input : Value) :
    (∃ places items rest, Passes ps input places items rest) ∨
      ∃ front p behind places items rest, ps = front ++ p :: behind ∧ Passes front input places items rest ∧
        (p rest).Unsuccessful := by
  induction ps generalizing input with
  | nil => exact .inl ⟨[], [], input, .start input⟩
  | cons p ps ih =>
    rcases (p input).success_or_unsuccessful with ⟨data, middle, gives⟩ | ends
    · rcases ih middle with ⟨places, items, rest, passes⟩ | ⟨front, q, behind, places, items, rest, rfl, passes, stops⟩
      · exact .inl ⟨input :: places, data :: items, rest, .step gives passes⟩
      · exact .inr ⟨p :: front, q, behind, input :: places, data :: items, rest, rfl, .step gives passes, stops⟩
    · exact .inr ⟨[], p, ps, [], [], input, rfl, .start input, ends⟩

section collecting

variable {ps qs : List Parser} {input data rest : Value} {events : List Event}

theorem passes_of_collect (ends : collect ps input = ⟨events, .ok (.success data rest)⟩) :
    ∃ places items, data = .list items ∧ events = heard ps places ∧ Passes ps input places items rest := by
  rcases exists_passes ps input with
    ⟨places, items, last, passes⟩ | ⟨front, p, behind, places, items, last, rfl, passes, stops⟩
  · rw [passes.collect_eq] at ends
    cases ends
    exact ⟨places, items, rfl, rfl, passes⟩
  · rw [collect, apply, passes.inSequence_stop stops] at ends
    exact absurd (congrArg Run.result ends) (stops data rest)

theorem collect_append_stop (ends : (collect ps input).Unsuccessful) (qs : List Parser) :
    collect (ps ++ qs) input = collect ps input := by
  rcases exists_passes ps input with
    ⟨places, items, last, passes⟩ | ⟨front, p, behind, places, items, last, rfl, passes, stops⟩
  · exact absurd (by rw [passes.collect_eq]) (ends (.list items) last)
  · simp only [collect, apply, List.append_assoc, List.cons_append, passes.inSequence_stop stops]

theorem collect_append_go (given : collect ps input = ⟨events, .ok (.success data rest)⟩)
    (ends : (collect qs rest).Unsuccessful) :
    collect (ps ++ qs) input = (collect qs rest).precededBy events := by
  obtain ⟨places, items, rfl, rfl, first⟩ := passes_of_collect given
  rcases exists_passes qs rest with
    ⟨places', items', last, passes⟩ | ⟨front, p, behind, places', items', last, rfl, passes, stops⟩
  · exact absurd (by rw [passes.collect_eq]) (ends (.list items') last)
  · simp only [collect, apply, first.inSequence_append, passes.inSequence_stop stops]

theorem collect_append_iff :
    collect (ps ++ qs) input = ⟨events, .ok (.success data rest)⟩ ↔
      ∃ xs ys middle heard heard', data = .list (xs ++ ys) ∧ events = heard ++ heard' ∧
        collect ps input = ⟨heard, .ok (.success (.list xs) middle)⟩ ∧
        collect qs middle = ⟨heard', .ok (.success (.list ys) rest)⟩ := by
  constructor
  · intro given
    obtain ⟨places, items, rfl, rfl, passes⟩ := passes_of_collect given
    obtain ⟨places₁, places₂, xs, ys, middle, rfl, rfl, first, second⟩ := passes.cut
    exact ⟨xs, ys, middle, _, _, rfl, first.heard_append qs places₂, first.collect_eq, second.collect_eq⟩
  · rintro ⟨xs, ys, middle, heard, heard', rfl, rfl, given, given'⟩
    obtain ⟨places, items, same, rfl, first⟩ := passes_of_collect given
    obtain ⟨places', items', same', rfl, second⟩ := passes_of_collect given'
    cases same
    cases same'
    rw [(first.append second).collect_eq, first.heard_append]

end collecting

/-- A function applied to what parsers in succession give is the parsers bound one inside another. Whatever the function,
each parser runs once, in order, on what the one before it has left, up to the first that gives no success, and then that
is the end and the function is not asked; if all succeed it gets their data in order. A succession that collects is cut
anywhere into two: both succeed, and the data are joined, or the part that gives no success is the end. -/
theorem succession_nests :
    (∀ f ps, apply f ps = nested ps f) ∧
    (∀ ps input,
      (∃ places items rest, Passes ps input places items rest ∧
        ∀ f, apply f ps input = ⟨heard ps places, (f items).map fun data => .success data rest⟩) ∨
      ∃ front p behind places items rest, ps = front ++ p :: behind ∧ Passes front input places items rest ∧
        (p rest).Unsuccessful ∧
        ∀ f, apply f ps input = ⟨heard front places ++ (p rest).events, (p rest).result⟩) ∧
    ∀ ps qs input,
      (∀ events data rest, collect (ps ++ qs) input = ⟨events, .ok (.success data rest)⟩ ↔
        ∃ xs ys middle heard heard', data = .list (xs ++ ys) ∧ events = heard ++ heard' ∧
          collect ps input = ⟨heard, .ok (.success (.list xs) middle)⟩ ∧
          collect qs middle = ⟨heard', .ok (.success (.list ys) rest)⟩) ∧
      ((collect ps input).Unsuccessful → collect (ps ++ qs) input = collect ps input) ∧
      ∀ events data middle, collect ps input = ⟨events, .ok (.success data middle)⟩ →
        (collect qs middle).Unsuccessful → collect (ps ++ qs) input = (collect qs middle).precededBy events := by
  refine ⟨fun f ps => inSequence_eq_nested f ps [], fun ps input => ?_, fun ps qs input => ?_⟩
  · rcases exists_passes ps input with
      ⟨places, items, rest, passes⟩ | ⟨front, p, behind, places, items, rest, rfl, passes, stops⟩
    · exact .inl ⟨places, items, rest, passes, passes.apply_eq⟩
    · exact .inr ⟨front, p, behind, places, items, rest, rfl, passes, stops, fun f => passes.inSequence_stop stops f _ []⟩
  · exact ⟨fun _ _ _ => collect_append_iff, fun ends => collect_append_stop ends qs,
      fun _ _ _ given ends => collect_append_go given ends⟩

/-- The first of three letters is there and the second is not, so that the third is not looked for. -/
theorem letters_in_succession :
    let p := Parser.spy ['p'] (.literalOr (.text "'x'".toList) (.text ['x']))
    let q := Parser.spy ['q'] (.literalOr (.text "'y'".toList) (.text ['y']))
    let input := Value.text ['x', 'z']
    let missing : Outcome := .failure (.text "'y'".toList) (.text ['z'])
    (collect [p] input = ⟨[.call ['p'] input], .ok (.success (.list [.text ['x']]) (.text ['z']))⟩ ∧
      (collect [q, p] (.text ['z'])).Unsuccessful ∧
      collect ([p] ++ [q, p]) input = ⟨[.call ['p'] input, .call ['q'] (.text ['z'])], .ok missing⟩) ∧
    ((collect [q] (.text ['z'])).Unsuccessful ∧
      collect ([q] ++ [p]) (.text ['z']) = ⟨[.call ['q'] (.text ['z'])], .ok missing⟩) := by
  intro p q input missing
  have taken : collect [p] input = ⟨[.call ['p'] input], .ok (.success (.list [.text ['x']]) (.text ['z']))⟩ := rfl
  have refused (ps : List Parser) : collect (q :: ps) (.text ['z']) = ⟨[.call ['q'] (.text ['z'])], .ok missing⟩ := rfl
  have stops (ps : List Parser) : (collect (q :: ps) (.text ['z'])).Unsuccessful := by
    intro data rest gives
    simp [refused, missing] at gives
  obtain ⟨-, -, goes⟩ := succession_nests.2.2 [p] [q, p] input
  obtain ⟨-, ends, -⟩ := succession_nests.2.2 [q] [p] (.text ['z'])
  refine ⟨⟨taken, stops [p], ?_⟩, stops [], ?_⟩
  · rw [goes _ _ _ taken (stops [p]), refused]
    rfl
  · rw [ends (stops []), refused]

end Parser

end ParseKit
