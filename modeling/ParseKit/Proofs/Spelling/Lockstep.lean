import ParseKit.Parser.Combinators
import ParseKit.Proofs.Spelling.Basic

/-!
Runs in step: on one text in two spellings, two parsers succeed with related data, or fail, at the same place of the
text, and leave the same journal. Every combinator keeps parsers in step.
-/

namespace ParseKit

def Spelling.SameWording (a b : Spelling) : Prop := ∀ s, (a.value s).render = (b.value s).render

/-- Two runs on one text in two spellings that do the same: what they leave is the same end of the text. -/
inductive Run.InStep (a b : Spelling) (gives : Value → Value → Prop) (input : Text) : Run Outcome → Run Outcome → Prop where
  | success {data data' : Value} {rest : Text} (events : List Event) : rest <:+ input → gives data data' →
      InStep a b gives input ⟨events, .ok (.success data (a.value rest))⟩ ⟨events, .ok (.success data' (b.value rest))⟩
  | failure {expected expected' : Value} {rest : Text} (events : List Event) : rest <:+ input →
      (a.SameWording b → expected = expected') →
      InStep a b gives input ⟨events, .ok (.failure expected (a.value rest))⟩ ⟨events, .ok (.failure expected' (b.value rest))⟩

namespace Run.InStep

variable {a b : Spelling} {gives gives' : Value → Value → Prop} {input : Text} {r r' : Run Outcome}

theorem precededBy (events : List Event) (step : InStep a b gives input r r') :
    InStep a b gives input (r.precededBy events) (r'.precededBy events) := by
  cases step with
  | success _ suffix given => exact .success _ suffix given
  | failure _ suffix same => exact .failure _ suffix same

theorem of_suffix {rest : Text} (suffix : rest <:+ input) (step : InStep a b gives rest r r') :
    InStep a b gives input r r' := by
  cases step with
  | success _ further given => exact .success _ (further.trans suffix) given
  | failure _ further same => exact .failure _ (further.trans suffix) same

theorem imp (weaker : ∀ data data', gives data data' → gives' data data') (step : InStep a b gives input r r') :
    InStep a b gives' input r r' := by
  cases step with
  | success events suffix given => exact .success events suffix (weaker _ _ given)
  | failure events suffix same => exact .failure events suffix same

theorem bind {next next' : Outcome → Run Outcome} (step : InStep a b gives input r r')
    (success : ∀ data data' rest, gives data data' →
      InStep a b gives' rest (next (.success data (a.value rest))) (next' (.success data' (b.value rest))))
    (failure : ∀ expected expected' rest, rest <:+ input → (a.SameWording b → expected = expected') →
      InStep a b gives' input (next (.failure expected (a.value rest))) (next' (.failure expected' (b.value rest)))) :
    InStep a b gives' input (r >>= next) (r' >>= next') := by
  cases step with
  | @success data data' rest events suffix given => exact ((success data data' rest given).of_suffix suffix).precededBy events
  | @failure expected expected' rest events suffix same =>
    exact (failure expected expected' rest suffix same).precededBy events

end Run.InStep

namespace Parser

def InStep (a b : Spelling) (gives : Value → Value → Prop) (p q : Parser) : Prop :=
  ∀ s, Run.InStep a b gives s (p (a.value s)) (q (b.value s))

theorem literal_made (a : Spelling) (start : Text) :
    ∃ expected, literalExpectation (a.value start) = .ok expected ∧
      literal (a.value start) = .ok (literalOr expected (a.value start)) := by
  obtain ⟨shown, rendered⟩ := a.renders start
  have worded : literalExpectation (a.value start) = .ok (.text ('\'' :: (shown ++ ['\'']))) := by
    rw [literalExpectation, rendered]
    rfl
  exact ⟨_, worded, literal_of_render (a.isSequence start) rendered⟩

theorem literalOr_begins (a : Spelling) (expected : Value) (start rest : Text) :
    literalOr expected (a.value start) (a.value (start ++ rest)) = ⟨[], .ok (.success (a.value start) (a.value rest))⟩ := by
  have begins : beginsWith (a.value (start ++ rest)) (a.value start) = .ok true := by
    rw [a.begins, List.isPrefixOf_iff_prefix.mpr (List.prefix_append start rest)]
  exact literalOr_of_begins begins (a.cut start rest)

theorem literalOr_differs (a : Spelling) (expected : Value) {start s : Text} (differs : ¬ start <+: s) :
    literalOr expected (a.value start) (a.value s) = ⟨[], .ok (.failure expected (a.value s))⟩ := by
  have begins : beginsWith (a.value s) (a.value start) = .ok false := by
    rw [a.begins, Bool.eq_false_iff.mpr (mt List.isPrefixOf_iff_prefix.mp differs)]
  exact literalOr_of_differs begins

namespace InStep

variable {a b : Spelling} {gives gives' : Value → Value → Prop} {p q : Parser} {s rest : Text}

theorem literalOr {start : Text} {expected expected' : Value} (same : a.SameWording b → expected = expected')
    (given : gives (a.value start) (b.value start)) :
    (literalOr expected (a.value start)).InStep a b gives (.literalOr expected' (b.value start)) := by
  intro s
  by_cases begins : start <+: s
  · obtain ⟨rest, rfl⟩ := begins
    rw [literalOr_begins, literalOr_begins]
    exact .success [] (List.suffix_append start rest) given
  · rw [literalOr_differs a expected begins, literalOr_differs b expected' begins]
    exact .failure [] (List.suffix_refl s) same

theorem endOfInput (given : gives .none .none) : endOfInput.InStep a b gives .endOfInput := by
  intro s
  simp only [Parser.endOfInput, a.isEmpty, b.isEmpty]
  cases s.isEmpty
  · exact .failure [] (List.suffix_refl s) fun _ => rfl
  · exact .success [] (List.suffix_refl s) given

theorem succeed {value : Value} (given : gives value value) : (succeed value).InStep a b gives (.succeed value) :=
  fun s => .success [] (List.suffix_refl s) given

theorem label (expected : Value) (step : p.InStep a b gives q) : (p.label expected).InStep a b gives (q.label expected) := by
  intro s
  refine (step s).bind ?_ ?_
  · intro data data' rest given
    exact .success [] (List.suffix_refl rest) given
  · intro _ _ rest suffix _
    exact .failure [] suffix fun _ => rfl

theorem firstOf_nil : (firstOf []).InStep a b gives (.firstOf []) :=
  fun s => .failure [] (List.suffix_refl s) fun _ => rfl

theorem firstOf_cons {ps qs : List Parser} (step : p.InStep a b gives q)
    (others : (Parser.firstOf ps).InStep a b gives (.firstOf qs)) :
    (Parser.firstOf (p :: ps)).InStep a b gives (.firstOf (q :: qs)) := by
  intro s
  refine (step s).bind ?_ ?_
  · intro data data' rest given
    exact .success [] (List.suffix_refl rest) given
  · intro _ _ _ _ _
    exact others s

theorem inSequence_nil {f : List Value → Except Fault Value} {done done' : List Value} {data data' : Value}
    (applied : f done.reverse = .ok data) (applied' : f done'.reverse = .ok data') (given : gives data data') :
    (inSequence f [] done).InStep a b gives (.inSequence f [] done') := by
  intro s
  simp only [inSequence, applied, applied']
  exact .success [] (List.suffix_refl s) given

theorem inSequence_cons {f : List Value → Except Fault Value} {ps qs : List Parser} {done done' : List Value}
    (step : p.InStep a b gives q)
    (others : ∀ data data', gives data data' →
      (inSequence f ps (data :: done)).InStep a b gives' (.inSequence f qs (data' :: done'))) :
    (inSequence f (p :: ps) done).InStep a b gives' (.inSequence f (q :: qs) done') := by
  intro s
  refine (step s).bind ?_ ?_
  · intro data data' rest given
    exact others data data' given rest
  · intro _ _ rest suffix same
    exact .failure [] suffix same

theorem rounds {g : Value → Value → Prop} (step : p.InStep a b g q) {input place : Value} {events : List Event}
    {items : List Value} (rounds : p.Rounds input events items place) (spelled : input = a.value s) :
    ∃ (rest : Text) (pairs : List (Value × Value)), place = a.value rest ∧ rest <:+ s ∧ items = pairs.map Prod.fst ∧
      (∀ pair ∈ pairs, g pair.1 pair.2) ∧ q.Rounds (b.value s) events (pairs.map Prod.snd) (b.value rest) := by
  induction rounds generalizing s with
  | start input => exact ⟨s, [], spelled, List.suffix_refl s, rfl, by simp, .start _⟩
  | @round input data middle place heard events items given shorter _ ih =>
    have first := step s
    rw [← spelled, given] at first
    generalize taken : q (b.value s) = r' at first
    cases first with
    | @success _ data' rest _ suffix related =>
      rw [spelled, a.shorter_congr b suffix] at shorter
      obtain ⟨rest', pairs, left, further, same, all, rounds⟩ := ih rfl
      refine ⟨rest', (data, data') :: pairs, left, further.trans suffix, by rw [same]; rfl, ?_, .round taken shorter rounds⟩
      intro pair member
      rcases List.mem_cons.mp member with rfl | member
      · exact related
      · exact all pair member

theorem stops (step : p.InStep a b gives q) (stops : p.Stops (a.value rest)) : q.Stops (b.value rest) := by
  intro data next given shorter
  have last := step rest
  generalize taken : p (a.value rest) = r, q (b.value rest) = r' at last given
  cases last with
  | @success data data' rest' events suffix related =>
    cases given
    rw [← a.shorter_congr b suffix] at shorter
    exact stops data (a.value rest') (by rw [taken]) shorter
  | failure => cases given

theorem many {g : Value → Value → Prop} (step : p.InStep a b g q)
    (listed : ∀ pairs : List (Value × Value), (∀ pair ∈ pairs, g pair.1 pair.2) →
      gives (.list (pairs.map Prod.fst)) (.list (pairs.map Prod.snd))) : p.many.InStep a b gives q.many := by
  intro s
  obtain ⟨events, items, place, rounds, stops⟩ := exists_rounds p (a.value s)
  obtain ⟨size, measured⟩ := Value.exists_length (a.isSequence s)
  obtain ⟨size', measured'⟩ := Value.exists_length (b.isSequence s)
  obtain ⟨rest, pairs, rfl, suffix, rfl, all, rounds'⟩ := step.rounds rounds rfl
  rw [rounds.many_eq stops measured, rounds'.many_eq (step.stops stops) measured']
  refine Run.InStep.precededBy events ?_
  have last := step rest
  generalize p (a.value rest) = r, q (b.value rest) = r' at last
  cases last with
  | failure heard => exact .success heard suffix (listed pairs all)
  | @success data data' rest' heard =>
    -- both records count the same items
    obtain ⟨left, known⟩ := Value.exists_length (a.isSequence rest')
    obtain ⟨left', known'⟩ := Value.exists_length (b.isSequence rest')
    simp only [concluded, known, known', List.length_map]
    exact .success _ suffix (listed pairs all)

end InStep

end Parser

end ParseKit
