import ParseKit.Proofs.Spelling.Lockstep

/-!
Grammars of fixed pieces of text, which can be written for any spelling. Main statement: the parsers of a grammar in two
spellings are in step, with data that differ in the spelling of the pieces only.
-/

namespace ParseKit

inductive Grammar where
  | literal (start : Text)
  | endOfInput
  | succeed (value : Value)
  | firstOf (gs : List Grammar)
  | collect (gs : List Grammar)
  | label (g : Grammar) (expected : Value)
  | lexeme (junk g : Grammar)
  | many (g : Grammar)

namespace Grammar

mutual

def parser (spell : Text → Value) : Grammar → Except Fault Parser
  | .literal start => Parser.literal (spell start)
  | .endOfInput => .ok .endOfInput
  | .succeed value => .ok (.succeed value)
  | .firstOf gs => do return .firstOf (← parsers spell gs)
  | .collect gs => do return .collect (← parsers spell gs)
  | .label g expected => do return .label (← parser spell g) expected
  | .lexeme junk g => do return .lexeme (← parser spell junk) (← parser spell g)
  | .many g => do return .many (← parser spell g)

def parsers (spell : Text → Value) : List Grammar → Except Fault (List Parser)
  | [] => .ok []
  | g :: gs => do return (← parser spell g) :: (← parsers spell gs)

end

mutual

/-- Data that a grammar gives in two spellings: its pieces are the same texts, and everything else is the same. -/
inductive Gives (first second : Text → Value) : Grammar → Value → Value → Prop where
  | literal (start : Text) : Gives first second (.literal start) (first start) (second start)
  | endOfInput : Gives first second .endOfInput .none .none
  | succeed (value : Value) : Gives first second (.succeed value) value value
  | firstOf {gs : List Grammar} {g : Grammar} {data data' : Value} : g ∈ gs → Gives first second g data data' →
      Gives first second (.firstOf gs) data data'
  | collect {gs : List Grammar} {items items' : List Value} : GivesAll first second gs items items' →
      Gives first second (.collect gs) (.list items) (.list items')
  | label {g : Grammar} {data data' : Value} (expected : Value) : Gives first second g data data' →
      Gives first second (.label g expected) data data'
  | lexeme {g : Grammar} {data data' : Value} (junk : Grammar) : Gives first second g data data' →
      Gives first second (.lexeme junk g) data data'
  | many {g : Grammar} (pairs : List (Value × Value)) : (∀ pair ∈ pairs, Gives first second g pair.1 pair.2) →
      Gives first second (.many g) (.list (pairs.map Prod.fst)) (.list (pairs.map Prod.snd))

inductive GivesAll (first second : Text → Value) : List Grammar → List Value → List Value → Prop where
  | nil : GivesAll first second [] [] []
  | cons {g : Grammar} {gs : List Grammar} {data data' : Value} {items items' : List Value} :
      Gives first second g data data' → GivesAll first second gs items items' →
      GivesAll first second (g :: gs) (data :: items) (data' :: items')

end

variable (a b : Spelling)

/-- The parsers of several grammars in two spellings, in step one by one. -/
inductive AllInStep : List Grammar → List Parser → List Parser → Prop where
  | nil : AllInStep [] [] []
  | cons {g : Grammar} {gs : List Grammar} {p q : Parser} {ps qs : List Parser} :
      p.InStep a b (g.Gives a.value b.value) q → AllInStep gs ps qs → AllInStep (g :: gs) (p :: ps) (q :: qs)

variable {a b} {gs : List Grammar} {ps qs : List Parser}

theorem AllInStep.firstOf (steps : AllInStep a b gs ps qs) :
    (Parser.firstOf ps).InStep a b ((Grammar.firstOf gs).Gives a.value b.value) (.firstOf qs) := by
  induction steps with
  | nil => exact .firstOf_nil
  | @cons g gs p q ps qs step _ ih =>
    refine .firstOf_cons ?_ ?_
    · intro s
      exact (step s).imp fun _ _ given => .firstOf List.mem_cons_self given
    · intro s
      refine (ih s).imp fun data data' given => ?_
      cases given with
      | firstOf member given => exact .firstOf (List.mem_cons_of_mem g member) given

theorem AllInStep.inSequence (steps : AllInStep a b gs ps qs) (done done' : List Value) :
    (Parser.inSequence (fun data => .ok (.list data)) ps done).InStep a b
      (fun data data' => ∃ items items', data = .list (done.reverse ++ items) ∧ data' = .list (done'.reverse ++ items') ∧
        GivesAll a.value b.value gs items items')
      (.inSequence (fun data => .ok (.list data)) qs done') := by
  induction steps generalizing done done' with
  | nil => exact .inSequence_nil rfl rfl ⟨[], [], by simp, by simp, .nil⟩
  | cons step _ ih =>
    refine .inSequence_cons step fun data data' given s => ?_
    refine (ih (data :: done) (data' :: done') s).imp ?_
    rintro _ _ ⟨items, items', rfl, rfl, all⟩
    exact ⟨data :: items, data' :: items', by simp, by simp, .cons given all⟩

theorem AllInStep.collect (steps : AllInStep a b gs ps qs) :
    (Parser.collect ps).InStep a b ((Grammar.collect gs).Gives a.value b.value) (.collect qs) := by
  intro s
  refine (steps.inSequence [] [] s).imp ?_
  rintro _ _ ⟨items, items', rfl, rfl, all⟩
  exact .collect all

theorem lexeme_inStep {junk g : Grammar} {p q skip skip' : Parser}
    (skips : skip.InStep a b (junk.Gives a.value b.value) skip') (step : p.InStep a b (g.Gives a.value b.value) q) :
    (Parser.lexeme skip p).InStep a b ((Grammar.lexeme junk g).Gives a.value b.value) (.lexeme skip' q) := by
  refine .inSequence_cons step fun data data' given => ?_
  refine .inSequence_cons skips fun skipped skipped' _ => ?_
  exact .inSequence_nil rfl rfl (.lexeme junk given)

mutual

theorem inStep (a b : Spelling) (g : Grammar) :
    ∃ p q, g.parser a.value = .ok p ∧ g.parser b.value = .ok q ∧ p.InStep a b (g.Gives a.value b.value) q :=
  match g with
  | .literal start => by
    obtain ⟨expected, worded, made⟩ := Parser.literal_made a start
    obtain ⟨expected', worded', made'⟩ := Parser.literal_made b start
    refine ⟨_, _, made, made', .literalOr (fun same => ?_) (.literal start)⟩
    rw [Parser.literalExpectation, same start] at worded
    exact Except.ok.inj (worded.symm.trans worded')
  | .endOfInput => ⟨_, _, rfl, rfl, .endOfInput .endOfInput⟩
  | .succeed value => ⟨_, _, rfl, rfl, .succeed (.succeed value)⟩
  | .firstOf gs => by
    obtain ⟨ps, qs, made, made', steps⟩ := allInStep a b gs
    exact ⟨.firstOf ps, .firstOf qs, by rw [parser, made]; rfl, by rw [parser, made']; rfl, steps.firstOf⟩
  | .collect gs => by
    obtain ⟨ps, qs, made, made', steps⟩ := allInStep a b gs
    exact ⟨.collect ps, .collect qs, by rw [parser, made]; rfl, by rw [parser, made']; rfl, steps.collect⟩
  | .label g expected => by
    obtain ⟨p, q, made, made', step⟩ := inStep a b g
    refine ⟨.label p expected, .label q expected, by rw [parser, made]; rfl, by rw [parser, made']; rfl, fun s => ?_⟩
    exact (step.label expected s).imp fun _ _ given => .label expected given
  | .lexeme junk g => by
    obtain ⟨skip, skip', skips, skips', stepped⟩ := inStep a b junk
    obtain ⟨p, q, made, made', step⟩ := inStep a b g
    exact ⟨.lexeme skip p, .lexeme skip' q, by rw [parser, skips, made]; rfl, by rw [parser, skips', made']; rfl,
      lexeme_inStep stepped step⟩
  | .many g => by
    obtain ⟨p, q, made, made', step⟩ := inStep a b g
    exact ⟨.many p, .many q, by rw [parser, made]; rfl, by rw [parser, made']; rfl, step.many fun pairs all => .many pairs all⟩

theorem allInStep (a b : Spelling) (gs : List Grammar) :
    ∃ ps qs, parsers a.value gs = .ok ps ∧ parsers b.value gs = .ok qs ∧ AllInStep a b gs ps qs :=
  match gs with
  | [] => ⟨[], [], rfl, rfl, .nil⟩
  | g :: gs => by
    obtain ⟨p, q, made, made', step⟩ := inStep a b g
    obtain ⟨ps, qs, all, all', steps⟩ := allInStep a b gs
    exact ⟨p :: ps, q :: qs, by rw [parsers, made, all]; rfl, by rw [parsers, made', all']; rfl, .cons step steps⟩

end

end Grammar

end ParseKit
