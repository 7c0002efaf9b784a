import ParseKit.Proofs.Sequencing

/-!
Consumption: what a parser leaves is a suffix of what it was given. Main statement: this holds, on success
and on failure, of every parser that is put together from primitives by the combinators and scripts.
-/

namespace ParseKit

/-- A sequence is the end of another one of its kind. -/
inductive Value.IsSuffix : Value → Value → Prop where
  | text {s t : Text} : s <:+ t → IsSuffix (.text s) (.text t)
  | bytes {a b : List UInt8} : a <:+ b → IsSuffix (.bytes a) (.bytes b)
  | bytearray {a b : List UInt8} : a <:+ b → IsSuffix (.bytearray a) (.bytearray b)
  | list {xs ys : List Value} : xs <:+ ys → IsSuffix (.list xs) (.list ys)
  | tuple {xs ys : List Value} : xs <:+ ys → IsSuffix (.tuple xs) (.tuple ys)

namespace Value.IsSuffix

theorem refl {input : Value} (sequence : input.isSequence) : input.IsSuffix input := by
  cases input <;> simp only [isSequence, Bool.false_eq_true] at sequence
  · exact .text (List.suffix_refl _)
  · exact .bytes (List.suffix_refl _)
  · exact .bytearray (List.suffix_refl _)
  · exact .list (List.suffix_refl _)
  · exact .tuple (List.suffix_refl _)

theorem trans {last middle first : Value} (left : last.IsSuffix middle) (right : middle.IsSuffix first) :
    last.IsSuffix first := by
  cases left with
  | text s => cases right with | text t => exact .text (s.trans t)
  | bytes a => cases right with | bytes b => exact .bytes (a.trans b)
  | bytearray a => cases right with | bytearray b => exact .bytearray (a.trans b)
  | list xs => cases right with | list ys => exact .list (xs.trans ys)
  | tuple xs => cases right with | tuple ys => exact .tuple (xs.trans ys)

theorem isSequence {last first : Value} (suffix : last.IsSuffix first) : last.isSequence := by
  cases suffix <;> rfl

theorem of_drop? {count : Nat} {input last : Value} (dropped : input.drop? count = some last) :
    last.IsSuffix input := by
  cases input <;> cases dropped
  · exact .text (List.drop_suffix _ _)
  · exact .bytes (List.drop_suffix _ _)
  · exact .bytearray (List.drop_suffix _ _)
  · exact .list (List.drop_suffix _ _)
  · exact .tuple (List.drop_suffix _ _)

theorem exists_drop? {last first : Value} (suffix : last.IsSuffix first) :
    ∃ size count, first.length? = some size ∧ count ≤ size ∧ first.drop? count = some last := by
  have cut {α : Type} {xs ys : List α} (suffix : xs <:+ ys) : ∃ count, count ≤ ys.length ∧ ys.drop count = xs :=
    ⟨ys.length - xs.length, Nat.sub_le _ _, (List.suffix_iff_eq_drop.mp suffix).symm⟩
  cases suffix with
  | text suffix | bytes suffix | bytearray suffix | list suffix | tuple suffix =>
    obtain ⟨count, bound, rfl⟩ := cut suffix
    exact ⟨_, count, rfl, bound, rfl⟩

end Value.IsSuffix

def Outcome.remaining : Outcome → Value
  | .success _ rest => rest
  | .failure _ actual => actual

/-- A parser that is handed out somewhere in a script. -/
inductive Script.Yields : Script → Parser → Prop where
  | here (p : Parser) (next : Value → Script) : Yields (.await p next) p
  | note {next : Script} {p : Parser} (value : Value) : Yields next p → Yields (.note value next) p
  | later {next : Value → Script} {p : Parser} (q : Parser) (data : Value) :
      Yields (next data) p → Yields (.await q next) p

/-- Parsers that are put together from primitives. Functions and scripts may choose the next parser by what
was parsed before, among parsers of this kind. -/
inductive Composed : Parser → Prop where
  | literal {start : Value} {p : Parser} : Parser.literal start = .ok p → Composed p
  | matching (p : Pattern) : Composed (.matching p)
  | endOfInput : Composed .endOfInput
  | succeed (value : Value) : Composed (.succeed value)
  | map {p : Parser} (f : Value → Except Fault Value) : Composed p → Composed (.map f p)
  | firstOf {ps : List Parser} : (∀ p ∈ ps, Composed p) → Composed (.firstOf ps)
  | apply {ps : List Parser} (f : List Value → Except Fault Value) :
      (∀ p ∈ ps, Composed p) → Composed (.apply f ps)
  | collect {ps : List Parser} : (∀ p ∈ ps, Composed p) → Composed (.collect ps)
  | label {p : Parser} (expected : Value) : Composed p → Composed (.label p expected)
  | lexeme {junk p : Parser} : Composed junk → Composed p → Composed (.lexeme junk p)
  | many {p : Parser} : Composed p → Composed (.many p)
  | bind {p : Parser} {f : Value → Except Fault Parser} :
      Composed p → (∀ data q, f data = .ok q → Composed q) → Composed (.bind p f)
  | script {body : Script} (cleanup : Option Text) :
      (∀ p, body.Yields p → Composed p) → Composed (.script body cleanup)

namespace Parser

def Consumes (p : Parser) : Prop :=
  ∀ (input : Value) (outcome : Outcome), input.isSequence → (p input).result = .ok outcome →
    outcome.remaining.IsSuffix input

theorem consumes_literalOr (expected start : Value) : (literalOr expected start).Consumes := by
  intro input outcome sequence ends
  obtain ⟨holds, -, ends⟩ := Run.except_bind_eq_ok ends
  cases holds with
  | false =>
    cases ends
    exact .refl sequence
  | true =>
    obtain ⟨last, left, ends⟩ := Run.except_bind_eq_ok ends
    cases dropped : input.drop? (start.length?.getD 0) with
    | none => simp [rest, dropped] at left
    | some _ =>
      simp only [rest, dropped, Except.ok.injEq] at left
      subst left
      cases ends
      exact .of_drop? dropped

theorem consumes_literal {start : Value} {p : Parser} (made : literal start = .ok p) : p.Consumes := by
  rw [literal] at made
  split at made
  · cases made
  · obtain ⟨-, -, made⟩ := Run.except_bind_eq_ok made
    obtain ⟨expected, -, made⟩ := Run.except_bind_eq_ok made
    cases made
    exact consumes_literalOr expected start

theorem consumes_matching (p : Pattern) : (matching p).Consumes := by
  intro input outcome sequence ends
  simp only [matching, Run.pure_def, Except.ok.injEq] at ends
  subst ends
  split
  · split
    · exact .text (List.drop_suffix _ _)
    · exact .refl sequence
  · split
    · exact .bytes (List.drop_suffix _ _)
    · exact .refl sequence
  · exact .refl sequence

theorem consumes_endOfInput : endOfInput.Consumes := by
  intro input outcome sequence ends
  rcases empty : input.isEmpty? with _ | _ | _
  all_goals simp only [endOfInput, empty, Run.fault, Run.pure_def] at ends
  all_goals cases ends
  · exact .refl sequence
  · exact .refl sequence

theorem consumes_succeed (value : Value) : (succeed value).Consumes := by
  intro input outcome sequence ends
  cases ends
  exact .refl sequence

theorem Consumes.map {p : Parser} (f : Value → Except Fault Value) (consumes : p.Consumes) :
    (p.map f).Consumes := by
  intro input outcome sequence ends
  obtain ⟨first, given, ends⟩ := Run.result_bind_eq_ok ends
  have suffix := consumes _ _ sequence given
  cases first with
  | failure expected actual =>
    cases ends
    exact suffix
  | success data rest =>
    obtain ⟨value, -, ends⟩ := Run.result_bind_eq_ok ends
    cases ends
    exact suffix

theorem consumes_firstOf (ps : List Parser) (consume : ∀ p ∈ ps, p.Consumes) : (firstOf ps).Consumes := by
  intro input outcome sequence ends
  induction ps with
  | nil =>
    cases ends
    exact .refl sequence
  | cons p ps ih =>
    obtain ⟨first, given, ends⟩ := Run.result_bind_eq_ok ends
    cases first with
    | success data rest =>
      cases ends
      exact consume p (by simp) _ _ sequence given
    | failure expected actual => exact ih (fun q member => consume q (by simp [member])) ends

theorem consumes_inSequence (f : List Value → Except Fault Value) (ps : List Parser)
    (consume : ∀ p ∈ ps, p.Consumes) (done : List Value) : (inSequence f ps done).Consumes := by
  induction ps generalizing done with
  | nil =>
    intro input outcome sequence ends
    obtain ⟨value, -, ends⟩ := Run.result_bind_eq_ok ends
    cases ends
    exact .refl sequence
  | cons p ps ih =>
    intro input outcome sequence ends
    obtain ⟨first, given, ends⟩ := Run.result_bind_eq_ok ends
    have suffix := consume p (by simp) _ _ sequence given
    cases first with
    | failure expected actual =>
      cases ends
      exact suffix
    | success data rest =>
      have more := ih (fun q member => consume q (by simp [member])) (data :: done)
      exact (more _ _ suffix.isSequence ends).trans suffix

theorem consumes_apply (f : List Value → Except Fault Value) (ps : List Parser)
    (consume : ∀ p ∈ ps, p.Consumes) : (apply f ps).Consumes := consumes_inSequence f ps consume []

theorem Consumes.label {p : Parser} (expected : Value) (consumes : p.Consumes) :
    (p.label expected).Consumes := by
  intro input outcome sequence ends
  obtain ⟨first, given, ends⟩ := Run.result_bind_eq_ok ends
  have suffix := consumes _ _ sequence given
  cases first <;> cases ends <;> exact suffix

theorem Consumes.manyFrom {p : Parser} (consumes : p.Consumes) (size count : Nat) (done : List Value)
    (events : List Event) (input : Value) (outcome : Outcome) (sequence : input.isSequence)
    (ends : (manyFrom p size count done events input).result = .ok outcome) :
    outcome.remaining.IsSuffix input := by
  -- every further round starts from a suffix, and the repetition ends where its last round started
  induction size using Nat.strongRecOn generalizing count done events input with
  | ind size ih =>
    rw [Parser.manyFrom] at ends
    rcases given : (p input).result with fault | ⟨data, rest⟩ | ⟨expected, actual⟩
    all_goals simp only [given] at ends
    · cases ends
    · have suffix : rest.IsSuffix input := consumes _ _ sequence given
      cases measured : rest.length? with
      | none => simp [measured] at ends
      | some size' =>
        simp only [measured] at ends
        split at ends
        · rename_i shorter
          exact (ih size' shorter _ _ _ rest suffix.isSequence ends).trans suffix
        · cases ends
          exact .refl sequence
    · cases ends
      exact .refl sequence

theorem Consumes.many {p : Parser} (consumes : p.Consumes) : p.many.Consumes := by
  intro input outcome sequence ends
  rw [Parser.many] at ends
  split at ends
  · exact consumes.manyFrom _ _ _ _ _ _ sequence ends
  · obtain ⟨first, given, ends⟩ := Run.result_bind_eq_ok ends
    cases first <;> cases ends
    exact .refl sequence

theorem Consumes.bind {p : Parser} {f : Value → Except Fault Parser} (consumes : p.Consumes)
    (next : ∀ data q, f data = .ok q → q.Consumes) : (p.bind f).Consumes := by
  intro input outcome sequence ends
  obtain ⟨first, given, ends⟩ := Run.result_bind_eq_ok ends
  have suffix := consumes _ _ sequence given
  cases first with
  | failure expected actual =>
    cases ends
    exact suffix
  | success data rest =>
    obtain ⟨q, made, ends⟩ := Run.result_bind_eq_ok ends
    exact (next data q made _ _ suffix.isSequence ends).trans suffix

theorem consumes_meaning (body : Script) (consume : ∀ p, body.Yields p → p.Consumes) :
    body.meaning.Consumes := by
  induction body with
  | done value => exact consumes_succeed value
  | raise fault =>
    intro input outcome sequence ends
    cases ends
  | note value next ih =>
    intro input outcome sequence ends
    exact ih (fun p handed => consume p (.note value handed)) input outcome sequence ends
  | await p next ih =>
    refine (consume p (.here p next)).bind ?_
    intro data q made
    cases made
    exact ih data fun r handed => consume r (.later p data handed)

theorem consumes_script (body : Script) (cleanup : Option Text) (consume : ∀ p, body.Yields p → p.Consumes) :
    (script body cleanup).Consumes := by
  intro input outcome sequence ends
  rw [script_apply] at ends
  exact consumes_meaning body consume input outcome sequence ends

end Parser

theorem Composed.consumes {p : Parser} (composed : Composed p) : p.Consumes := by
  induction composed with
  | literal made => exact Parser.consumes_literal made
  | matching p => exact Parser.consumes_matching p
  | endOfInput => exact Parser.consumes_endOfInput
  | succeed value => exact Parser.consumes_succeed value
  | map f _ ih => exact ih.map f
  | firstOf _ ih => exact Parser.consumes_firstOf _ ih
  | apply f _ ih => exact Parser.consumes_apply f _ ih
  | collect _ ih => exact Parser.consumes_apply _ _ ih
  | label expected _ ih => exact ih.label expected
  | @lexeme junk p _ _ skips keeps =>
    refine Parser.consumes_apply _ [p, junk] ?_
    intro q member
    rcases (by simpa using member : q = p ∨ q = junk) with rfl | rfl
    · exact keeps
    · exact skips
  | many _ ih => exact ih.many
  | bind _ _ first next => exact first.bind next
  | script cleanup _ ih => exact Parser.consumes_script _ cleanup ih

/-- A composed parser leaves a suffix of the sequence that it is run on, and fails at one. -/
theorem Composed.leaves_suffix {p : Parser} (composed : Composed p) {input : Value}
    (sequence : input.isSequence) :
    (∀ data rest, (p input).result = .ok (.success data rest) → rest.IsSuffix input) ∧
    (∀ expected actual, (p input).result = .ok (.failure expected actual) → actual.IsSuffix input) :=
  ⟨fun _ _ ends => composed.consumes _ _ sequence ends, fun _ _ ends => composed.consumes _ _ sequence ends⟩

/-- A script that repeats a letter and fails behind the last one, and the repetition alone. -/
theorem letters_leave_suffix :
    let letters := Parser.many (Parser.literalOr (.text "'a'".toList) (.text ['a']))
    let whole := Parser.script (.await letters fun data => .await .endOfInput fun _ => .done data) none
    let input := Value.text ['a', 'a', 'b']
    Composed letters ∧ Composed whole ∧ input.isSequence ∧
      (letters input).result = .ok (.success (.list [.text ['a'], .text ['a']]) (.text ['b'])) ∧
      (whole input).result = .ok (.failure (.ofString "end of input") (.text ['b'])) ∧
      Value.IsSuffix (.text ['b']) input := by
  intro letters whole input
  have many : Composed letters := .many (.literal (rfl : Parser.literal (.text ['a']) = _))
  have composed : Composed whole := by
    refine .script none fun p handed => ?_
    cases handed with
    | here => exact many
    | later q data handed =>
      cases handed with
      | here => exact .endOfInput
      | later q data handed => cases handed
  have taken : (letters input).result = .ok (.success (.list [.text ['a'], .text ['a']]) (.text ['b'])) := by
    simp only [letters, input]
    cbv
  have failed : (whole input).result = .ok (.failure (.ofString "end of input") (.text ['b'])) := by
    simp only [whole, letters, input]
    cbv
  exact ⟨many, composed, rfl, taken, failed, (composed.leaves_suffix rfl).2 _ _ failed⟩

end ParseKit
