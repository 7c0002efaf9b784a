import ParseKit.Proofs.Repetition

/-!
Conservation: parsers that only take pieces and arrange them neither lose nor double nor move anything. Main
statement: the leaves of what such a parser gives, joined, and the rest are the input.
-/

namespace ParseKit

mutual

/-- What stands in lists at any depth, in order; nothing has no leaves. -/
def Value.leaves : Value → List Value
  | .none => []
  | .list items => leavesOf items
  | v => [v]

def Value.leavesOf : List Value → List Value
  | [] => []
  | item :: items => leaves item ++ leavesOf items

end

/-- A kind of sequences, as values. -/
structure Alphabet (α : Type) where
  value : List α → Value
  length_value : ∀ s, (value s).length? = some s.length
  isEmpty_value : ∀ s, (value s).isEmpty? = some s.isEmpty
  take_value : ∀ count s, (value s).take? count = some (value (s.take count))
  drop_value : ∀ count s, (value s).drop? count = some (value (s.drop count))
  leaves_value : ∀ s, (value s).leaves = [value s]
  begins_value : ∀ s start, Parser.beginsWith (value s) (value start) = .ok true → start <+: s

namespace Alphabet

def characters : Alphabet Char where
  value := .text
  length_value _ := rfl
  isEmpty_value _ := rfl
  take_value _ _ := rfl
  drop_value _ _ := rfl
  leaves_value _ := rfl
  begins_value s start begins := by simpa [Parser.beginsWith] using begins

def octets : Alphabet UInt8 where
  value := .bytes
  length_value _ := rfl
  isEmpty_value _ := rfl
  take_value _ _ := rfl
  drop_value _ _ := rfl
  leaves_value _ := rfl
  begins_value b start begins := by simpa [Parser.beginsWith] using begins

end Alphabet

section

variable {α : Type} (kind : Alphabet α)

/-- Parsers that take pieces of sequences of one kind and arrange them. -/
inductive Arranging : Parser → Prop where
  | literal (start : List α) {p : Parser} : Parser.literal (kind.value start) = .ok p → Arranging p
  | matching (p : Pattern) : Arranging (.matching p)
  | endOfInput : Arranging .endOfInput
  | firstOf {ps : List Parser} : (∀ p ∈ ps, Arranging p) → Arranging (.firstOf ps)
  | collect {ps : List Parser} : (∀ p ∈ ps, Arranging p) → Arranging (.collect ps)
  | label {p : Parser} (expected : Value) : Arranging p → Arranging (.label p expected)
  | many {p : Parser} : Arranging p → Arranging (.many p)

/-- Some data and a rest make up a sequence. -/
def Alphabet.Splits (whole : List α) (leaves : List Value) (rest : Value) : Prop :=
  ∃ (pieces : List (List α)) (behind : List α),
    leaves = pieces.map kind.value ∧ rest = kind.value behind ∧ pieces.flatten ++ behind = whole

def Alphabet.Filled (data : Value) : Prop :=
  ∃ pieces : List (List α), data.leaves = pieces.map kind.value ∧ pieces.flatten ≠ []

def Parser.Conserves (p : Parser) : Prop :=
  ∀ whole data rest, (p (kind.value whole)).result = .ok (.success data rest) → kind.Splits whole data.leaves rest

end

namespace Alphabet

variable {α : Type} {kind : Alphabet α} {whole : List α}

theorem splits_nothing (whole : List α) : kind.Splits whole [] (kind.value whole) := ⟨[], whole, rfl, rfl, rfl⟩

theorem splits_piece {front behind : List α} (joined : front ++ behind = whole) :
    kind.Splits whole (kind.value front).leaves (kind.value behind) :=
  ⟨[front], behind, kind.leaves_value front, rfl, by simpa using joined⟩

theorem Splits.behind {pieces : List (List α)} {middle : List α} {leaves : List Value} {rest : Value}
    (split : kind.Splits middle leaves rest) (joined : pieces.flatten ++ middle = whole) :
    kind.Splits whole (pieces.map kind.value ++ leaves) rest := by
  obtain ⟨more, behind, rfl, same, joined'⟩ := split
  exact ⟨pieces ++ more, behind, by simp, same, by simp [← joined, ← joined']⟩

end Alphabet

namespace Parser

variable {α : Type} {kind : Alphabet α}

theorem conserves_literal {start : List α} {p : Parser} (made : literal (kind.value start) = .ok p) :
    p.Conserves kind := by
  intro whole data left ends
  obtain ⟨-, expected, rfl⟩ := literal_eq_ok made
  obtain ⟨begins, rfl, cut⟩ := literalOr_success ends
  obtain ⟨behind, rfl⟩ := kind.begins_value whole start begins
  simp only [rest, kind.length_value, kind.drop_value, Option.getD_some, List.drop_left, Except.ok.injEq] at cut
  subst cut
  exact Alphabet.splits_piece rfl

theorem conserves_matching (p : Pattern) : (matching p).Conserves kind := by
  intro whole data rest ends
  obtain ⟨count, taken, dropped⟩ := matching_success ends
  rw [kind.take_value, Option.some.injEq] at taken
  rw [kind.drop_value, Option.some.injEq] at dropped
  subst taken dropped
  exact Alphabet.splits_piece (List.take_append_drop count whole)

theorem conserves_endOfInput : endOfInput.Conserves kind := by
  intro whole data rest ends
  cases empty : whole.isEmpty
  all_goals simp only [endOfInput, kind.isEmpty_value, empty, Run.pure_def] at ends
  all_goals cases ends
  exact Alphabet.splits_nothing whole

theorem conserves_firstOf (ps : List Parser) (conserve : ∀ p ∈ ps, p.Conserves kind) : (firstOf ps).Conserves kind := by
  intro whole data rest ends
  induction ps with
  | nil => cases ends
  | cons p ps ih =>
    obtain ⟨first, given, ends⟩ := Run.result_bind_eq_ok ends
    cases first with
    | success data' rest' =>
      cases ends
      exact conserve p (by simp) _ _ _ given
    | failure expected actual => exact ih (fun q member => conserve q (by simp [member])) ends

theorem splits_of_inSequence (ps : List Parser) (conserve : ∀ p ∈ ps, p.Conserves kind) (done : List Value)
    {whole : List α} {data rest : Value}
    (ends : (inSequence (fun data => .ok (.list data)) ps done (kind.value whole)).result = .ok (.success data rest)) :
    ∃ items, data = .list (done.reverse ++ items) ∧ kind.Splits whole (Value.leavesOf items) rest := by
  induction ps generalizing done whole with
  | nil =>
    cases ends
    exact ⟨[], by simp, Alphabet.splits_nothing whole⟩
  | cons p ps ih =>
    obtain ⟨first, given, ends⟩ := Run.result_bind_eq_ok ends
    cases first with
    | failure expected actual => cases ends
    | success item middle =>
      obtain ⟨pieces, behind, leaves, rfl, joined⟩ := conserve p (by simp) _ _ _ given
      obtain ⟨items, rfl, split⟩ := ih (fun q member => conserve q (by simp [member])) (item :: done) ends
      refine ⟨item :: items, by simp, ?_⟩
      rw [Value.leavesOf, leaves]
      exact split.behind joined

theorem conserves_collect (ps : List Parser) (conserve : ∀ p ∈ ps, p.Conserves kind) : (collect ps).Conserves kind := by
  intro whole data rest ends
  obtain ⟨items, rfl, split⟩ := splits_of_inSequence ps conserve [] ends
  exact split

theorem Conserves.label {p : Parser} (expected : Value) (conserves : p.Conserves kind) :
    (p.label expected).Conserves kind := by
  intro whole data rest ends
  obtain ⟨first, given, ends⟩ := Run.result_bind_eq_ok ends
  cases first <;> cases ends
  exact conserves _ _ _ given

theorem Conserves.rounds {p : Parser} (conserves : p.Conserves kind) {whole : List α} {events : List Event}
    {items : List Value} {rest : Value} (rounds : p.Rounds (kind.value whole) events items rest) :
    kind.Splits whole (Value.leavesOf items) rest ∧ ∀ item ∈ items, kind.Filled item := by
  generalize begun : kind.value whole = input at rounds
  induction rounds generalizing whole with
  | start input =>
    subst begun
    exact ⟨Alphabet.splits_nothing whole, by simp⟩
  | @round input item middle rest heard events items given shorter _ ih =>
    subst begun
    obtain ⟨pieces, behind, leaves, rfl, joined⟩ := conserves whole item middle (by rw [given])
    obtain ⟨split, filled⟩ := ih rfl
    refine ⟨?_, ?_⟩
    · rw [Value.leavesOf, leaves]
      exact split.behind joined
    · -- the round left less than it was given
      have some : pieces.flatten ≠ [] := by
        obtain ⟨size, size', measured, measured', less⟩ := shorter
        rw [kind.length_value, Option.some.injEq] at measured measured'
        rintro empty
        rw [empty, List.nil_append] at joined
        subst joined
        omega
      intro other member
      rcases List.mem_cons.mp member with rfl | member
      · exact ⟨pieces, leaves, some⟩
      · exact filled other member

theorem Conserves.many {p : Parser} (conserves : p.Conserves kind) : p.many.Conserves kind := by
  intro whole data rest ends
  obtain ⟨events, items, left, rounds, -, same⟩ := rounds_of_many (kind.length_value whole) ends
  cases same
  exact (conserves.rounds rounds).1

end Parser

theorem Arranging.conserves {α : Type} {kind : Alphabet α} {p : Parser} (arranging : Arranging kind p) :
    p.Conserves kind := by
  induction arranging with
  | literal start made => exact Parser.conserves_literal made
  | matching p => exact Parser.conserves_matching p
  | endOfInput => exact Parser.conserves_endOfInput
  | firstOf _ ih => exact Parser.conserves_firstOf _ ih
  | collect _ ih => exact Parser.conserves_collect _ ih
  | label expected _ ih => exact ih.label expected
  | many _ ih => exact ih.many

/-- What a parser that arranges pieces gives and leaves: the leaves of its data are pieces of the input, and joined in
order with the rest they are the whole input. An item of a repetition is never empty. -/
theorem Arranging.nothing_lost :
    (∀ p, Arranging .characters p → ∀ s data rest, (p (.text s)).result = .ok (.success data rest) →
      ∃ (pieces : List Text) (behind : Text), data.leaves = pieces.map .text ∧ rest = .text behind ∧
        pieces.flatten ++ behind = s) ∧
    (∀ p, Arranging .octets p → ∀ b data rest, (p (.bytes b)).result = .ok (.success data rest) →
      ∃ (pieces : List (List UInt8)) (behind : List UInt8), data.leaves = pieces.map .bytes ∧ rest = .bytes behind ∧
        pieces.flatten ++ behind = b) ∧
    (∀ (α : Type) (kind : Alphabet α) p, Arranging kind p → ∀ whole data rest,
      (p.many (kind.value whole)).result = .ok (.success data rest) →
      ∃ items, data = .list items ∧ ∀ item ∈ items, kind.Filled item) := by
  refine ⟨fun p arranging => arranging.conserves, fun p arranging => arranging.conserves, ?_⟩
  intro α kind p arranging whole data rest ends
  obtain ⟨events, items, left, rounds, -, same⟩ := Parser.rounds_of_many (kind.length_value whole) ends
  cases same
  exact ⟨items, rfl, (arranging.conserves.rounds rounds).2⟩

/-- A choice that comes back from its first alternative, and a repetition that ends because it takes nothing. -/
theorem letters_conserved :
    let word (start : Text) := Parser.literalOr (.text ('\'' :: (start ++ ['\'']))) (.text start)
    let first := Parser.firstOf [.collect [word ['a'], word ['b']], word ['a']]
    let item := Parser.firstOf [word ['x'], word []]
    let p := Parser.collect [first, .many item]
    let given := Value.list [.text ['a'], .list [.text ['x'], .text ['x']]]
    let byte := Parser.literalOr (.text ['\'', 'a', '\'']) (.bytes [97])
    Arranging .characters p ∧ (p (.text ['a', 'x', 'x', 'b'])).result = .ok (.success given (.text ['b'])) ∧
      (∃ (pieces : List Text) (behind : Text), given.leaves = pieces.map .text ∧ Value.text ['b'] = .text behind ∧
        pieces.flatten ++ behind = ['a', 'x', 'x', 'b']) ∧
      Arranging .octets byte ∧ (byte (.bytes [97, 98])).result = .ok (.success (.bytes [97]) (.bytes [98])) ∧
      (∃ (pieces : List (List UInt8)) (behind : List UInt8), (Value.bytes [97]).leaves = pieces.map .bytes ∧
        Value.bytes [98] = .bytes behind ∧ pieces.flatten ++ behind = [97, 98]) ∧
      (item.many (.text ['x', 'x', 'b'])).result = .ok (.success (.list [.text ['x'], .text ['x']]) (.text ['b'])) ∧
      ∃ items, Value.list [.text ['x'], .text ['x']] = .list items ∧
        ∀ item ∈ items, Alphabet.characters.Filled item := by
  intro word first item p given byte
  have literal (start : Text) : Arranging .characters (word start) :=
    .literal start (rfl : Parser.literal (.text start) = .ok (word start))
  have pair : Arranging .characters (.collect [word ['a'], word ['b']]) :=
    .collect (by simpa using ⟨literal ['a'], literal ['b']⟩)
  have choice : Arranging .characters first := .firstOf (by simpa using ⟨pair, literal ['a']⟩)
  have letter : Arranging .characters item := .firstOf (by simpa using ⟨literal ['x'], literal []⟩)
  have arranging : Arranging .characters p := .collect (by simpa using ⟨choice, .many letter⟩)
  have octet : Arranging .octets byte := .literal [97] (rfl : Parser.literal (.bytes [97]) = .ok byte)
  -- two rounds take a letter each, and the third takes the empty word
  have one : item (.text ['x', 'x', 'b']) = ⟨[], .ok (.success (.text ['x']) (.text ['x', 'b']))⟩ := rfl
  have two : item (.text ['x', 'b']) = ⟨[], .ok (.success (.text ['x']) (.text ['b']))⟩ := rfl
  have rounds : item.Rounds (.text ['x', 'x', 'b']) [] [.text ['x'], .text ['x']] (.text ['b']) :=
    .round one ⟨3, 2, rfl, rfl, by decide⟩ (.round two ⟨2, 1, rfl, rfl, by decide⟩ (.start _))
  have third : item (.text ['b']) = ⟨[], .ok (.success (.text []) (.text ['b']))⟩ := rfl
  have stops : item.Stops (.text ['b']) := by
    intro data next gives
    rw [third] at gives
    cases gives
    rintro ⟨size, size', measured, measured', less⟩
    cases measured
    cases measured'
    omega
  have repeated : item.many (.text ['x', 'x', 'b']) =
      ⟨[.record (Parser.zeroWidthRecord 2)], .ok (.success (.list [.text ['x'], .text ['x']]) (.text ['b']))⟩ := by
    rw [rounds.many_eq stops rfl, third]
    rfl
  have begun : first (.text ['a', 'x', 'x', 'b']) = ⟨[], .ok (.success (.text ['a']) (.text ['x', 'x', 'b']))⟩ := rfl
  have ends : (p (.text ['a', 'x', 'x', 'b'])).result = .ok (.success given (.text ['b'])) := by
    simp [p, given, Parser.collect, Parser.apply, Parser.inSequence, begun, repeated, Run.pure_def, Run.ofExcept,
      Run.precededBy]
  have listed : (item.many (.text ['x', 'x', 'b'])).result =
      .ok (.success (.list [.text ['x'], .text ['x']]) (.text ['b'])) := by rw [repeated]
  obtain ⟨texts, bytes, items⟩ := Arranging.nothing_lost
  exact ⟨arranging, ends, texts p arranging _ _ _ ends, octet, rfl, bytes byte octet _ _ _ rfl, listed,
    items Char .characters item letter _ _ _ listed⟩

end ParseKit
