import ParseKit.Parser.Report
import ParseKit.Proofs.Spelling.Grammar

/-!
What a grammar does is independent of how texts are represented. Main statements: lists and tuples of characters are
parsed like texts, and so are their bytes in UTF-8, up to the report of a failure.
-/

namespace ParseKit

namespace Parser

theorem failureWording_text {expected : Value} {wanted : Text} (described : expected.describe = .ok wanted) (actual : Text) :
    failureWording expected (.text actual) =
      .ok ("Parse error. Expected ".toList ++ wanted ++ ". Instead found ".toList ++ actual ++ ['.']) := by
  rw [failureWording, described]
  rfl

theorem failureWording_encode (expected : Value) (actual : Text) :
    failureWording expected (.bytes (Utf8.encode actual)) = failureWording expected (.text actual) := by
  have rendered : (Value.bytes (Utf8.encode actual)).render = (Value.text actual).render := by
    simp [Value.render, Value.display]
  rw [failureWording, failureWording, rendered]

theorem label_unreported {n : Int} (long : ¬ Value.IsShort n) {p : Parser} {input expected : Value}
    (sequence : input.isSequence) (fails : (p input).result = .ok (.failure expected input)) :
    ((p.label (.int n)) input).result = .ok (.failure (.int n) input) ∧
      ((p.label (.int n)).parse input).result = .error .integerTextTooLong := by
  have given : ((p.label (.int n)) input).result = .ok (.failure (.int n) input) := Run.result_bind_of_ok fails rfl
  rw [parse_of_undescribed sequence given (Value.describe_of_long long)]
  exact ⟨given, rfl⟩

end Parser

namespace Grammar

/-- Written for lists or tuples of characters, a grammar does on these what it does on texts, with the same journal: it
succeeds with corresponding data and leaves the same characters, or it fails at the same character. -/
theorem agrees_on_items (g : Grammar) {wrap : List Value → Value} (either : wrap = .list ∨ wrap = .tuple) :
    ∃ p q, g.parser .text = .ok p ∧ g.parser (fun u => wrap u.characters) = .ok q ∧
      ∀ s : Text, (p (.text s)).events = (q (wrap s.characters)).events ∧
        ((∃ data data' rest, (p (.text s)).result = .ok (.success data (.text rest)) ∧
            (q (wrap s.characters)).result = .ok (.success data' (wrap rest.characters)) ∧
            g.Gives .text (fun u => wrap u.characters) data data') ∨
          ∃ expected expected' actual, (p (.text s)).result = .ok (.failure expected (.text actual)) ∧
            (q (wrap s.characters)).result = .ok (.failure expected' (wrap actual.characters))) := by
  obtain ⟨p, q, made, made', step⟩ := g.inStep .text (.items wrap either)
  refine ⟨p, q, made, made', fun s => ?_⟩
  have runs := step s
  simp only [Spelling.text, Spelling.items] at runs
  generalize p (.text s) = r, q (wrap s.characters) = r' at runs
  cases runs with
  | @success data data' rest events suffix given => exact ⟨rfl, .inl ⟨data, data', rest, rfl, rfl, given⟩⟩
  | @failure expected expected' rest => exact ⟨rfl, .inr ⟨expected, expected', rest, rfl, rfl⟩⟩

/-- An alternative that rewinds, and a repetition that ends because it takes nothing. -/
theorem letters_as_items :
    let g : Grammar := .collect [.firstOf [.collect [.literal ['a'], .literal ['b']], .literal ['a']],
      .many (.firstOf [.literal ['x'], .literal []])]
    let spell (u : Text) : Value := .list u.characters
    let input : Text := ['a', 'x', 'x', 'b']
    let data := Value.list [.text ['a'], .list [.text ['x'], .text ['x']]]
    (Value.list = .list ∨ Value.list = .tuple) ∧
      ∃ p q, g.parser .text = .ok p ∧ g.parser spell = .ok q ∧
        p (.text input) = ⟨[.record (Parser.zeroWidthRecord 2)], .ok (.success data (.text ['b']))⟩ ∧
        (q (spell input)).events = [.record (Parser.zeroWidthRecord 2)] ∧
        ∃ data', (q (spell input)).result = .ok (.success data' (spell ['b'])) ∧ g.Gives .text spell data data' := by
  intro g spell input data
  obtain ⟨p, q, made, made', agrees⟩ := g.agrees_on_items (.inl rfl : Value.list = .list ∨ Value.list = .tuple)
  obtain ⟨journal, outcomes⟩ := agrees input
  let word (start : Text) := Parser.literalOr (.text ('\'' :: (start ++ ['\'']))) (.text start)
  let first := Parser.firstOf [.collect [word ['a'], word ['b']], word ['a']]
  let item := Parser.firstOf [word ['x'], word []]
  have built : g.parser .text = .ok (.collect [first, item.many]) := rfl
  rw [made, Except.ok.injEq] at built
  subst built
  have begun : first (.text input) = ⟨[], .ok (.success (.text ['a']) (.text ['x', 'x', 'b']))⟩ := rfl
  have one : item (.text ['x', 'x', 'b']) = ⟨[], .ok (.success (.text ['x']) (.text ['x', 'b']))⟩ := rfl
  have two : item (.text ['x', 'b']) = ⟨[], .ok (.success (.text ['x']) (.text ['b']))⟩ := rfl
  have three : item (.text ['b']) = ⟨[], .ok (.success (.text []) (.text ['b']))⟩ := rfl
  have rounds : item.Rounds (.text ['x', 'x', 'b']) [] [.text ['x'], .text ['x']] (.text ['b']) :=
    .round one ⟨3, 2, rfl, rfl, by decide⟩ (.round two ⟨2, 1, rfl, rfl, by decide⟩ (.start _))
  have stops : item.Stops (.text ['b']) := by
    intro data next gives shorter
    cases gives
    exact absurd ((Value.shorter_iff rfl rfl).mp shorter) (by decide)
  have repeated : item.many (.text ['x', 'x', 'b']) =
      ⟨[.record (Parser.zeroWidthRecord 2)], .ok (.success (.list [.text ['x'], .text ['x']]) (.text ['b']))⟩ := by
    rw [rounds.many_eq stops rfl, three]
    rfl
  have taken : Parser.collect [first, item.many] (.text input) =
      ⟨[.record (Parser.zeroWidthRecord 2)], .ok (.success data (.text ['b']))⟩ := by
    simp [data, Parser.collect, Parser.apply, Parser.inSequence, begun, repeated, Run.pure_def, Run.ofExcept,
      Run.precededBy]
  refine ⟨.inl rfl, _, q, made, made', taken, by rw [← journal, taken], ?_⟩
  rcases outcomes with ⟨_, data', rest, gives, gives', related⟩ | ⟨_, _, _, fails, -⟩
  · rw [taken] at gives
    cases gives
    exact ⟨data', gives', related⟩
  · rw [taken] at fails
    cases fails

/-- Written for bytes, a grammar does on encoded texts what it does on texts, with the same journal: it succeeds with
corresponding data and leaves the same end of the text, or it fails at the same character with the same expectation. Both
failures are reported in the same words, if the expectation has words: it does if no integer in it is too long to be
written. Otherwise both reports end in the fault about that integer. -/
theorem agrees_on_bytes (g : Grammar) :
    ∃ p q, g.parser .text = .ok p ∧ g.parser (fun u => .bytes (Utf8.encode u)) = .ok q ∧
      ∀ s : Text, (p (.text s)).events = (q (.bytes (Utf8.encode s))).events ∧
        ((∃ data data' rest, (p (.text s)).result = .ok (.success data (.text rest)) ∧
            (q (.bytes (Utf8.encode s))).result = .ok (.success data' (.bytes (Utf8.encode rest))) ∧
            g.Gives .text (fun u => .bytes (Utf8.encode u)) data data') ∨
          ∃ expected actual, (p (.text s)).result = .ok (.failure expected (.text actual)) ∧
            (q (.bytes (Utf8.encode s))).result = .ok (.failure expected (.bytes (Utf8.encode actual))) ∧
            (∀ wanted, expected.describe = .ok wanted →
              let record : LogRecord :=
                ⟨"pcomb.parsing.driver".toList, Level.debug, "Parse failed; expected ".toList ++ wanted⟩
              let wording := "Parse error. Expected ".toList ++ wanted ++ ". Instead found ".toList ++ actual ++ ['.']
              p.parse (.text s) =
                ⟨(p (.text s)).events ++ [.record record], .error (.unparsed expected (.text actual) wording)⟩ ∧
              q.parse (.bytes (Utf8.encode s)) =
                ⟨(p (.text s)).events ++ [.record record],
                  .error (.unparsed expected (.bytes (Utf8.encode actual)) wording)⟩) ∧
            (∀ fault, expected.describe = .error fault →
              p.parse (.text s) = ⟨(p (.text s)).events, .error fault⟩ ∧
              q.parse (.bytes (Utf8.encode s)) = ⟨(p (.text s)).events, .error fault⟩) ∧
            ((∀ n ∈ expected.integers, Value.IsShort n) → ∃ wanted, expected.describe = .ok wanted)) := by
  obtain ⟨p, q, made, made', step⟩ := g.inStep .text .utf8
  refine ⟨p, q, made, made', fun s => ?_⟩
  have runs := step s
  simp only [Spelling.text, Spelling.utf8] at runs
  generalize taken : p (.text s) = r, taken' : q (.bytes (Utf8.encode s)) = r' at runs
  cases runs with
  | @success data data' rest events suffix given => exact ⟨rfl, .inl ⟨data, data', rest, rfl, rfl, given⟩⟩
  | @failure expected expected' actual events suffix same =>
    have wording : Spelling.text.SameWording .utf8 := fun u => by simp [Spelling.text, Spelling.utf8, Value.render, Value.display]
    obtain rfl := same wording
    have fails : (p (.text s)).result = .ok (.failure expected (.text actual)) := by rw [taken]
    have fails' : (q (.bytes (Utf8.encode s))).result = .ok (.failure expected (.bytes (Utf8.encode actual))) := by
      rw [taken']
    refine ⟨rfl, .inr ⟨expected, actual, rfl, rfl, fun wanted described => ?_, fun fault undescribed => ?_,
      Value.exists_describe expected⟩⟩
    · have worded := Parser.failureWording_text described actual
      have worded' := (Parser.failureWording_encode expected actual).trans worded
      refine ⟨?_, ?_⟩
      · rw [Parser.parse_of_failure rfl fails described worded, taken]
        rfl
      · rw [Parser.parse_of_failure rfl fails' described worded', taken']
        rfl
    · refine ⟨?_, ?_⟩
      · rw [Parser.parse_of_undescribed rfl fails undescribed, taken]
      · rw [Parser.parse_of_undescribed rfl fails' undescribed, taken']

/-- A label with an integer that is too long to be written: neither report says that the input does not parse. -/
theorem long_label_unreported :
    let n : Nat := Nat.pow 10 Numeral.digitLimit
    let g : Grammar := .label (.literal ['a']) (.int n)
    let input : Text := ['b']
    ∃ p q, g.parser .text = .ok p ∧ g.parser (fun u => .bytes (Utf8.encode u)) = .ok q ∧
      (p (.text input)).result = .ok (.failure (.int n) (.text input)) ∧
      (p.parse (.text input)).result = .error .integerTextTooLong ∧
      (q.parse (.bytes (Utf8.encode input))).result = .error .integerTextTooLong ∧
      ∀ expected actual wording, (p.parse (.text input)).result ≠ .error (.unparsed expected actual wording) := by
  let quoted : Value := .text ['\'', 'a', '\'']
  let p := Parser.literalOr quoted (.text ['a'])
  let q := Parser.literalOr quoted (.bytes (Utf8.encode ['a']))
  have long := Value.not_isShort (Nat.le_refl (Nat.pow 10 Numeral.digitLimit))
  obtain ⟨fails, reported⟩ := Parser.label_unreported long rfl (rfl : (p (.text ['b'])).result = _)
  obtain ⟨-, reported'⟩ := Parser.label_unreported long rfl (rfl : (q (.bytes (Utf8.encode ['b']))).result = _)
  refine ⟨_, _, rfl, rfl, fails, reported, reported', fun expected actual wording ends => ?_⟩
  cases reported.symm.trans ends

end Grammar

end ParseKit
