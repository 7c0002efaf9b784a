import ParseKit.Proofs.Arithmetic.Language

/-!
Longest beginnings: what reading takes from the start of a text is the longest that stands there. Main statement: this
holds of chains, although they are read token by token and nothing that was taken is ever given back.
-/

namespace ParseKit

namespace Text

/-- The longest beginning of a text that belongs to a language. -/
structure LongestPrefix (language : Text → Prop) (front s : Text) : Prop where
  belongs : language front
  begins : front <+: s
  most : ∀ t, t <+: s → language t → t <+: front

theorem LongestPrefix.unique {language : Text → Prop} {front front' s : Text} (first : LongestPrefix language front s)
    (second : LongestPrefix language front' s) : front = front' :=
  (second.most front first.begins first.belongs).eq_of_length_le (first.most front' second.begins second.belongs).length_le

end Text

namespace Arithmetic

open Text (LongestPrefix)

theorem longest_blanks (s : Text) : LongestPrefix Blanks (s.takeWhile isBlank) s where
  belongs := blanks_takeWhile s
  begins := List.takeWhile_prefix isBlank
  most := by
    rintro t ⟨u, rfl⟩ blank
    rw [List.takeWhile_append_of_pos blank]
    exact List.prefix_append t _

theorem IsLiteral.exists_read {literal : Text} (valid : IsLiteral literal) (behind : Text) :
    ∃ more after, readLiteral (literal ++ behind) = some (literal ++ more, after) ∧ behind = more ++ after := by
  have split := List.takeWhile_append_dropWhile (p := isDigit) (l := behind)
  cases valid with
  | whole nonempty digits =>
    have nonempty' : literal ++ behind.takeWhile isDigit ≠ [] := by simp [nonempty]
    simp only [readLiteral, List.takeWhile_append_of_pos digits, List.dropWhile_append_of_pos digits, if_neg nonempty']
    split
    · rename_i fraction ahead
      split
      · exact ⟨behind.takeWhile isDigit, '.' :: fraction, rfl, by rw [← ahead, split]⟩
      · refine ⟨behind.takeWhile isDigit ++ '.' :: fraction.takeWhile isDigit, fraction.dropWhile isDigit, by simp, ?_⟩
        rw [List.append_assoc, List.cons_append, List.takeWhile_append_dropWhile, ← ahead, split]
    · exact ⟨behind.takeWhile isDigit, behind.dropWhile isDigit, rfl, split.symm⟩
  | @point digits fraction nonempty inside fractional after =>
    have point : ∀ c, ('.' :: (fraction ++ behind)).head? = some c → isDigit c = false := by
      rintro c ⟨⟩
      decide
    have fractional' : fraction ++ behind.takeWhile isDigit ≠ [] := by simp [fractional]
    refine ⟨behind.takeWhile isDigit, behind.dropWhile isDigit, ?_, split.symm⟩
    rw [List.append_assoc, List.cons_append]
    simp only [readLiteral, Text.takeWhile_exact inside point, Text.dropWhile_exact inside point, if_neg nonempty,
      List.takeWhile_append_of_pos after, List.dropWhile_append_of_pos after, if_neg fractional']
    simp

theorem longest_literal {s literal behind : Text} (read : readLiteral s = some (literal, behind)) :
    LongestPrefix IsLiteral literal s where
  belongs := (readLiteral_sound read).1
  begins := ⟨behind, (readLiteral_sound read).2.symm⟩
  most := by
    rintro t ⟨u, rfl⟩ valid
    obtain ⟨more, after, read', -⟩ := valid.exists_read u
    rw [read] at read'
    cases read'
    exact List.prefix_append t more

theorem no_literal {s : Text} (read : readLiteral s = none) (t : Text) (begins : t <+: s) : ¬ IsLiteral t := by
  intro valid
  obtain ⟨u, rfl⟩ := begins
  obtain ⟨more, after, read', -⟩ := valid.exists_read u
  rw [read] at read'
  cases read'

theorem not_isDigit_of_unread {s : Text} (read : readLiteral s = none) (c : Char) (first : s.head? = some c) :
    isDigit c = false := by
  cases digit : isDigit c with
  | false => rfl
  | true =>
    obtain ⟨rest, rfl⟩ := List.head?_eq_some_iff.mp first
    have valid : IsLiteral [c] := .whole (by simp) (by simp [digit])
    exact absurd valid (no_literal read [c] ⟨rest, rfl⟩)

theorem readSteps_suffix (s : Text) : (readSteps s).2 <:+ s := by
  obtain ⟨written, -, split⟩ := readSteps_sound (s := s) rfl
  exact ⟨written, split.symm⟩

section reaching

variable {literal behind rest : Text} {steps : List (Operator × Text)}

/-- Where steps with more text behind them are read at least to their end, so are a literal and such steps. -/
theorem reads_operand (valid : IsLiteral literal) (blank : Blanks behind) (spelled : StepsSpell steps rest)
    (reaches : ∀ u, (readSteps (rest ++ u)).2 <:+ u) (u : Text) :
    ∃ found after, readLiteral (literal ++ (behind ++ (rest ++ u))) = some (found, after) ∧
      (readSteps (after.dropWhile isBlank)).2 <:+ u := by
  by_cases last : behind ++ rest = []
  · -- nothing is written behind the literal, so its reading may go on into what follows
    obtain ⟨rfl, rfl⟩ := List.append_eq_nil_iff.mp last
    obtain ⟨more, after, read, rfl⟩ := valid.exists_read u
    refine ⟨_, after, read, (readSteps_suffix _).trans ?_⟩
    exact (List.dropWhile_suffix isBlank).trans (List.suffix_append more after)
  · have stops : ∀ c, (behind ++ (rest ++ u)).head? = some c → isDigit c = false ∧ c ≠ '.' := by
      intro c first
      rw [← List.append_assoc, List.head?_append_of_ne_nil _ last] at first
      exact spelled.stops blank c first
    refine ⟨literal, _, readLiteral_complete valid stops, ?_⟩
    rw [List.dropWhile_append_of_pos blank]
    cases spelled with
    | nil => exact (readSteps_suffix _).trans (List.dropWhile_suffix isBlank)
    | cons =>
      rw [List.cons_append, List.dropWhile_cons_of_neg (by simp [(signOf_apart _).2.1])]
      exact reaches u

theorem readSteps_reaches {t : Text} (spelled : StepsSpell steps t) (u : Text) : (readSteps (t ++ u)).2 <:+ u := by
  induction spelled generalizing u with
  | nil => exact readSteps_suffix u
  | @cons f literal before behind rest steps blank valid blank' spelled ih =>
    obtain ⟨found, after, inside, reached⟩ := reads_operand valid blank' spelled ih u
    have read : readStep (signOf f :: (before ++ (literal ++ (behind ++ (rest ++ u))))) =
        some ((f, found), after.dropWhile isBlank) := by
      refine readStep_eq_some.mpr ⟨_, after, rfl, ?_, rfl⟩
      rw [valid.dropWhile_blanks blank, inside]
    simp only [List.cons_append, List.append_assoc]
    rw [readSteps_some read]
    exact reached

end reaching

def IsChain (t : Text) : Prop := ∃ c : Chain, c.Spells t

theorem IsChain.exists_read {t : Text} (chain : IsChain t) (u : Text) :
    ∃ c rest, readChain (t ++ u) = some (c, rest) ∧ rest <:+ u := by
  obtain ⟨c, ⟨blank, valid, blank', spelled⟩⟩ := chain
  obtain ⟨found, after, inside, reached⟩ := reads_operand valid blank' spelled (readSteps_reaches spelled) u
  refine ⟨⟨found, (readSteps (after.dropWhile isBlank)).1⟩, _, ?_, reached⟩
  simp only [List.append_assoc, readChain, valid.dropWhile_blanks blank, inside]
  rfl

theorem longest_chain {s rest : Text} {c : Chain} (read : readChain s = some (c, rest)) :
    ∃ written, c.Spells written ∧ s = written ++ rest ∧ LongestPrefix IsChain written s := by
  obtain ⟨written, spelled, split⟩ := readChain_sound read
  refine ⟨written, spelled, split, ⟨c, spelled⟩, ⟨rest, split.symm⟩, ?_⟩
  rintro t ⟨u, rfl⟩ chain
  obtain ⟨c', rest', read', ⟨front, rfl⟩⟩ := chain.exists_read u
  rw [read] at read'
  cases read'
  rw [← List.append_assoc] at split
  rw [← List.append_cancel_right split]
  exact List.prefix_append t front

theorem no_chain {s : Text} (read : readChain s = none) (t : Text) (begins : t <+: s) : ¬ IsChain t := by
  intro chain
  obtain ⟨u, rfl⟩ := begins
  obtain ⟨c, rest, read', -⟩ := chain.exists_read u
  rw [read] at read'
  cases read'

end Arithmetic

end ParseKit
