import ParseKit.Arithmetic
import ParseKit.Proofs.Pattern.Greedy

/-!
Literals: digits of any script, perhaps with a point and more digits. Main statements: the pattern of a
decimal takes the longest literal at the start of a text, and that of blanks the longest run of blanks.
-/

namespace ParseKit

theorem Ranges.exists_of_contains {ranges : Ranges} {code : Nat} (holds : ranges.contains code) :
    ∃ range ∈ ranges, range.1 ≤ code ∧ code ≤ range.2 := by
  induction ranges with
  | nil => simp [Ranges.contains] at holds
  | cons range ranges ih =>
    obtain ⟨first, last⟩ := range
    rw [Ranges.contains] at holds
    split at holds
    · exact ⟨(first, last), by simp, by simpa using holds, by assumption⟩
    · obtain ⟨range, member, bounds⟩ := ih holds
      exact ⟨range, by simp [member], bounds⟩

namespace Text

theorem takeWhile_exact {test : Char → Bool} {front behind : Text} (inside : ∀ c ∈ front, test c)
    (stops : ∀ c, behind.head? = some c → test c = false) : (front ++ behind).takeWhile test = front := by
  rw [List.takeWhile_append_of_pos inside]
  cases behind with
  | nil => simp
  | cons c behind => simp [stops c rfl]

theorem dropWhile_exact {test : Char → Bool} {front behind : Text} (inside : ∀ c ∈ front, test c)
    (stops : ∀ c, behind.head? = some c → test c = false) : (front ++ behind).dropWhile test = behind := by
  rw [List.dropWhile_append_of_pos inside]
  cases behind with
  | nil => rfl
  | cons c behind => simp [stops c rfl]

theorem takeWhile_all {test : Char → Bool} {s : Text} (inside : ∀ c ∈ s, test c) : s.takeWhile test = s := by
  have ends : ∀ c, ([] : Text).head? = some c → test c = false := fun c first => nomatch first
  have whole := takeWhile_exact inside ends
  rwa [List.append_nil] at whole

theorem dropWhile_all {test : Char → Bool} {s : Text} (inside : ∀ c ∈ s, test c) : s.dropWhile test = [] := by
  have ends : ∀ c, ([] : Text).head? = some c → test c = false := fun c first => nomatch first
  have whole := dropWhile_exact inside ends
  rwa [List.append_nil] at whole

theorem of_mem_takeWhile {test : Char → Bool} {s : Text} {c : Char} (member : c ∈ s.takeWhile test) : test c :=
  List.all_eq_true.mp List.all_takeWhile c member

end Text

namespace Arithmetic

def isDigit (c : Char) : Bool := DecimalDigit.holds c.toNat

def isBlank (c : Char) : Bool := Blank.holds c.toNat

theorem not_isDigit_of_isBlank {c : Char} (blank : isBlank c) : isDigit c = false := by
  have apart : ∀ range ∈ Blank.table, ∀ i < range.2 - range.1 + 1,
      DecimalDigit.holds (range.1 + i) = false := by decide
  obtain ⟨range, member, least, most⟩ := Ranges.exists_of_contains blank
  have same : range.1 + (c.toNat - range.1) = c.toNat := by omega
  rw [isDigit, ← same]
  exact apart range member _ (by omega)

theorem not_isBlank_of_isDigit {c : Char} (digit : isDigit c) : isBlank c = false := by
  cases blank : isBlank c with
  | false => rfl
  | true => rw [not_isDigit_of_isBlank blank] at digit; cases digit

/-- Digits, and perhaps a point and more digits. -/
inductive IsLiteral : Text → Prop where
  | whole {digits : Text} : digits ≠ [] → (∀ c ∈ digits, isDigit c) → IsLiteral digits
  | point {digits fraction : Text} : digits ≠ [] → (∀ c ∈ digits, isDigit c) → fraction ≠ [] →
      (∀ c ∈ fraction, isDigit c) → IsLiteral (digits ++ '.' :: fraction)

/-- The longest literal at the start of a text, and what stands behind it. -/
def readLiteral (s : Text) : Option (Text × Text) :=
  let digits := s.takeWhile isDigit
  if digits = [] then none
  else match s.dropWhile isDigit with
    | '.' :: behind =>
      let fraction := behind.takeWhile isDigit
      if fraction = [] then some (digits, '.' :: behind)
      else some (digits ++ '.' :: fraction, behind.dropWhile isDigit)
    | behind => some (digits, behind)

theorem readLiteral_sound {s literal behind : Text} (read : readLiteral s = some (literal, behind)) :
    IsLiteral literal ∧ s = literal ++ behind := by
  have whole := List.takeWhile_append_dropWhile (p := isDigit) (l := s)
  have digits : ∀ c ∈ s.takeWhile isDigit, isDigit c := fun c => Text.of_mem_takeWhile
  simp only [readLiteral] at read
  split at read
  · cases read
  · rename_i nonempty
    split at read
    · rename_i behind' ahead
      split at read
      · cases read
        exact ⟨.whole nonempty digits, by rw [← ahead, whole]⟩
      · rename_i fractional
        cases read
        have fraction := List.takeWhile_append_dropWhile (p := isDigit) (l := behind')
        refine ⟨.point nonempty digits fractional fun c => Text.of_mem_takeWhile, ?_⟩
        rw [List.append_assoc, List.cons_append, fraction, ← ahead, whole]
    · cases read
      exact ⟨.whole nonempty digits, whole.symm⟩

/-- A literal is read whole where neither a digit nor a point stands behind it. -/
theorem readLiteral_complete {literal behind : Text} (valid : IsLiteral literal)
    (stops : ∀ c, behind.head? = some c → isDigit c = false ∧ c ≠ '.') :
    readLiteral (literal ++ behind) = some (literal, behind) := by
  have ends : ∀ c, behind.head? = some c → isDigit c = false := fun c first => (stops c first).1
  cases valid with
  | whole nonempty digits =>
    simp only [readLiteral, Text.takeWhile_exact digits ends, Text.dropWhile_exact digits ends, if_neg nonempty]
    split
    · exact absurd rfl (stops '.' rfl).2
    · rfl
  | @point digits fraction nonempty inside fractional after =>
    have point : ∀ c, ('.' :: (fraction ++ behind)).head? = some c → isDigit c = false := by
      intro c first
      cases first
      decide
    rw [List.append_assoc, List.cons_append]
    simp only [readLiteral, Text.takeWhile_exact inside point, Text.dropWhile_exact inside point, if_neg nonempty,
      Text.takeWhile_exact after ends, Text.dropWhile_exact after ends, if_neg fractional]

section matching

open Pattern

theorem run_digits :
    Node.run Char.toNat { unicode := true } (.repetition .greedy 1 none digit) =
      greedyOne Char.toNat DecimalDigit.holds 1 none := by
  simp [Node.run, digit, Node.test?, Member.holds, Category.holds]

theorem run_point (cursor : Cursor Char) (next : Continuation Char) :
    Node.run Char.toNat { unicode := true } (.literal 46) cursor next =
      match cursor.after with
      | '.' :: after => next (cursor.step '.' after)
      | _ => none := by
  rcases ahead : cursor.after with _ | ⟨c, after⟩
  · simp [Node.run, one, ahead]
  · by_cases point : c = '.'
    · simp [Node.run, one, ahead, variants, point]
    · have other : c.toNat ≠ 46 := fun same => point (Char.toNat_inj.mp same)
      have missed : (if ([c.toNat].contains 46) = true then next (cursor.step c after) else none) = none := by
        simp [other.symm]
      simp only [Node.run, one, ahead]
      refine Eq.trans missed ?_
      split
      · rename_i same
        cases same
        exact absurd rfl point
      · rfl

theorem run_decimal (cursor : Cursor Char) (next : Continuation Char) :
    Node.run Char.toNat { unicode := true } decimalPattern.node cursor next =
      greedyOne Char.toNat DecimalDigit.holds 1 none cursor fun behind =>
        (Node.run Char.toNat { unicode := true } (.literal 46) behind fun start =>
          greedyOne Char.toNat DecimalDigit.holds 1 none start next).or (next behind) := by
  have digits := run_digits
  simp only [Node.run] at digits
  simp only [decimalPattern, Node.run, runItems, Node.test?, digits, repeated, exactly, Option.map_some,
    Nat.sub_zero, greedyMore_once]

/-- A point is taken only together with a digit behind it, and then with all of the digits there. -/
theorem run_fraction (cursor : Cursor Char) :
    ∃ final, (Node.run Char.toNat { unicode := true } (.literal 46) cursor fun start =>
        greedyOne Char.toNat DecimalDigit.holds 1 none start some).or (some cursor) = some final ∧
      final.offset = cursor.offset + match cursor.after with
        | '.' :: behind =>
          if behind.takeWhile isDigit = [] then 0 else (behind.takeWhile isDigit).length + 1
        | _ => 0 := by
  rw [run_point]
  split
  · rename_i behind ahead
    let start := cursor.step '.' behind
    have run : start.run Char.toNat DecimalDigit.holds = behind.takeWhile isDigit := rfl
    by_cases empty : behind.takeWhile isDigit = []
    · rw [greedyOne_of_few _ _ (by simp [start, run, empty]), if_pos empty]
      exact ⟨cursor, rfl, rfl⟩
    · have enough : 1 ≤ (start.run Char.toNat DecimalDigit.holds).length := List.length_pos_iff.mpr empty
      rw [greedyOne_of_fits _ _ enough rfl, if_neg empty]
      refine ⟨_, rfl, ?_⟩
      change cursor.offset + 1 + (start.run Char.toNat DecimalDigit.holds).length = _
      rw [run, Nat.add_assoc, Nat.add_comm 1]
  · exact ⟨cursor, rfl, rfl⟩

theorem decimal_matchText (s : Text) :
    decimalPattern.matchText s = (readLiteral s).map fun read => read.1.length := by
  let start : Cursor Char := { before := [], after := s, offset := 0, groups := [] }
  have run : start.run Char.toNat DecimalDigit.holds = s.takeWhile isDigit := rfl
  change (Node.run Char.toNat { unicode := true } decimalPattern.node start some).map (·.offset) = _
  rw [run_decimal]
  by_cases nonempty : s.takeWhile isDigit = []
  · rw [greedyOne_of_few _ _ (by simp [run, nonempty])]
    simp [readLiteral, nonempty]
  · let whole := start.skip Char.toNat DecimalDigit.holds
    have behind : whole.after = s.dropWhile isDigit := rfl
    have size : whole.offset = (s.takeWhile isDigit).length := Nat.zero_add _
    have enough : 1 ≤ (start.run Char.toNat DecimalDigit.holds).length := List.length_pos_iff.mpr nonempty
    obtain ⟨final, fits, total⟩ := run_fraction whole
    rw [greedyOne_of_fits _ _ enough fits, Option.map_some, total, size, behind]
    simp only [readLiteral, if_neg nonempty]
    split
    · split
      · simp
      · simp
    · simp

theorem spaces_matchText (s : Text) : spacesPattern.matchText s = some (s.takeWhile isBlank).length := by
  let start : Cursor Char := { before := [], after := s, offset := 0, groups := [] }
  have blanks : Node.run Char.toNat { unicode := true } spacesPattern.node =
      greedyOne Char.toNat Blank.holds 0 none := by
    simp [Node.run, spacesPattern, Node.test?, Member.holds, Category.holds]
  change (Node.run Char.toNat { unicode := true } spacesPattern.node start some).map (·.offset) = _
  rw [blanks, greedyOne_of_fits _ _ (Nat.zero_le _) rfl]
  simp only [Cursor.skip, Cursor.run, start, Option.map_some, Nat.zero_add]
  rfl

end matching

end Arithmetic

end ParseKit
