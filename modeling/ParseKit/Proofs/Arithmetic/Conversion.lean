import ParseKit.Proofs.Arithmetic.Literal

/-!
Conversion: every literal denotes a number, except that one without a point may have too many digits.
-/

namespace ParseKit

namespace DecimalDigit

theorem valueFrom_lt {starts : List Nat} {code digit : Nat} (found : valueFrom starts code = some digit) :
    digit < 10 := by
  induction starts with
  | nil => cases found
  | cons start starts ih =>
    simp only [valueFrom] at found
    split at found
    · cases found
    · split at found
      · cases found
        omega
      · exact ih found

end DecimalDigit

namespace Arithmetic

def digitValue (c : Char) : Nat := (DecimalDigit.value? c.toNat).getD 0

/-- The ASCII digit with the value of a digit. -/
def asciiDigit (c : Char) : Char := Char.ofNat (48 + digitValue c)

theorem digitValue_lt {c : Char} (digit : isDigit c) : digitValue c < 10 := by
  obtain ⟨value, found⟩ := Option.isSome_iff_exists.mp digit
  have same : digitValue c = value := by simp [digitValue, found]
  rw [same]
  exact DecimalDigit.valueFrom_lt found

theorem isDigit_asciiDigit {c : Char} (digit : isDigit c) : (asciiDigit c).isDigit := by
  have ten : ∀ value < 10, (Char.ofNat (48 + value)).isDigit := by decide
  exact ten _ (digitValue_lt digit)

theorem toNat_asciiDigit {c : Char} (digit : isDigit c) : (asciiDigit c).toNat - 48 = digitValue c := by
  have ten : ∀ value < 10, (Char.ofNat (48 + value)).toNat - 48 = value := by decide
  exact ten _ (digitValue_lt digit)

theorem isDigit_map_asciiDigit {digits : Text} (inside : ∀ c ∈ digits, isDigit c) :
    ∀ c ∈ digits.map asciiDigit, c.isDigit := by
  intro c member
  obtain ⟨d, among, rfl⟩ := List.mem_map.mp member
  exact isDigit_asciiDigit (inside d among)

end Arithmetic

namespace Numeral

open Arithmetic (isDigit digitValue asciiDigit isDigit_asciiDigit isDigit_map_asciiDigit)

/-- What holds of the ten ASCII digits holds of every character that is one. -/
theorem of_isDigit (test : Char → Bool) (ten : ∀ code < 58, (Char.ofNat code).isDigit → test (Char.ofNat code))
    {c : Char} (digit : c.isDigit) : test c := by
  have most := digit
  simp only [Char.isDigit, Bool.and_eq_true, decide_eq_true_eq, UInt32.le_iff_toNat_le] at most
  have bound : c.toNat < 58 := Nat.lt_succ_of_le most.2
  rw [← Char.ofNat_toNat c] at digit ⊢
  exact ten c.toNat bound digit

theorem asciiDigit_of_ascii {c : Char} (digit : c.isDigit) : asciiDigit c = c ∧ isDigit c := by
  simpa using of_isDigit (fun c => asciiDigit c = c ∧ isDigit c) (by decide) digit

theorem toAscii_digit {c : Char} (s : Text) (digit : isDigit c) : toAscii (c :: s) = asciiDigit c :: toAscii s := by
  by_cases ascii : c.toNat < 127
  · have all : ∀ code < 127, DecimalDigit.holds code → (Char.ofNat code).isDigit := by decide
    have plain := all c.toNat ascii digit
    rw [Char.ofNat_toNat] at plain
    rw [(asciiDigit_of_ascii plain).1]
    simp [toAscii, ascii]
  · have apart : Blank.holds c.toNat = false := Arithmetic.not_isBlank_of_isDigit digit
    obtain ⟨value, found⟩ := Option.isSome_iff_exists.mp digit
    simp [toAscii, ascii, apart, found, asciiDigit, digitValue]

theorem toAscii_append {digits : Text} (behind : Text) (inside : ∀ c ∈ digits, isDigit c) :
    toAscii (digits ++ behind) = digits.map asciiDigit ++ toAscii behind := by
  induction digits with
  | nil => rfl
  | cons c digits ih =>
    have others := ih fun d member => inside d (by simp [member])
    rw [List.cons_append, toAscii_digit _ (inside c (by simp)), others, List.map_cons, List.cons_append]

theorem toAscii_digits {digits : Text} (inside : ∀ c ∈ digits, isDigit c) : toAscii digits = digits.map asciiDigit := by
  have same := toAscii_append [] inside
  rwa [List.append_nil, toAscii, List.append_nil] at same

theorem ungroup_digits {ascii : Text} (all : ∀ c ∈ ascii, c.isDigit) : ungroup ascii = some ascii := by
  have other : ∀ c ∈ ascii, c ≠ '_' := by
    rintro c member rfl
    exact absurd (all '_' member) (by decide)
  clear all
  induction ascii with
  | nil => rfl
  | cons c ascii ih =>
    have rest := ih fun d member => other d (by simp [member])
    have first := other c (by simp)
    unfold ungroup
    split <;> rename_i same <;> cases same
    · exact absurd rfl first
    · exact absurd rfl first
    · exact absurd rfl (other '_' (by simp))
    · exact absurd rfl (other '_' (by simp))
    · rw [rest, Option.map_some]

theorem not_isBlank_of_isDigit {c : Char} (digit : c.isDigit) : Numeral.isBlank c = false := by
  simpa using of_isDigit (fun c => !Numeral.isBlank c) (by decide) digit

theorem splitSign_digit {c : Char} (s : Text) (digit : c.isDigit) : splitSign (c :: s) = (false, c :: s) := by
  unfold splitSign
  split
  · rename_i same
    cases same
    cases digit
  · rename_i same
    cases same
    cases digit
  · rfl

theorem readInt_digits {digits : Text} (nonempty : digits ≠ []) (inside : ∀ c ∈ digits, isDigit c) :
    readInt digits =
      if digitLimit < digits.length then .error (.tooLong digits.length)
      else .ok (value (toAscii digits)) := by
  have all := isDigit_map_asciiDigit inside
  have size : (digits.map asciiDigit).length = digits.length := List.length_map _
  rw [toAscii_digits inside, readInt, toAscii_digits inside]
  generalize digits.map asciiDigit = ascii at all size
  obtain ⟨c, rest, rfl⟩ : ∃ c rest, ascii = c :: rest :=
    List.exists_cons_of_length_pos (by rw [size]; exact List.length_pos_iff.mpr nonempty)
  have digit := all c (by simp)
  have parts : ∀ d ∈ c :: rest, (d.isDigit || d = '_') := fun d member => by simp [all d member]
  have trimmed : (c :: rest).dropWhile isBlank = c :: rest := by simp [not_isBlank_of_isDigit digit]
  have taken : (c :: rest).takeWhile (fun d => d.isDigit || d = '_') = c :: rest := Text.takeWhile_all parts
  have dropped : (c :: rest).dropWhile (fun d => d.isDigit || d = '_') = [] := Text.dropWhile_all parts
  simp only [trimmed, splitSign_digit rest digit, taken, dropped, ungroup_digits all, size]
  simp [Binary64.signed]

theorem dropUnderscores_plain {s : Text} (plain : ∀ c ∈ s, c ≠ '_') (previous : Char) (other : previous ≠ '_') :
    dropUnderscores previous s = some s := by
  induction s generalizing previous with
  | nil => simp [dropUnderscores, other]
  | cons c s ih =>
    have first := plain c (by simp)
    simp [dropUnderscores, first, other, ih (fun d member => plain d (by simp [member])) c first]

theorem trim_of_none {test : Char → Bool} {s : Text} (none : ∀ c ∈ s, test c = false) : Text.trim test s = s := by
  have kept (s : Text) (none : ∀ c ∈ s, test c = false) : s.dropWhile test = s := by
    cases s with
    | nil => rfl
    | cons c s => simp [none c (by simp)]
  rw [Text.trim, kept s none, kept s.reverse fun c member => none c (List.mem_reverse.mp member), List.reverse_reverse]

theorem splitDecimal_point {whole fraction rest : Text} (nonempty : whole ≠ []) (inside : ∀ c ∈ whole, c.isDigit)
    (behind : ∀ c ∈ fraction, c.isDigit) (ends : ∀ c, rest.head? = some c → c.isDigit = false) :
    splitDecimal (whole ++ '.' :: (fraction ++ rest)) = some (whole, fraction, rest) := by
  have point : ∀ c, ('.' :: (fraction ++ rest)).head? = some c → c.isDigit = false := by
    rintro c ⟨⟩
    decide
  simp only [splitDecimal, Text.takeWhile_exact inside point, Text.dropWhile_exact inside point,
    Text.takeWhile_exact behind ends, Text.dropWhile_exact behind ends]
  simp [nonempty]

/-- A text that starts with a digit is no name, so that it is read by its parts. -/
theorem readMagnitude_digit {c : Char} {s whole fraction rest : Text} {exponent : Int} (negative : Bool) (digit : c.isDigit)
    (parts : splitDecimal (c :: s) = some (whole, fraction, rest)) (power : readExponent rest = some exponent) :
    readMagnitude negative (c :: s) =
      some (nearest negative (value (whole ++ fraction)) (whole ++ fraction).length (exponent - fraction.length)) := by
  have first : c.toLower ≠ 'i' ∧ c.toLower ≠ 'n' := by
    simpa using of_isDigit (fun c => c.toLower ≠ 'i' ∧ c.toLower ≠ 'n') (by decide) digit
  simp only [readMagnitude]
  rw [if_neg, if_neg, parts]
  · simp [power]
  · simp [Text.lowerAscii, first.2]
  · simp [Text.lowerAscii, first.1]

theorem readMagnitude_point {c : Char} {whole fraction : Text} (inside : ∀ d ∈ c :: whole, d.isDigit)
    (behind : ∀ d ∈ fraction, d.isDigit) : ∃ x, readMagnitude false (c :: whole ++ '.' :: fraction) = some x := by
  have ends : ∀ d, ([] : Text).head? = some d → d.isDigit = false := fun d first => nomatch first
  have parts := splitDecimal_point (List.cons_ne_nil c whole) inside behind ends
  rw [List.append_nil] at parts
  exact ⟨_, readMagnitude_digit false (inside c List.mem_cons_self) parts rfl⟩

theorem toAscii_point {digits fraction : Text} (inside : ∀ c ∈ digits, isDigit c) (behind : ∀ c ∈ fraction, isDigit c) :
    toAscii (digits ++ '.' :: fraction) = digits.map asciiDigit ++ '.' :: fraction.map asciiDigit := by
  have point : toAscii ('.' :: fraction) = '.' :: toAscii fraction := by simp [toAscii]
  rw [toAscii_append _ inside, point, toAscii_digits behind]

/-- The characters of a number without blanks and underscores. -/
def IsPart (c : Char) : Prop := c.isDigit ∨ c = '.' ∨ c = 'e' ∨ c = '+' ∨ c = '-'

theorem IsPart.plain {c : Char} (part : IsPart c) : c.toNat < 127 ∧ Numeral.isBlank c = false ∧ c ≠ '_' := by
  rcases part with digit | rfl | rfl | rfl | rfl
  · simpa using of_isDigit (fun c => c.toNat < 127 ∧ Numeral.isBlank c = false ∧ c ≠ '_') (by decide) digit
  all_goals decide

theorem toAscii_parts {s : Text} (parts : ∀ c ∈ s, IsPart c) : toAscii s = s := by
  induction s with
  | nil => rfl
  | cons c s ih =>
    have ascii := (parts c List.mem_cons_self).plain.1
    rw [toAscii, if_pos ascii, ih fun d member => parts d (List.mem_cons_of_mem c member)]

/-- Without blanks and underscores a number is read by its sign and its magnitude. -/
theorem readFloat_parts {s ascii : Text} (same : toAscii s = ascii) (parts : ∀ c ∈ ascii, IsPart c) :
    readFloat s = readMagnitude (splitSign ascii).1 (splitSign ascii).2 := by
  have unspaced : ∀ c ∈ ascii, Numeral.isBlank c = false := fun c member => (parts c member).plain.2.1
  have ungrouped : ∀ c ∈ ascii, c ≠ '_' := fun c member => (parts c member).plain.2.2
  rw [readFloat, same, trim_of_none unspaced, dropUnderscores_plain ungrouped ' ' (by decide)]
  rfl

theorem readFloat_point {digits fraction : Text} (nonempty : digits ≠ []) (inside : ∀ c ∈ digits, isDigit c)
    (behind : ∀ c ∈ fraction, isDigit c) : ∃ x, readFloat (digits ++ '.' :: fraction) = some x := by
  have all := isDigit_map_asciiDigit inside
  have all' := isDigit_map_asciiDigit behind
  have parts : ∀ c ∈ digits.map asciiDigit ++ '.' :: fraction.map asciiDigit, IsPart c := by
    intro c member
    rcases List.mem_append.mp member with member | member
    · exact .inl (all c member)
    · rcases List.mem_cons.mp member with rfl | member
      · exact .inr (.inl rfl)
      · exact .inl (all' c member)
  rw [readFloat_parts (toAscii_point inside behind) parts]
  obtain ⟨c, whole, rfl⟩ := List.exists_cons_of_ne_nil nonempty
  rw [List.map_cons, List.cons_append, splitSign_digit _ (isDigit_asciiDigit (inside c List.mem_cons_self))]
  exact readMagnitude_point all all'

end Numeral

namespace Arithmetic

theorem toNumber_whole {digits : Text} (nonempty : digits ≠ []) (inside : ∀ c ∈ digits, isDigit c) :
    Value.toNumber (.text digits) =
      if Numeral.digitLimit < digits.length then .error (.integerTooLong digits.length)
      else .ok (.int (Numeral.value (Numeral.toAscii digits))) := by
  have plain : digits.contains '.' = false := by
    rw [List.contains_eq_mem, decide_eq_false_iff_not]
    intro member
    exact absurd (inside '.' member) (by decide)
  simp only [Value.toNumber, plain, Value.toInteger, Value.integerOfText, Numeral.readInt_digits nonempty inside,
    Bool.false_eq_true, ite_false]
  by_cases long : Numeral.digitLimit < digits.length
  · simp only [if_pos long, Except.map]
  · simp only [if_neg long, Except.map]

theorem toNumber_point {digits fraction : Text} (nonempty : digits ≠ []) (inside : ∀ c ∈ digits, isDigit c)
    (behind : ∀ c ∈ fraction, isDigit c) :
    ∃ x, Value.toNumber (.text (digits ++ '.' :: fraction)) = .ok (.float x) := by
  obtain ⟨x, read⟩ := Numeral.readFloat_point nonempty inside behind
  exact ⟨x, by simp [Value.toNumber, read]⟩

/-- No run of digits in the text is longer than what is read as an integer. -/
def ShortRuns (s : Text) : Prop :=
  ∀ run, run <:+: s → (∀ c ∈ run, isDigit c) → run.length ≤ Numeral.digitLimit

theorem ShortRuns.within {s t : Text} (short : ShortRuns s) (part : t <:+: s) : ShortRuns t :=
  fun run inside => short run (inside.trans part)

theorem ShortRuns.of_length {s : Text} (few : s.length ≤ Numeral.digitLimit) : ShortRuns s :=
  fun _ inside _ => Nat.le_trans inside.length_le few

theorem IsLiteral.toNumber {literal : Text} (valid : IsLiteral literal) (short : ShortRuns literal) :
    ∃ number, Value.toNumber (.text literal) = .ok number := by
  cases valid with
  | whole nonempty inside =>
    have fits : ¬ Numeral.digitLimit < literal.length := Nat.not_lt.mpr (short literal (List.infix_refl _) inside)
    exact ⟨_, by rw [toNumber_whole nonempty inside, if_neg fits]⟩
  | point nonempty inside _ behind =>
    obtain ⟨x, read⟩ := toNumber_point nonempty inside behind
    exact ⟨_, read⟩

end Arithmetic

end ParseKit
