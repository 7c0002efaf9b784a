import ParseKit.Value.Display

/-!
Wording: which values have a text. Main statements: a value can be written, described as an expectation and
rendered as an input if none of the integers inside it has too many digits.
-/

namespace ParseKit

namespace Value

mutual

def integers : Value → List Int
  | .int n => [n]
  | .list items | .tuple items => integersOf items
  | .dict entries => integersOfEntries entries
  | _ => []

def integersOf : List Value → List Int
  | [] => []
  | item :: items => integers item ++ integersOf items

def integersOfEntries : List (Value × Value) → List Int
  | [] => []
  | (key, value) :: entries => integers key ++ integers value ++ integersOfEntries entries

end

/-- An integer of at most as many decimal digits as are ever written. -/
def IsShort (n : Int) : Prop := (Text.ofNat n.natAbs).length ≤ Numeral.digitLimit

theorem length_le_iff {k limit : Nat} (positive : 0 < limit) :
    (Text.ofNat k).length ≤ limit ↔ k < Nat.pow 10 limit :=
  Nat.length_toDigits_le_iff (by decide) positive

theorem isShort_iff {n : Int} : IsShort n ↔ n.natAbs < Nat.pow 10 Numeral.digitLimit := length_le_iff (by decide)

theorem not_isShort {n : Nat} (long : Nat.pow 10 Numeral.digitLimit ≤ n) : ¬ IsShort n :=
  fun short => Nat.not_lt.mpr long (isShort_iff.mp short)

theorem ofInt?_of_short {n : Int} (short : IsShort n) : Numeral.ofInt? n = some (Text.ofInt n) := by
  unfold Numeral.ofInt?
  exact if_pos (isShort_iff.mp short)

theorem ofInt?_of_long {n : Int} (long : ¬ IsShort n) : Numeral.ofInt? n = Option.none := by
  unfold Numeral.ofInt?
  exact if_neg fun below => long (isShort_iff.mpr below)

theorem writeInt_of_short {n : Int} (short : IsShort n) : writeInt n = .ok (Text.ofInt n) := by
  unfold writeInt
  rw [ofInt?_of_short short]

mutual

theorem exists_write (v : Value) (short : ∀ n ∈ v.integers, IsShort n) : ∃ t, v.write = .ok t := by
  cases v with
  | int n =>
    simp only [write]
    exact ⟨_, writeInt_of_short (short n (by simp [integers]))⟩
  | list items =>
    obtain ⟨pieces, written⟩ := exists_writeItems items short
    exact ⟨_, by rw [write, written]; rfl⟩
  | tuple items =>
    obtain ⟨pieces, written⟩ := exists_writeItems items short
    rw [write, written]
    rcases pieces with _ | ⟨piece, _ | ⟨other, pieces⟩⟩
    · exact ⟨_, rfl⟩
    · exact ⟨_, rfl⟩
    · exact ⟨_, rfl⟩
  | dict entries =>
    obtain ⟨pieces, written⟩ := exists_writeEntries entries short
    exact ⟨_, by rw [write, written]; rfl⟩
  | none | bool | float | text | bytes | bytearray | pattern | operator => exact ⟨_, rfl⟩

theorem exists_writeItems (items : List Value) (short : ∀ n ∈ integersOf items, IsShort n) :
    ∃ pieces, writeItems items = .ok pieces := by
  cases items with
  | nil => exact ⟨[], rfl⟩
  | cons item items =>
    simp only [integersOf, List.mem_append] at short
    obtain ⟨first, written⟩ := exists_write item fun n member => short n (.inl member)
    obtain ⟨others, written'⟩ := exists_writeItems items fun n member => short n (.inr member)
    exact ⟨first :: others, by rw [writeItems, written, written']; rfl⟩

theorem exists_writeEntries (entries : List (Value × Value)) (short : ∀ n ∈ integersOfEntries entries, IsShort n) :
    ∃ pieces, writeEntries entries = .ok pieces := by
  match entries with
  | [] => exact ⟨[], rfl⟩
  | (key, value) :: entries =>
    simp only [integersOfEntries, List.mem_append] at short
    obtain ⟨left, written⟩ := exists_write key fun n member => short n (.inl (.inl member))
    obtain ⟨right, written'⟩ := exists_write value fun n member => short n (.inl (.inr member))
    obtain ⟨others, written''⟩ := exists_writeEntries entries fun n member => short n (.inr member)
    exact ⟨_, by rw [writeEntries, written, written', written'']; rfl⟩

end

theorem exists_display (v : Value) (short : ∀ n ∈ v.integers, IsShort n) : ∃ t, v.display = .ok t := by
  cases v with
  | text s => exact ⟨s, rfl⟩
  | _ => simpa only [display] using exists_write _ short

mutual

theorem exists_describe (v : Value) (short : ∀ n ∈ v.integers, IsShort n) : ∃ t, v.describe = .ok t := by
  cases v with
  | text s => exact ⟨s, rfl⟩
  | pattern p => exact ⟨_, rfl⟩
  | list items | tuple items =>
    obtain ⟨pieces, described⟩ := exists_describeItems items short
    exact ⟨_, by rw [describe, described]; rfl⟩
  | _ => simpa only [describe] using exists_display _ short

theorem exists_describeItems (items : List Value) (short : ∀ n ∈ integersOf items, IsShort n) :
    ∃ pieces, describeItems items = .ok pieces := by
  cases items with
  | nil => exact ⟨[], rfl⟩
  | cons item items =>
    simp only [integersOf, List.mem_append] at short
    obtain ⟨first, described⟩ := exists_describe item fun n member => short n (.inl member)
    obtain ⟨others, described'⟩ := exists_describeItems items fun n member => short n (.inr member)
    exact ⟨first :: others, by rw [describeItems, described, described']; rfl⟩

end

section long

theorem writeInt_of_long {n : Int} (long : ¬ IsShort n) : writeInt n = .error .integerTextTooLong := by
  unfold writeInt
  rw [ofInt?_of_long long]

mutual

/-- The only fault of writing: what stands in front of the first integer that is too long can be written. -/
theorem write_of_long (v : Value) (long : ∃ n ∈ v.integers, ¬ IsShort n) : v.write = .error .integerTextTooLong := by
  cases v with
  | int n =>
    obtain ⟨m, member, long⟩ := long
    cases List.mem_singleton.mp member
    simp only [write]
    exact writeInt_of_long long
  | list items | tuple items => rw [write, writeItems_of_long items long]; rfl
  | dict entries => rw [write, writeEntries_of_long entries long]; rfl
  | none | bool | float | text | bytes | bytearray | pattern | operator =>
    obtain ⟨n, member, -⟩ := long
    cases member

theorem writeItems_of_long (items : List Value) (long : ∃ n ∈ integersOf items, ¬ IsShort n) :
    writeItems items = .error .integerTextTooLong := by
  cases items with
  | nil =>
    obtain ⟨n, member, -⟩ := long
    cases member
  | cons item items =>
    by_cases first : ∀ n ∈ item.integers, IsShort n
    · obtain ⟨text, written⟩ := exists_write item first
      have others : ∃ n ∈ integersOf items, ¬ IsShort n := by
        obtain ⟨n, member, long⟩ := long
        rcases List.mem_append.mp member with member | member
        · exact absurd (first n member) long
        · exact ⟨n, member, long⟩
      rw [writeItems, written, writeItems_of_long items others]
      rfl
    · rw [writeItems, write_of_long item (by simpa using first)]
      rfl

theorem writeEntries_of_long (entries : List (Value × Value)) (long : ∃ n ∈ integersOfEntries entries, ¬ IsShort n) :
    writeEntries entries = .error .integerTextTooLong := by
  match entries with
  | [] =>
    obtain ⟨n, member, -⟩ := long
    cases member
  | (key, value) :: entries =>
    by_cases first : ∀ n ∈ key.integers, IsShort n
    · obtain ⟨left, written⟩ := exists_write key first
      by_cases second : ∀ n ∈ value.integers, IsShort n
      · obtain ⟨right, written'⟩ := exists_write value second
        have others : ∃ n ∈ integersOfEntries entries, ¬ IsShort n := by
          obtain ⟨n, member, long⟩ := long
          simp only [integersOfEntries, List.mem_append] at member
          rcases member with (member | member) | member
          · exact absurd (first n member) long
          · exact absurd (second n member) long
          · exact ⟨n, member, long⟩
        rw [writeEntries, written, written', writeEntries_of_long entries others]
        rfl
      · rw [writeEntries, written, write_of_long value (by simpa using second)]
        rfl
    · rw [writeEntries, write_of_long key (by simpa using first)]
      rfl

end

theorem describe_of_long {n : Int} (long : ¬ IsShort n) : (Value.int n).describe = .error .integerTextTooLong := by
  simp only [describe, display, write]
  exact writeInt_of_long long

end long

theorem exists_render (v : Value) (short : ∀ n ∈ v.integers, IsShort n) : ∃ t, v.render = .ok t := by
  cases v with
  | bytes b => exact ⟨_, rfl⟩
  | _ => simpa only [render] using exists_display _ short

theorem render_of_long (v : Value) (long : ∃ n ∈ v.integers, ¬ IsShort n) : v.render = .error .integerTextTooLong := by
  cases v with
  | text | bytes =>
    obtain ⟨n, member, -⟩ := long
    cases member
  | _ => simpa only [render, display] using write_of_long _ long

end Value

end ParseKit
