import ParseKit.Proofs.Totality
import ParseKit.Proofs.Value.Equality
import ParseKit.Value.Conversion

/-!
Prefixes: what a literal takes. Main statement: a literal takes itself from every sequence of its kind whose first elements
are the same as its own, and fails with its quoted text on every other one.
-/

namespace ParseKit

namespace Value

/-- The kinds of sequences that equality tells apart. -/
inductive Kind where
  | text
  | octets
  | list
  | tuple

def kind? : Value → Option Kind
  | .text _ => some .text
  | .bytes _ | .bytearray _ => some .octets
  | .list _ => some .list
  | .tuple _ => some .tuple
  | _ => Option.none

/-- A sequence has another one of its kind in front: it is at least as long, and its first elements are the same. -/
def StartsWith (input start : Value) : Prop :=
  input.kind? = start.kind? ∧ ∃ items others, input.elements = .ok items ∧ start.elements = .ok others ∧
    others.length ≤ items.length ∧ List.Forall₂ Same (items.take others.length) others

theorem exists_elements {input : Value} (sequence : input.isSequence) :
    ∃ items, input.elements = .ok items ∧ input.length? = some items.length := by
  cases input with
  | text | bytes | bytearray => exact ⟨_, rfl, by simp [length?]⟩
  | list | tuple => exact ⟨_, rfl, rfl⟩
  | _ => cases sequence

theorem elements_take {input front : Value} {items : List Value} {count : Nat} (given : input.elements = .ok items)
    (taken : input.take? count = some front) : front.elements = .ok (items.take count) ∧ front.kind? = input.kind? := by
  cases input with
  | text | bytes | bytearray =>
    cases given
    cases taken
    exact ⟨by rw [elements, List.map_take], rfl⟩
  | list | tuple =>
    cases given
    cases taken
    exact ⟨rfl, rfl⟩
  | _ => cases taken

theorem forall₂_map_same {α : Type} {f : α → Value} (apart : ∀ x y, (f x).Same (f y) ↔ x = y) (xs ys : List α) :
    List.Forall₂ Same (xs.map f) (ys.map f) ↔ xs = ys := by
  rw [List.forall₂_map_left_iff, List.forall₂_map_right_iff]
  simp only [apart, List.forall₂_eq_eq_eq]

theorem same_characters (s t : Text) :
    List.Forall₂ Same (s.map fun c => .text [c]) (t.map fun c => .text [c]) ↔ s = t := by
  refine forall₂_map_same (fun c d => ?_) s t
  rw [same_iff_atom rfl]
  simp [eq_comm]

theorem same_bytes (a b : List UInt8) :
    List.Forall₂ Same (a.map fun byte => .int byte.toNat) (b.map fun byte => .int byte.toNat) ↔ a = b := by
  refine forall₂_map_same (fun x y => ?_) a b
  rw [same_iff_amount (a := .int x.toNat) rfl]
  simp [amount?, UInt8.toNat_inj, eq_comm]

/-- Sequences stand for the same if they are of one kind and their elements are the same in their order. -/
theorem same_iff_elements {a b : Value} {items others : List Value} (sequence : a.isSequence) (sequence' : b.isSequence)
    (given : a.elements = .ok items) (given' : b.elements = .ok others) :
    a.Same b ↔ a.kind? = b.kind? ∧ List.Forall₂ Same items others := by
  cases a with
  | text s =>
    cases given
    rw [same_iff_atom rfl]
    cases b with
    | text t =>
      cases given'
      rw [same_characters]
      simp [kind?, eq_comm]
    | bytes | bytearray | list | tuple => simp [kind?]
    | _ => cases sequence'
  | bytes a | bytearray a =>
    cases given
    rw [same_iff_octets rfl]
    cases b with
    | bytes b | bytearray b =>
      cases given'
      rw [same_bytes]
      simp [kind?, octets?, eq_comm]
    | text | list | tuple => simp [kind?, octets?]
    | _ => cases sequence'
  | list xs =>
    cases given
    rw [same_list]
    cases b with
    | list ys =>
      cases given'
      simp [kind?]
    | text | bytes | bytearray | tuple => simp [kind?]
    | _ => cases sequence'
  | tuple xs =>
    cases given
    rw [same_tuple]
    cases b with
    | tuple ys =>
      cases given'
      simp [kind?]
    | text | bytes | bytearray | list => simp [kind?]
    | _ => cases sequence'
  | _ => cases sequence

theorem isSequence_of_take? {input front : Value} {count : Nat} (taken : input.take? count = some front) :
    front.isSequence := by
  cases input <;> cases taken <;> rfl

/-- A sequence starts with another one if a cut of that length is the same. -/
theorem startsWith_iff_take {input start front : Value} {count : Nat} (sequence : input.isSequence)
    (given : start.isSequence) (measured : start.length? = some count) (taken : input.take? count = some front) :
    input.StartsWith start ↔ front.Same start := by
  obtain ⟨items, listed, -⟩ := exists_elements sequence
  obtain ⟨others, listed', measured'⟩ := exists_elements given
  cases measured.symm.trans measured'
  obtain ⟨cut, kind⟩ := elements_take listed taken
  rw [same_iff_elements (isSequence_of_take? taken) given cut listed', kind]
  constructor
  · rintro ⟨same, items', others', first, second, -, pairs⟩
    cases listed.symm.trans first
    cases listed'.symm.trans second
    exact ⟨same, pairs⟩
  · rintro ⟨same, pairs⟩
    -- a cut of a shorter sequence is that sequence, and too few items to make pairs
    have long : others.length ≤ items.length := by
      have lengths := pairs.length_eq
      rw [List.length_take] at lengths
      omega
    exact ⟨same, items, others, listed, listed', long, pairs⟩

end Value

namespace Parser

open Value

section takes

variable {input start rest : Value} {count : Nat}

theorem beginsWith_iff (sequence : input.isSequence) (given : start.isSequence) :
    ∃ holds, beginsWith input start = .ok holds ∧ (holds ↔ input.StartsWith start) := by
  obtain ⟨count, measured⟩ := exists_length given
  obtain ⟨front, -, taken, -⟩ := exists_cut count sequence
  refine ⟨_, beginsWith_eq_equal measured taken, ?_⟩
  rw [startsWith_iff_take sequence given measured taken, equal_iff_same]

theorem literalOr_takes (expected : Value) (sequence : input.isSequence) (given : start.isSequence)
    (measured : start.length? = some count) (dropped : input.drop? count = some rest) (starts : input.StartsWith start) :
    literalOr expected start input = ⟨[], .ok (.success start rest)⟩ := by
  obtain ⟨holds, begins, iff⟩ := beginsWith_iff sequence given
  cases iff.mpr starts
  exact literalOr_of_begins begins (by simp [Parser.rest, measured, dropped])

theorem literalOr_fails (expected : Value) (sequence : input.isSequence) (given : start.isSequence)
    (apart : ¬ input.StartsWith start) : literalOr expected start input = ⟨[], .ok (.failure expected input)⟩ := by
  obtain ⟨holds, begins, iff⟩ := beginsWith_iff sequence given
  cases holds
  · exact literalOr_of_differs begins
  · exact absurd (iff.mp rfl) apart

theorem literal_of_long (given : start.isSequence) (long : ∃ n ∈ start.integers, ¬ IsShort n) :
    literal start = .error .integerTextTooLong := by
  rw [literal, literalExpectation, given, render_of_long start long]
  rfl

end takes

/-- A literal that can be quoted takes itself from the sequences that start with it, and fails on all others. Whether the
input starts with it is the same by a direct comparison and by a cut. A literal with an integer that is too long to be
written makes no parser. -/
theorem literal_takes_prefix {start : Value} (given : start.isSequence) :
    ((∀ n ∈ start.integers, IsShort n) → ∃ p shown count,
      literal start = .ok p ∧ start.render = .ok shown ∧ start.length? = some count ∧
      ∀ input, input.isSequence → ∃ rest, input.drop? count = some rest ∧
        (input.StartsWith start → p input = ⟨[], .ok (.success start rest)⟩) ∧
        (¬ input.StartsWith start → p input = ⟨[], .ok (.failure (.text ('\'' :: (shown ++ ['\'']))) input)⟩)) ∧
    ((∃ n ∈ start.integers, ¬ IsShort n) → literal start = .error .integerTextTooLong) ∧
    ∀ input, input.isSequence → ∃ count front,
      start.length? = some count ∧ input.take? count = some front ∧ beginsWith input start = .ok (front.equal start) := by
  obtain ⟨count, measured⟩ := exists_length given
  refine ⟨fun short => ?_, literal_of_long given, fun input sequence => ?_⟩
  · obtain ⟨shown, rendered⟩ := exists_render start short
    refine ⟨_, shown, count, literal_of_render given rendered, rendered, measured, fun input sequence => ?_⟩
    obtain ⟨-, rest, -, dropped⟩ := exists_cut count sequence
    exact ⟨rest, dropped, literalOr_takes _ sequence given measured dropped, literalOr_fails _ sequence given⟩
  · obtain ⟨front, -, taken, -⟩ := exists_cut count sequence
    exact ⟨count, front, measured, taken, beginsWith_eq_equal measured taken⟩

/-- A list is taken from a list of items that are equal and of other kinds, and not from a tuple of the very same items. -/
theorem mixed_items_taken :
    let start := Value.list [.int 1, .bytes [97]]
    let input := Value.list [.bool true, .bytearray [97], .text ['b']]
    let other := Value.tuple [.int 1, .bytes [97]]
    start.isSequence ∧ ∃ p, literal start = .ok p ∧
      p input = ⟨[], .ok (.success start (.list [.text ['b']]))⟩ ∧
      p other = ⟨[], .ok (.failure (.ofString "'[1, b'a']'") other)⟩ := by
  intro start input other
  have one : IsShort 1 := by
    unfold IsShort
    decide
  have short : ∀ n ∈ start.integers, IsShort n := by
    intro n member
    cases List.mem_singleton.mp member
    exact one
  have worded : start.render = .ok "[1, b'a']".toList := by
    simp only [start, render, display, write, writeItems, writeInt_of_short one]
    rfl
  have pairs : List.Forall₂ Same [.bool true, .bytearray [97]] [.int 1, .bytes [97]] :=
    .cons (.number rfl (by simp [amount?])) (.cons (.octets rfl rfl) .nil)
  have starts : input.StartsWith start := ⟨rfl, _, _, rfl, rfl, by decide, pairs⟩
  have apart : ¬ other.StartsWith start := fun starts => by cases starts.1
  obtain ⟨parses, -, -⟩ := literal_takes_prefix (rfl : start.isSequence)
  obtain ⟨p, shown, count, made, rendered, measured, takes⟩ := parses short
  cases measured
  cases worded.symm.trans rendered
  obtain ⟨rest, dropped, taken, -⟩ := takes input rfl
  cases dropped
  obtain ⟨-, -, -, failed⟩ := takes other rfl
  exact ⟨rfl, p, made, taken starts, failed apart⟩

/-- A sequence with an integer that is too long to be written starts with itself, and yet there is no literal of it. -/
theorem long_integer_refused :
    let n : Nat := Nat.pow 10 Numeral.digitLimit
    let start : Value := .list [.int n]
    start.isSequence ∧ start.StartsWith start ∧ literal start = .error .integerTextTooLong ∧
      ¬ ∃ p rest, literal start = .ok p ∧ (p start).result = .ok (.success start rest) := by
  intro n start
  have long : ¬ IsShort n := not_isShort (Nat.le_refl n)
  clear_value n
  have refused : literal start = .error .integerTextTooLong := literal_of_long rfl ⟨n, List.mem_singleton_self _, long⟩
  have pairs : List.Forall₂ Same [.int n] [.int n] := .cons (.number rfl rfl) .nil
  refine ⟨rfl, ⟨rfl, _, _, rfl, rfl, Nat.le_refl _, pairs⟩, refused, ?_⟩
  rintro ⟨p, rest, made, -⟩
  cases refused.symm.trans made

end Parser

end ParseKit
