import Mathlib
import ParseKit.Proofs.Number.Amount
import ParseKit.Value.Basic

/-!
Equality of values. Main statement: values are equal if they stand for the same: truth values and numbers for an amount,
byte strings of either kind for their bytes, lists and tuples for items that are equal in their order, and dictionaries for
entries in any order.
-/

namespace ParseKit

namespace Value

def amount? : Value → Option Amount
  | .bool b => some (.finite (if b then 1 else 0))
  | .int n => some (.finite n)
  | .float x => x.amount?
  | _ => Option.none

def octets? : Value → Option (List UInt8)
  | .bytes b | .bytearray b => some b
  | _ => Option.none

/-- Values that stand for nothing but themselves. -/
def isAtom : Value → Bool
  | .none | .text _ | .operator _ => true
  | _ => false

/-- Values that stand for the same. Nothing stands for the same as what is no number. -/
inductive Same : Value → Value → Prop where
  | atom {a : Value} : a.isAtom → Same a a
  | number {a b : Value} {x : Amount} : a.amount? = some x → b.amount? = some x → Same a b
  | octets {a b : Value} {bytes : List UInt8} : a.octets? = some bytes → b.octets? = some bytes → Same a b
  | list {xs ys : List Value} : List.Forall₂ Same xs ys → Same (.list xs) (.list ys)
  | tuple {xs ys : List Value} : List.Forall₂ Same xs ys → Same (.tuple xs) (.tuple ys)
  | dict {entries others : List (Value × Value)} (partner : Value × Value → Value × Value) :
      entries.length = others.length → (∀ entry ∈ entries, partner entry ∈ others) →
      (∀ entry ∈ entries, Same entry.1 (partner entry).1) → (∀ entry ∈ entries, Same entry.2 (partner entry).2) →
      Same (.dict entries) (.dict others)
  | pattern {p q : Pattern} : p.same q → Same (.pattern p) (.pattern q)

section kinds

theorem equal_atom {a : Value} (atom : a.isAtom) (b : Value) : a.equal b ↔ b = a := by
  cases a with
  | none | text | operator => cases b <;> simp [equal, eq_comm]
  | _ => cases atom

theorem equal_int (m : Int) (b : Value) : (Value.int m).equal b ↔ b.amount? = some (.finite m) := by
  cases b with
  | bool b => cases b <;> simp [equal, amount?, eq_comm]
  | int n => simp [equal, amount?, eq_comm]
  | float x =>
    cases stands : x.amount? with
    | none => cases x <;> simp_all [equal, amount?, Binary64.amount?, Binary64.eqInt, Binary64.toInt?]
    | some a => simp [equal, amount?, stands, Binary64.eqInt_iff stands]
  | _ => simp [equal, amount?]

theorem equal_bool (a : Bool) (b : Value) : (Value.bool a).equal b ↔ (Value.int (if a then 1 else 0)).equal b := by
  cases b with
  | bool b => cases a <;> cases b <;> simp [equal]
  | _ => simp [equal]

theorem equal_float {x : Binary64} {a : Amount} (stands : x.amount? = some a) (b : Value) :
    (Value.float x).equal b ↔ b.amount? = some a := by
  cases b with
  | bool b => cases b <;> simp [equal, amount?, Binary64.eqInt_iff stands, eq_comm]
  | int n => simp [equal, amount?, Binary64.eqInt_iff stands, eq_comm]
  | float y =>
    cases stands' : y.amount? with
    | none => cases y <;> simp_all [equal, amount?, Binary64.amount?, Binary64.numericEq]
    | some b => simp [equal, amount?, stands', Binary64.numericEq_iff stands stands', eq_comm]
  | _ => simp [equal, amount?]

theorem equal_octets {a : Value} {bytes : List UInt8} (given : a.octets? = some bytes) (b : Value) :
    a.equal b ↔ b.octets? = some bytes := by
  cases a with
  | bytes a | bytearray a =>
    cases given
    cases b <;> simp [equal, octets?, eq_comm]
  | _ => cases given

theorem equal_nan (b : Value) : ¬ (Value.float .nan).equal b := by
  cases b <;> simp [equal, Binary64.numericEq, Binary64.eqInt, Binary64.toInt?]

end kinds

section same

variable {a b : Value}

theorem octets_of_amount {x : Amount} (stands : a.amount? = some x) : a.octets? = Option.none := by
  cases a <;> first | rfl | cases stands

theorem amount_of_atom (atom : a.isAtom) : a.amount? = Option.none := by
  cases a <;> first | rfl | cases atom

theorem octets_of_atom (atom : a.isAtom) : a.octets? = Option.none := by
  cases a <;> first | rfl | cases atom

theorem same_iff_amount {x : Amount} (stands : a.amount? = some x) : a.Same b ↔ b.amount? = some x := by
  refine ⟨fun same => ?_, fun stands' => .number stands stands'⟩
  cases same with
  | number first second =>
    rw [stands] at first
    cases first
    exact second
  | octets given =>
    rw [octets_of_amount stands] at given
    cases given
  | atom atom =>
    rw [amount_of_atom atom] at stands
    cases stands
  | _ => cases stands

theorem same_iff_octets {bytes : List UInt8} (given : a.octets? = some bytes) : a.Same b ↔ b.octets? = some bytes := by
  refine ⟨fun same => ?_, fun given' => .octets given given'⟩
  cases same with
  | octets first second =>
    rw [given] at first
    cases first
    exact second
  | number stands =>
    rw [octets_of_amount stands] at given
    cases given
  | atom atom =>
    rw [octets_of_atom atom] at given
    cases given
  | _ => cases given

theorem same_iff_atom (atom : a.isAtom) : a.Same b ↔ b = a := by
  constructor
  · intro same
    cases same with
    | atom => rfl
    | number stands =>
      rw [amount_of_atom atom] at stands
      cases stands
    | octets given =>
      rw [octets_of_atom atom] at given
      cases given
    | _ => cases atom
  · rintro rfl
    exact .atom atom

theorem same_dict {entries : List (Value × Value)} :
    (Value.dict entries).Same b ↔ ∃ others, b = .dict others ∧ entries.length = others.length ∧
      ∀ entry ∈ entries, ∃ other ∈ others, entry.1.Same other.1 ∧ entry.2.Same other.2 := by
  constructor
  · intro same
    cases same with
    | dict partner size members keys values =>
      exact ⟨_, rfl, size, fun entry member => ⟨partner entry, members entry member, keys entry member, values entry member⟩⟩
    | atom atom => cases atom
    | number stands => cases stands
    | octets given => cases given
  · rintro ⟨others, rfl, size, found⟩
    have total : ∀ entry, ∃ other, entry ∈ entries → other ∈ others ∧ entry.1.Same other.1 ∧ entry.2.Same other.2 := by
      intro entry
      by_cases member : entry ∈ entries
      · obtain ⟨other, inside, same⟩ := found entry member
        exact ⟨other, fun _ => ⟨inside, same⟩⟩
      · exact ⟨entry, fun inside => absurd inside member⟩
    choose partner holds using total
    exact .dict partner size (fun entry member => (holds entry member).1) (fun entry member => (holds entry member).2.1)
      fun entry member => (holds entry member).2.2

theorem same_list {xs : List Value} : (Value.list xs).Same b ↔ ∃ ys, b = .list ys ∧ List.Forall₂ Same xs ys := by
  constructor
  · intro same
    cases same with
    | list items => exact ⟨_, rfl, items⟩
    | atom atom => cases atom
    | number stands => cases stands
    | octets given => cases given
  · rintro ⟨ys, rfl, items⟩
    exact .list items

theorem same_tuple {xs : List Value} : (Value.tuple xs).Same b ↔ ∃ ys, b = .tuple ys ∧ List.Forall₂ Same xs ys := by
  constructor
  · intro same
    cases same with
    | tuple items => exact ⟨_, rfl, items⟩
    | atom atom => cases atom
    | number stands => cases stands
    | octets given => cases given
  · rintro ⟨ys, rfl, items⟩
    exact .tuple items

theorem same_pattern {p : Pattern} : (Value.pattern p).Same b ↔ ∃ q, b = .pattern q ∧ p.same q := by
  constructor
  · intro same
    cases same with
    | pattern compiled => exact ⟨_, rfl, compiled⟩
    | atom atom => cases atom
    | number stands => cases stands
    | octets given => cases given
  · rintro ⟨q, rfl, compiled⟩
    exact .pattern compiled

theorem not_same_nan : ¬ (Value.float .nan).Same b := by
  intro same
  cases same with
  | atom atom => cases atom
  | number stands => cases stands
  | octets given => cases given

end same

mutual

/-- Comparing decides whether values stand for the same. -/
theorem equal_iff_same (a b : Value) : a.equal b ↔ a.Same b := by
  cases a with
  | none | text | operator => exact (equal_atom rfl b).trans (same_iff_atom rfl).symm
  | bool a =>
    have stands : (Value.bool a).amount? = some (.finite ((if a then 1 else 0 : Int) : ℚ)) := by cases a <;> simp [amount?]
    exact (equal_bool a b).trans ((equal_int _ b).trans (same_iff_amount stands).symm)
  | int n => exact (equal_int n b).trans (same_iff_amount (a := .int n) rfl).symm
  | float x =>
    cases stands : x.amount? with
    | none =>
      cases x with
      | nan => exact iff_of_false (equal_nan b) not_same_nan
      | _ => cases stands
    | some amount => exact (equal_float stands b).trans (same_iff_amount (a := .float x) stands).symm
  | bytes bytes => exact (equal_octets (a := .bytes bytes) rfl b).trans (same_iff_octets (a := .bytes bytes) rfl).symm
  | bytearray bytes =>
    exact (equal_octets (a := .bytearray bytes) rfl b).trans (same_iff_octets (a := .bytearray bytes) rfl).symm
  | list xs =>
    rw [same_list]
    cases b with
    | list ys => simp [equal, equalItems_iff_same xs]
    | _ => simp [equal]
  | tuple xs =>
    rw [same_tuple]
    cases b with
    | tuple ys => simp [equal, equalItems_iff_same xs]
    | _ => simp [equal]
  | dict entries =>
    rw [same_dict]
    cases b with
    | dict others => simp [equal, equalEntries_iff_same entries]
    | _ => simp [equal]
  | pattern p =>
    rw [same_pattern]
    cases b <;> simp [equal]

theorem equalItems_iff_same (xs ys : List Value) : equalItems xs ys ↔ List.Forall₂ Same xs ys := by
  cases xs with
  | nil => cases ys <;> simp [equalItems]
  | cons x xs =>
    cases ys with
    | nil => simp [equalItems]
    | cons y ys => rw [equalItems, Bool.and_eq_true, equal_iff_same x, equalItems_iff_same xs, List.forall₂_cons]

theorem equalEntries_iff_same (entries others : List (Value × Value)) :
    equalEntries entries others ↔
      ∀ entry ∈ entries, ∃ other ∈ others, entry.1.Same other.1 ∧ entry.2.Same other.2 := by
  match entries with
  | [] => simp [equalEntries]
  | (key, value) :: entries =>
    simp only [equalEntries, Bool.and_eq_true, List.any_eq_true, equal_iff_same key, equal_iff_same value,
      equalEntries_iff_same entries, List.forall_mem_cons]

end

end Value

end ParseKit
