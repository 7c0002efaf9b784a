import ParseKit.Text.Basic

/-!
Things kept under names, in the order in which the names came. Looking up finds the first entry of a name;
`get?_insert` and `get?_overlay` say what is found after a change.
-/

namespace ParseKit

abbrev Keyed (α : Type) := List (Text × α)

namespace Keyed

variable {α : Type}

def get? (entries : Keyed α) (name : Text) : Option α := entries.lookup name

/-- Puts something under a name; a new name comes last. -/
def insert (name : Text) (value : α) : Keyed α → Keyed α
  | [] => [(name, value)]
  | (other, old) :: rest => if other = name then (name, value) :: rest else (other, old) :: insert name value rest

/-- The entries of a list, and those of an older one whose names it does not have. -/
def overlay (old new : Keyed α) : Keyed α := new.foldl (fun entries entry => insert entry.1 entry.2 entries) old

theorem get?_nil (name : Text) : get? ([] : Keyed α) name = none := rfl

theorem get?_cons (name other : Text) (value : α) (entries : Keyed α) :
    get? ((other, value) :: entries) name = if name = other then some value else get? entries name := by
  by_cases same : name = other
  · simp [get?, same]
  · simp [get?, List.lookup_cons, same, beq_eq_false_iff_ne.mpr same]

theorem get?_append (first second : Keyed α) (name : Text) :
    get? (first ++ second) name = (get? first name).or (get? second name) :=
  List.lookup_append

theorem get?_insert (name other : Text) (value : α) (entries : Keyed α) :
    get? (insert name value entries) other = if other = name then some value else get? entries other := by
  induction entries with
  | nil => simp [insert, get?_cons, get?_nil]
  | cons entry rest ih =>
    obtain ⟨key, old⟩ := entry
    by_cases same : key = name
    · subst same
      by_cases asked : other = key <;> simp [insert, get?_cons, asked]
    · by_cases asked : other = key
      · subst asked
        simp [insert, get?_cons, same]
      · simp [insert, get?_cons, same, asked, ih]

/-- The newer list decides where it has a name, by its last entry of that name. -/
theorem get?_overlay (old new : Keyed α) (name : Text) :
    get? (overlay old new) name = (get? new.reverse name).or (get? old name) := by
  induction new generalizing old with
  | nil => simp [overlay, get?]
  | cons entry rest ih =>
    obtain ⟨key, value⟩ := entry
    have step : overlay old ((key, value) :: rest) = overlay (insert key value old) rest := rfl
    rw [step, ih, List.reverse_cons, get?_append, get?_cons, get?_nil, get?_insert]
    cases get? rest.reverse name <;> by_cases asked : name = key <;> simp [asked]

end Keyed

end ParseKit
