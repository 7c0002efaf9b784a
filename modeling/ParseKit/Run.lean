import ParseKit.Fault
import ParseKit.Logging.Record

/-!
Computations that leave a journal of what happened and give a result or a fault. The journal of a
computation that ends in a fault is kept.
-/

namespace ParseKit

inductive Event where
  /-- a named parser is given an input -/
  | call (name : Text) (input : Value)
  /-- a script leaves a note -/
  | note (value : Value)
  /-- a script is cleaned up -/
  | cleanup (tag : Text)
  | record (r : LogRecord)

structure Run (α : Type) where
  events : List Event
  result : Except Fault α

namespace Run

def andThen {α β : Type} (r : Run α) (next : α → Run β) : Run β :=
  match r.result with
  | .error fault => ⟨r.events, .error fault⟩
  | .ok a =>
    let s := next a
    ⟨r.events ++ s.events, s.result⟩

instance : Monad Run where
  pure a := ⟨[], .ok a⟩
  bind := andThen

/-- A run that goes on after nothing, and one that does nothing more, are the runs themselves, and it does
not matter which steps are taken together. -/
instance : LawfulMonad Run := LawfulMonad.mk' Run
  (by rintro α ⟨events, _ | _⟩ <;> simp [Functor.map, andThen])
  (by
    intro α β a next
    simp [bind, pure, andThen])
  (by
    rintro α β γ ⟨events, _ | a⟩ next after
    · rfl
    · simp only [bind, andThen]
      cases (next a).result <;> simp)

def fault {α : Type} (f : Fault) : Run α := ⟨[], .error f⟩

def ofExcept {α : Type} (e : Except Fault α) : Run α := ⟨[], e⟩

def tell (event : Event) : Run Unit := ⟨[event], .ok ()⟩

def followedBy {α : Type} (r : Run α) (events : List Event) : Run α := ⟨r.events ++ events, r.result⟩

def precededBy {α : Type} (events : List Event) (r : Run α) : Run α := ⟨events ++ r.events, r.result⟩

theorem pure_def {α : Type} (a : α) : (pure a : Run α) = ⟨[], .ok a⟩ := rfl

@[simp]
theorem ok_bind {α β : Type} (events : List Event) (a : α) (next : α → Run β) :
    (⟨events, .ok a⟩ : Run α) >>= next = (next a).precededBy events := rfl

@[simp]
theorem error_bind {α β : Type} (events : List Event) (f : Fault) (next : α → Run β) :
    (⟨events, .error f⟩ : Run α) >>= next = ⟨events, .error f⟩ := rfl

theorem except_bind_eq_ok {ε α β : Type} {e : Except ε α} {next : α → Except ε β} {b : β}
    (ends : e >>= next = .ok b) : ∃ a, e = .ok a ∧ next a = .ok b := by
  cases e with
  | error fault => cases ends
  | ok a => exact ⟨a, rfl, ends⟩

theorem result_bind_eq_ok {α β : Type} {r : Run α} {next : α → Run β} {b : β}
    (ends : (r >>= next).result = .ok b) : ∃ a, r.result = .ok a ∧ (next a).result = .ok b := by
  obtain ⟨events, fault | a⟩ := r
  · cases ends
  · exact ⟨a, rfl, ends⟩

theorem result_bind_of_ok {α β : Type} {r : Run α} {next : α → Run β} {a : α} {b : β} (given : r.result = .ok a)
    (ends : (next a).result = .ok b) : (r >>= next).result = .ok b := by
  obtain ⟨events, result⟩ := r
  cases given
  exact ends

@[simp]
theorem precededBy_nil {α : Type} (r : Run α) : r.precededBy [] = r := rfl

@[simp]
theorem followedBy_nil {α : Type} (r : Run α) : r.followedBy [] = r := by simp [followedBy]

theorem precededBy_precededBy {α : Type} (first second : List Event) (r : Run α) :
    (r.precededBy second).precededBy first = r.precededBy (first ++ second) := by simp [precededBy]

theorem followedBy_precededBy {α : Type} (first last : List Event) (r : Run α) :
    (r.precededBy first).followedBy last = (r.followedBy last).precededBy first := by
  simp [precededBy, followedBy]

end Run

end ParseKit
