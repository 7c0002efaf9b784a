import ParseKit.Proofs.Sequencing

/-!
Laws of binding and mapping. Main statement: parsers with `map` are a functor, and with `bind` and `succeed` a monad,
whatever the parsers and the functions do: both sides of a law have the same journal and end in the same success, failure
or fault.
-/

namespace ParseKit

namespace Parser

/-- The parser that a computation comes to; if it comes to none, every run ends in its fault. -/
def ofExcept (made : Except Fault Parser) : Parser := fun input => do (← Run.ofExcept made) input

/-- How binding goes on from what the first parser gave. -/
def onward (f : Value → Except Fault Parser) : Outcome → Run Outcome
  | .failure expected actual => return .failure expected actual
  | .success data rest => ofExcept (f data) rest

theorem bind_eq_onward (p : Parser) (f : Value → Except Fault Parser) (input : Value) :
    p.bind f input = p input >>= onward f := rfl

/-- A function that has no parser for some data may as well have one that ends in its fault. -/
theorem bind_congr {p : Parser} {f g : Value → Except Fault Parser} (same : ∀ data, ofExcept (f data) = ofExcept (g data)) :
    p.bind f = p.bind g := by
  have continues : onward f = onward g := by
    funext outcome
    cases outcome with
    | failure expected actual => rfl
    | success data rest => exact congrFun (same data) rest
  funext input
  rw [bind_eq_onward, bind_eq_onward, continues]

theorem succeed_bind (value : Value) (f : Value → Except Fault Parser) : (succeed value).bind f = ofExcept (f value) := rfl

theorem bind_bind (p : Parser) (f g : Value → Except Fault Parser) :
    (p.bind f).bind g = p.bind fun data => (f data).map (·.bind g) := by
  funext input
  simp only [bind_eq_onward, LawfulMonad.bind_assoc]
  congr 1
  funext outcome
  cases outcome with
  | failure expected actual => rfl
  | success data rest => cases made : f data <;> simp only [onward, made] <;> rfl

theorem map_eq_bind (f : Value → Except Fault Value) (p : Parser) : p.map f = p.bind fun data => (f data).map succeed := by
  funext input
  rw [bind_eq_onward, map]
  congr 1
  funext outcome
  cases outcome with
  | failure expected actual => rfl
  | success data rest => cases made : f data <;> simp only [onward, made] <;> rfl

theorem map_ok (p : Parser) : p.map .ok = p := by
  rw [map_eq_bind]
  exact bind_succeed_right p

theorem map_map (p : Parser) (f g : Value → Except Fault Value) : (p.map g).map f = p.map fun data => g data >>= f := by
  simp only [map_eq_bind, bind_bind]
  refine bind_congr fun data => ?_
  -- where the inner function faults, so do both sides; else its value is bound at once
  cases g data with
  | error fault => rfl
  | ok value => exact succeed_bind value fun data => (f data).map succeed

/-- Mapping keeps the identity and composition, and is binding to what succeeds with the mapped data. Succeeding is
neutral on either side of binding, and binding is associative. A function may fault on some data; composed functions run in
their order, up to the first that faults. Sides are equal as parsers: on every input the same parsers run on the same
inputs in the same order, and both end in the same success, failure or fault. -/
theorem map_bind_laws :
    (∀ p : Parser, p.map .ok = p) ∧
    (∀ (p : Parser) (f g : Value → Except Fault Value), (p.map g).map f = p.map fun data => g data >>= f) ∧
    (∀ (p : Parser) (f : Value → Except Fault Value), p.map f = p.bind fun data => (f data).map succeed) ∧
    (∀ (value : Value) (f : Value → Except Fault Parser), (succeed value).bind f = ofExcept (f value)) ∧
    (∀ p : Parser, p.bind (fun data => .ok (succeed data)) = p) ∧
    (∀ (p : Parser) (f g : Value → Except Fault Parser), (p.bind f).bind g = p.bind fun data => (f data).map (·.bind g)) :=
  ⟨map_ok, map_map, fun p f => map_eq_bind f p, succeed_bind, bind_succeed_right, bind_bind⟩

end Parser

end ParseKit
