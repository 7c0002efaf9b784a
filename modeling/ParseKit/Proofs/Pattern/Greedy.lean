import ParseKit.Pattern.Matcher

/-!
Greedy repetition: where what follows fits behind the longest run of symbols, that run is what a greedy
repetition of one symbol takes, and no shorter one is tried.
-/

namespace ParseKit

namespace Pattern

variable {α : Type} (code : α → Nat) (test : Nat → Bool)

namespace Cursor

/-- The longest run of symbols behind a position that pass a test. -/
def run (cursor : Cursor α) : List α := cursor.after.takeWhile fun symbol => test (code symbol)

def skip (cursor : Cursor α) : Cursor α where
  before := (cursor.run code test).reverse ++ cursor.before
  after := cursor.after.dropWhile fun symbol => test (code symbol)
  offset := cursor.offset + (cursor.run code test).length
  groups := cursor.groups

theorem run_step {symbol : α} {after : List α} (cursor : Cursor α) (passes : test (code symbol))
    (next : cursor.after = symbol :: after) :
    cursor.run code test = symbol :: (cursor.step symbol after).run code test := by
  simp [run, step, next, passes]

theorem skip_step {symbol : α} {after : List α} (cursor : Cursor α) (passes : test (code symbol))
    (next : cursor.after = symbol :: after) :
    (cursor.step symbol after).skip code test = cursor.skip code test := by
  simp only [skip, run_step code test cursor passes next, mk.injEq]
  simp [step, next, passes, Nat.add_assoc, Nat.add_comm 1]

theorem skip_stop (cursor : Cursor α) (stops : cursor.run code test = []) :
    cursor.skip code test = cursor := by
  have same : cursor.after.dropWhile (fun symbol => test (code symbol)) = cursor.after := by
    have split := List.takeWhile_append_dropWhile (p := fun symbol => test (code symbol)) (l := cursor.after)
    rwa [show cursor.after.takeWhile (fun symbol => test (code symbol)) = [] from stops, List.nil_append] at split
  simp [skip, stops, same]

end Cursor

/-- An unbounded sweep reaches as many further positions as the longest run has symbols, the last in front. -/
theorem sweep_none (symbols : List α) (cursor : Cursor α) (found : List (Cursor α))
    (ahead : cursor.after = symbols) :
    ∃ passed, sweep code test none symbols cursor found = cursor.skip code test :: (passed ++ found) ∧
      passed.length = (cursor.run code test).length := by
  induction symbols generalizing cursor found with
  | nil =>
    have stops : cursor.run code test = [] := by simp [Cursor.run, ahead]
    exact ⟨[], by simp [sweep, Cursor.skip_stop code test cursor stops], by simp [stops]⟩
  | cons symbol after ih =>
    by_cases passes : test (code symbol)
    · obtain ⟨passed, reached, size⟩ := ih (cursor.step symbol after) (cursor :: found) rfl
      refine ⟨passed ++ [cursor], ?_, ?_⟩
      · simp [sweep, passes, reached, Cursor.skip_step code test cursor passes ahead]
      · simp [size, Cursor.run_step code test cursor passes ahead]
    · have stops : cursor.run code test = [] := by simp [Cursor.run, ahead, passes]
      exact ⟨[], by simp [sweep, passes, Cursor.skip_stop code test cursor stops], by simp [stops]⟩

theorem greedyOne_of_fits {least : Nat} {cursor final : Cursor α} {next : Continuation α}
    (enough : least ≤ (cursor.run code test).length) (fits : next (cursor.skip code test) = some final) :
    greedyOne code test least none cursor next = some final := by
  obtain ⟨passed, reached, size⟩ := sweep_none code test cursor.after cursor [] rfl
  have more : (cursor.skip code test :: (passed ++ [])).length - least = (passed.length - least) + 1 := by
    simp only [List.append_nil, List.length_cons]
    omega
  simp only [greedyOne, reached]
  rw [more, List.take_succ_cons, List.findSome?_cons, fits]

theorem greedyOne_of_few {least : Nat} {cursor : Cursor α} {next : Continuation α}
    (few : (cursor.run code test).length < least) : greedyOne code test least none cursor next = none := by
  obtain ⟨passed, reached, size⟩ := sweep_none code test cursor.after cursor [] rfl
  have fewer : (cursor.skip code test :: (passed ++ [])).length - least = 0 := by
    simp only [List.append_nil, List.length_cons]
    omega
  simp only [greedyOne, reached]
  rw [fewer, List.take_zero, List.findSome?_nil]

theorem greedyMore_once (step : Step α) (cursor : Cursor α) (next : Continuation α) :
    greedyMore step (cursor.after.length + 1) (some 1) none cursor next =
      (step cursor next).or (next cursor) := by
  have once (count : Nat) (last : Option Nat) (cursor : Cursor α) :
      greedyMore step count (some 0) last cursor next = next cursor := by
    cases count <;> simp [greedyMore]
  simp only [greedyMore, Option.map_some, once]
  cases step cursor next <;> rfl

end Pattern

end ParseKit
