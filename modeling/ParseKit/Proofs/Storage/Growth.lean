import ParseKit.Storage.Basic

/-!
Storages that grow. Main statements: making folders and opening a file only add to a storage, also where they end in a
fault; what stood at a path stands there still, and what has been opened stands at its path.
-/

namespace ParseKit

namespace Storage

variable {s s' s'' : Storage} {location other target : Location} {entry : Entry} {path : Text}

theorem lookup_filter (entries : List (Location × Entry)) (apart : other ≠ location) :
    (entries.filter (·.1 ≠ location)).lookup other = entries.lookup other := by
  induction entries with
  | nil => rfl
  | cons first entries ih =>
    obtain ⟨here, entry⟩ := first
    by_cases removed : here = location
    · subst removed
      simp [List.lookup_cons, beq_eq_false_iff_ne.mpr apart, ← ih]
    · simp [List.lookup_cons, removed, ← ih]

theorem at?_put_other (s : Storage) (entry : Entry) (apart : other ≠ location) :
    (s.put location entry).at? other = s.at? other := by
  unfold at? put
  split
  · rfl
  · rw [List.lookup_append, lookup_filter s.entries apart]
    simp [List.lookup_cons, beq_eq_false_iff_ne.mpr apart]

/-- What stands somewhere stands there still, and is found by the same ways. -/
structure Grows (s s' : Storage) : Prop where
  place : s'.place = s.place
  closed : s'.closed = s.closed
  stands : ∀ {location entry}, s.at? location = some entry → s'.at? location = some entry

theorem Grows.refl (s : Storage) : s.Grows s := ⟨rfl, rfl, id⟩

theorem Grows.trans (first : s.Grows s') (second : s'.Grows s'') : s.Grows s'' :=
  ⟨second.place.trans first.place, second.closed.trans first.closed, fun stands => second.stands (first.stands stands)⟩

theorem grows_put (entry : Entry) (free : s.at? location = none) : s.Grows (s.put location entry) := by
  refine ⟨rfl, rfl, fun {there found} stands => ?_⟩
  have apart : there ≠ location := by
    rintro rfl
    rw [free] at stands
    cases stands
  rw [at?_put_other s entry apart, stands]

theorem grows_create (bytes : List UInt8) (free : s.at? location = none) : s.Grows (s.create location bytes) :=
  ⟨rfl, rfl, (grows_put (.file s.contents.length) free).stands⟩

theorem at?_create (bytes : List UInt8) (free : s.at? location = none) :
    (s.create location bytes).at? location = some (.file s.contents.length) := by
  apply at?_put_self
  rintro rfl
  cases free

/-- A step through a folder does not change, whatever it leads to. -/
theorem Grows.enter {name : Text} (grows : s.Grows s') (entered : s.enter location name = .ok target) :
    s'.enter location name = .ok target := by
  unfold Storage.enter at entered ⊢
  cases stands : s.at? location with
  | none =>
    rw [stands] at entered
    cases entered
  | some entry =>
    rw [stands] at entered
    rw [grows.stands stands, grows.closed]
    exact entered

theorem Grows.walk (grows : s.Grows s') {names : List Text} (reached : s.walk location names = .ok target) :
    s'.walk location names = .ok target := by
  induction names generalizing location with
  | nil => exact reached
  | cons name names ih =>
    unfold Storage.walk at reached ⊢
    cases entered : s.enter location name with
    | error obstacle =>
      rw [entered] at reached
      cases reached
    | ok next =>
      rw [entered] at reached
      rw [grows.enter entered]
      exact ih reached

theorem Grows.locate (grows : s.Grows s') (reached : s.locate path = .ok target) : s'.locate path = .ok target := by
  unfold Storage.locate at reached ⊢
  rw [grows.place]
  by_cases unnameable : path.contains '\x00'
  · rw [if_pos unnameable] at reached
    cases reached
  · rw [if_neg unnameable] at reached ⊢
    by_cases empty : path = []
    · rw [if_pos empty] at reached
      cases reached
    · rw [if_neg empty] at reached ⊢
      by_cases long : isLongerThan pathLimit path
      · rw [if_pos long] at reached
        cases reached
      · rw [if_neg long] at reached ⊢
        exact grows.walk reached

theorem find?_of_locate (reached : s.locate path = .ok location) : s.find? path = s.at? location := by
  simp only [find?, reached]

theorem Grows.find? (grows : s.Grows s') (found : s.find? path = some entry) : s'.find? path = some entry := by
  unfold Storage.find? at found
  split at found
  · rename_i location reached
    rw [find?_of_locate (grows.locate reached), grows.stands found]
  · cases found

theorem makeFolder_grows (made : s.makeFolder path = .ok s') : s.Grows s' := by
  unfold makeFolder at made
  dsimp only at made
  split at made
  · cases made
  · split at made
    · cases made
    · rename_i free
      cases made
      exact grows_put .folder (Option.not_isSome_iff_eq_none.mp free)

theorem ensureFolder_grows (s : Storage) (path : Text) : s.Grows (s.ensureFolder path).1 := by
  unfold ensureFolder
  split
  · rename_i made
    exact makeFolder_grows made
  · exact .refl s

theorem addFoldersFrom_grows (depth : Nat) (s : Storage) (path : Text) : s.Grows (addFoldersFrom depth s path).1 := by
  induction depth generalizing path with
  | zero => exact .refl s
  | succ depth ih =>
    unfold addFoldersFrom
    dsimp only
    generalize (if Path.lastName path = [] then Path.parent path else path) = whole
    have above := ih (Path.parent whole)
    split
    · split
      · exact above
      · split
        · exact above
        · exact above.trans (ensureFolder_grows _ path)
    · exact ensureFolder_grows s path

theorem addFolders_grows (s : Storage) (path : Text) : s.Grows (s.addFolders path).1 := addFoldersFrom_grows _ s path

/-- What stands at the path of a file that is open. -/
def entryOf : Option Nat → Entry
  | some number => .file number
  | none => .sink

theorem openAtEnd_grows {opened : Option Nat} (opens : s.openAtEnd path = .ok (s', opened)) :
    s.Grows s' ∧ s'.find? path = some (entryOf opened) := by
  unfold openAtEnd at opens
  cases reached : s.locate path with
  | error obstacle =>
    rw [reached] at opens
    cases opens
  | ok location =>
    rw [reached] at opens
    dsimp only at opens
    split at opens
    · rename_i free
      cases opens
      have grows := grows_create [] free
      refine ⟨grows, ?_⟩
      rw [find?_of_locate (grows.locate reached), at?_create [] free, entryOf]
    · cases opens
    · rename_i stands
      cases opens
      exact ⟨.refl s, (find?_of_locate reached).trans stands⟩
    · rename_i number stands
      cases opens
      exact ⟨.refl s, (find?_of_locate reached).trans stands⟩

end Storage

end ParseKit
