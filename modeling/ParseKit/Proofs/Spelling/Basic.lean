import ParseKit.Proofs.Repetition
import ParseKit.Proofs.Text.Utf8
import ParseKit.Proofs.Wording

/-!
Spellings: texts as sequences of one kind or another, such as lists of characters or bytes. A spelling is cut where its
text is cut, and one begins another where the texts do.
-/

namespace ParseKit

structure Spelling where
  value : Text → Value
  isSequence : ∀ s, (value s).isSequence
  renders : ∀ s, ∃ shown, (value s).render = .ok shown
  isEmpty : ∀ s, (value s).isEmpty? = some s.isEmpty
  begins : ∀ s start, Parser.beginsWith (value s) (value start) = .ok (start.isPrefixOf s)
  cut : ∀ front rest, Parser.rest ((value front).length?.getD 0) (value (front ++ rest)) = .ok (value rest)
  shorter_iff : ∀ front rest, (value rest).Shorter (value (front ++ rest)) ↔ front ≠ []

def Text.characters (s : Text) : List Value := s.map fun c => .text [c]

theorem Value.equalItems_characters (s t : Text) : equalItems s.characters t.characters = decide (s = t) := by
  induction s generalizing t with
  | nil => cases t <;> simp [Text.characters, equalItems]
  | cons c s ih =>
    cases t with
    | nil => simp [Text.characters, equalItems]
    | cons d t =>
      have others := ih t
      simp only [Text.characters] at others
      simp [Text.characters, equalItems, equal, others]

theorem Value.integersOf_characters (s : Text) : integersOf s.characters = [] := by
  induction s with
  | nil => rfl
  | cons c s ih => exact ih

namespace Spelling

theorem shorter_congr (a b : Spelling) {s rest : Text} (suffix : rest <:+ s) :
    (a.value rest).Shorter (a.value s) ↔ (b.value rest).Shorter (b.value s) := by
  obtain ⟨front, rfl⟩ := suffix
  rw [a.shorter_iff, b.shorter_iff]

theorem length_lt_iff {α : Type} (front rest : List α) : rest.length < (front ++ rest).length ↔ front ≠ [] := by
  rw [List.length_append, ← List.length_pos_iff]
  omega

def text : Spelling where
  value := .text
  isSequence _ := rfl
  renders s := ⟨s, rfl⟩
  isEmpty _ := rfl
  begins _ _ := rfl
  cut front rest := by simp [Parser.rest, Value.length?, Value.drop?]
  shorter_iff front rest := (Value.shorter_iff rfl rfl).trans (length_lt_iff front rest)

def utf8 : Spelling where
  value s := .bytes (Utf8.encode s)
  isSequence _ := rfl
  renders s := ⟨_, rfl⟩
  isEmpty s := by
    cases s with
    | nil => rfl
    | cons c s => simp [Value.isEmpty?, Utf8.encode_cons, Utf8.encodeChar_ne_nil]
  begins s start := by
    have same : (Utf8.encode start).isPrefixOf (Utf8.encode s) = start.isPrefixOf s := by
      rw [Bool.eq_iff_iff, List.isPrefixOf_iff_prefix, List.isPrefixOf_iff_prefix, Utf8.encode_prefix_iff]
    rw [Parser.beginsWith, same]
  cut front rest := by simp [Parser.rest, Value.length?, Value.drop?, Utf8.encode_append]
  shorter_iff front rest := by
    have shorter : (Value.bytes (Utf8.encode rest)).Shorter (.bytes (Utf8.encode (front ++ rest))) ↔
        Utf8.encode front ≠ [] := by
      rw [Utf8.encode_append]
      exact (Value.shorter_iff rfl rfl).trans (length_lt_iff _ _)
    exact shorter.trans (not_congr Utf8.encode_eq_nil)

def items (wrap : List Value → Value) (either : wrap = .list ∨ wrap = .tuple) : Spelling where
  value s := wrap s.characters
  isSequence s := by rcases either with rfl | rfl <;> rfl
  renders s := by
    refine Value.exists_render _ fun n member => ?_
    have none : (wrap s.characters).integers = [] := by
      rcases either with rfl | rfl <;> exact Value.integersOf_characters s
    rw [none] at member
    cases member
  isEmpty s := by rcases either with rfl | rfl <;> cases s <;> rfl
  begins s start := by
    have cut : s.characters.take start.characters.length = Text.characters (s.take start.length) := by
      simp [Text.characters, List.map_take]
    rcases either with rfl | rfl
    all_goals
      simp only [Parser.beginsWith, Value.length?, Value.take?, Value.equal, cut, Value.equalItems_characters,
        Parser.isPrefixOf_eq_decide]
  cut front rest := by
    have same : Text.characters (front ++ rest) = front.characters ++ rest.characters := List.map_append
    rcases either with rfl | rfl
    all_goals simp [same, Parser.rest, Value.length?, Value.drop?]
  shorter_iff front rest := by
    have some : rest.characters.length < (Text.characters (front ++ rest)).length ↔ front ≠ [] := by
      simpa [Text.characters] using length_lt_iff front rest
    rcases either with rfl | rfl
    all_goals exact (Value.shorter_iff rfl rfl).trans some

end Spelling

end ParseKit
