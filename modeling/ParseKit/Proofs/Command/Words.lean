import ParseKit.Command.Line

/-!
Options among the words of a command line. Main statements: whole options put what they give behind what there is, whatever
words follow; and what is read behind some words does not depend on what these have given.
-/

namespace ParseKit

namespace Text

variable {label : Text}

theorem splitFirst_joined (value : Text) {needle : Char} (free : needle ∉ label) :
    splitFirst needle (label ++ needle :: value) = some (label, value) := by
  induction label with
  | nil => simp [splitFirst]
  | cons c label ih =>
    obtain ⟨other, free⟩ := not_or.mp (mt List.mem_cons.mpr free)
    rw [List.cons_append, splitFirst, if_neg (Ne.symm other), ih free]
    rfl

theorem splitFirst_free {needle : Char} (free : needle ∉ label) : splitFirst needle label = none := by
  induction label with
  | nil => rfl
  | cons c label ih =>
    obtain ⟨other, free⟩ := not_or.mp (mt List.mem_cons.mpr free)
    rw [splitFirst, if_neg (Ne.symm other), ih free]
    rfl

end Text

namespace Command

open Toml (Datum)

/-- The labels of options are words with two hyphens and something behind them, and have no equals sign. -/
def Spec.Labelled (spec : Spec) : Prop :=
  ∀ p ∈ spec.parameters, p.shape = .option ∨ p.shape = .switch → p.label.take 2 = ['-', '-'] ∧ 2 < p.label.length ∧ '=' ∉ p.label

/-- Words that are whole options, and what they give. -/
inductive Spec.Gives (spec : Spec) : List Text → List (Text × Datum) → Prop where
  | nil : Gives spec [] []
  | value {label value : Text} {p : Parameter} {words : List Text} {given : List (Text × Datum)} :
      spec.labelled? label = some p → p.shape = .option → Gives spec words given →
      Gives spec (label :: value :: words) ((p.name, .text value) :: given)
  | joined {label value : Text} {p : Parameter} {words : List Text} {given : List (Text × Datum)} :
      spec.labelled? label = some p → p.shape = .option → Gives spec words given →
      Gives spec ((label ++ '=' :: value) :: words) ((p.name, .text value) :: given)
  | switch {label : Text} {p : Parameter} {words : List Text} {given : List (Text × Datum)} :
      spec.labelled? label = some p → p.shape = .switch → Gives spec words given →
      Gives spec (label :: words) ((p.name, .boolean true) :: given)

section words

variable {spec : Spec} {label : Text} {p : Parameter} {words : List Text} {line : Line}

theorem labelled?_eq_some (found : spec.labelled? label = some p) :
    p ∈ spec.parameters ∧ p.label = label ∧ (p.shape = .option ∨ p.shape = .switch) := by
  have holds := List.find?_some found
  simp only [Bool.decide_and, Bool.decide_or, Bool.and_eq_true, Bool.or_eq_true, decide_eq_true_eq] at holds
  exact ⟨List.mem_of_find?_eq_some found, holds.2, holds.1⟩

theorem Spec.Labelled.of_labelled? (labelled : spec.Labelled) (found : spec.labelled? label = some p) :
    ∃ c others, label = '-' :: '-' :: c :: others ∧ '=' ∉ label := by
  obtain ⟨member, rfl, shape⟩ := labelled?_eq_some found
  obtain ⟨hyphens, long, free⟩ := labelled p member shape
  match same : p.label with
  | [] | [_] | [_, _] => simp [same] at long
  | a :: b :: c :: others =>
    rw [same] at hyphens
    cases hyphens
    exact ⟨c, others, rfl, same ▸ free⟩

/-- What a parameter is given on a command line: an option a text, and a switch that it is on. -/
inductive Parameter.Accepts (p : Parameter) : Datum → Prop where
  | option (value : Text) : p.shape = .option → Accepts p (.text value)
  | switch : p.shape = .switch → Accepts p (.boolean true)

/-- The label in a word, and the value behind its equals sign. -/
def labelOf (word : Text) : Text × Option Text :=
  match Text.splitFirst '=' word with
  | some (label, value) => (label, some value)
  | none => (word, none)

/-- What comes of a parameter whose label stands in a word, with the value behind the equals sign if there is one. -/
def Parameter.meet (p : Parameter) (label : Text) (line : Line) (value : Option Text) : Except Ending (Line × Option Parameter) :=
  match p.shape, value with
  | .option, some value => .ok (line.give p (.text value), none)
  | .option, none => .ok (line, some p)
  | _, some _ => .error (.misused none ("Option '".toList ++ label ++ "' does not take a value.".toList))
  | _, none => .ok (line.give p (.boolean true), none)

theorem readOption_of_known {word : Text} {value : Option Text} (parts : labelOf word = (label, value))
    (found : spec.labelled? label = some p) (line : Line) : readOption spec word line = p.meet label line value := by
  unfold labelOf at parts
  cases split : Text.splitFirst '=' word <;> rw [split] at parts <;> cases parts <;> simp only [readOption, split, found] <;> rfl

theorem readOption_of_unknown {word : Text} {value : Option Text} (parts : labelOf word = (label, value))
    (unknown : spec.labelled? label = none) (line : Line) :
    readOption spec word line =
      .error (unknownOption spec (if word.take 2 = ['-', '-'] then label else word.take 2)) := by
  unfold labelOf at parts
  cases split : Text.splitFirst '=' word <;> rw [split] at parts <;> cases parts <;> simp only [readOption, split, unknown] <;>
    split <;> rfl

/-- An option is refused, waits for the next word, or gives something; what there is does not matter for it. -/
theorem readOption_cases (spec : Spec) (word : Text) :
    (∃ ending, ∀ line, readOption spec word line = .error ending) ∨
    (∃ p ∈ spec.parameters, p.shape = .option ∧ ∀ line, readOption spec word line = .ok (line, some p)) ∨
    ∃ p ∈ spec.parameters, ∃ datum, p.Accepts datum ∧ ∀ line, readOption spec word line = .ok (line.give p datum, none) := by
  rcases parts : labelOf word with ⟨label, value⟩
  cases found : spec.labelled? label with
  | none => exact .inl ⟨_, readOption_of_unknown parts found⟩
  | some p =>
    obtain ⟨member, -, shape⟩ := labelled?_eq_some found
    have reads := readOption_of_known parts found
    rcases shape with shape | shape <;> cases value <;> simp only [Parameter.meet, shape] at reads
    · exact .inr (.inl ⟨p, member, shape, reads⟩)
    · exact .inr (.inr ⟨p, member, _, .option _ shape, reads⟩)
    · exact .inr (.inr ⟨p, member, _, .switch shape, reads⟩)
    · exact .inl ⟨_, reads⟩

/-- What is read behind some words does not depend on them. -/
theorem readWords_from (waiting : Option Parameter) (words : List Text) (line : Line) :
    readWords spec waiting words line = (readWords spec waiting words ⟨[], []⟩).map fun found =>
      ⟨line.given ++ found.given, line.words ++ found.words⟩ := by
  induction words generalizing waiting line with
  | nil =>
    cases waiting with
    | none => simp [readWords, Except.map]
    | some p => rfl
  | cons word words ih =>
    -- what a step leaves is put in front of what the other words give
    have step (waiting : Option Parameter) (given : List (Text × Datum)) (left : List Text) :
        readWords spec waiting words ⟨line.given ++ given, line.words ++ left⟩ =
          (readWords spec waiting words ⟨given, left⟩).map fun found => ⟨line.given ++ found.given, line.words ++ found.words⟩ := by
      rw [ih _ ⟨given, left⟩, ih]
      cases readWords spec waiting words ⟨[], []⟩ <;> simp [Except.map]
    cases waiting with
    | some p =>
      have given := step none [(p.name, .text word)] []
      rw [List.append_nil] at given
      exact given
    | none =>
      unfold readWords
      by_cases apart : word = ['-', '-']
      · simp [apart, Except.map]
      · rw [if_neg apart, if_neg apart]
        by_cases option : word.head? = some '-' ∧ 1 < word.length
        · rw [if_pos option, if_pos option]
          obtain ⟨ending, refused⟩ | ⟨p, -, -, waits⟩ | ⟨p, -, datum, -, gives⟩ := readOption_cases spec word
          · rw [refused, refused]
            rfl
          · rw [waits, waits]
            exact ih (some p) line
          · rw [gives, gives]
            have given := step none [(p.name, datum)] []
            rw [List.append_nil] at given
            exact given
        · rw [if_neg option, if_neg option]
          by_cases mixed : spec.mixed
          · rw [if_pos mixed, if_pos mixed]
            have given := step none [] [word]
            rw [List.append_nil] at given
            exact given
          · rw [if_neg mixed, if_neg mixed]
            simp [Except.map]

def Spec.Allows (spec : Spec) (entry : Text × Datum) : Prop := ∃ p ∈ spec.parameters, p.name = entry.1 ∧ p.Accepts entry.2

theorem allows_give {datum : Datum} (allowed : ∀ entry ∈ line.given, spec.Allows entry) (member : p ∈ spec.parameters)
    (accepts : p.Accepts datum) : ∀ entry ∈ (line.give p datum).given, spec.Allows entry := by
  simp only [Line.give, List.forall_mem_append, List.forall_mem_singleton]
  exact ⟨allowed, p, member, rfl, accepts⟩

theorem readWords_allows {waiting : Option Parameter} {found : Line} (reads : readWords spec waiting words line = .ok found)
    (waits : ∀ p, waiting = some p → p ∈ spec.parameters ∧ p.shape = .option)
    (allowed : ∀ entry ∈ line.given, spec.Allows entry) : ∀ entry ∈ found.given, spec.Allows entry := by
  induction words generalizing waiting line with
  | nil =>
    cases waiting with
    | none =>
      cases reads
      exact allowed
    | some p => cases reads
  | cons word words ih =>
    have none {p : Parameter} (waiting : Option.none = some p) : p ∈ spec.parameters ∧ p.shape = .option := by cases waiting
    cases waiting with
    | some p =>
      obtain ⟨member, shape⟩ := waits p rfl
      exact ih reads (fun _ => none) (allows_give allowed member (.option word shape))
    | none =>
      unfold readWords at reads
      split at reads
      · cases reads
        exact allowed
      · split at reads
        · obtain ⟨ending, refused⟩ | ⟨p, member, shape, waits⟩ | ⟨p, member, datum, accepts, gives⟩ := readOption_cases spec word
          · rw [refused] at reads
            cases reads
          · rw [waits] at reads
            exact ih reads (fun _ same => Option.some.inj same ▸ ⟨member, shape⟩) allowed
          · rw [gives] at reads
            exact ih reads (fun _ => none) (allows_give allowed member accepts)
        · split at reads
          · exact ih reads (fun _ => none) allowed
          · cases reads
            exact allowed

theorem Spec.read_allows {found : Line} (reads : spec.read words = .ok found) : ∀ entry ∈ found.given, spec.Allows entry := by
  refine readWords_allows reads ?_ ?_
  · rintro p ⟨⟩
  · rintro entry ⟨⟩

theorem readWords_label {word : Text} {c : Char} {others : Text} (form : word = '-' :: '-' :: c :: others) {found : Line × Option Parameter}
    (read : readOption spec word line = .ok found) : readWords spec none (word :: words) line = readWords spec found.2 words found.1 := by
  subst form
  rw [readWords, if_neg (by simp), if_pos (by simp), read]
  rfl

section labelled

variable (labelled : spec.Labelled) (found : spec.labelled? label = some p)

include labelled found

theorem readWords_value (shape : p.shape = .option) (value : Text) :
    readWords spec none (label :: value :: words) line = readWords spec none words (line.give p (.text value)) := by
  obtain ⟨c, others, form, free⟩ := labelled.of_labelled? found
  have read := readOption_of_known (by rw [labelOf, Text.splitFirst_free free]) found line
  simp only [Parameter.meet, shape] at read
  exact readWords_label form read

theorem readWords_joined (shape : p.shape = .option) (value : Text) :
    readWords spec none ((label ++ '=' :: value) :: words) line = readWords spec none words (line.give p (.text value)) := by
  obtain ⟨c, others, form, free⟩ := labelled.of_labelled? found
  have read := readOption_of_known (by rw [labelOf, Text.splitFirst_joined value free]) found line
  simp only [Parameter.meet, shape] at read
  exact readWords_label (congrArg (· ++ '=' :: value) form) read

theorem readWords_switch (shape : p.shape = .switch) :
    readWords spec none (label :: words) line = readWords spec none words (line.give p (.boolean true)) := by
  obtain ⟨c, others, form, free⟩ := labelled.of_labelled? found
  have read := readOption_of_known (by rw [labelOf, Text.splitFirst_free free]) found line
  simp only [Parameter.meet, shape] at read
  exact readWords_label form read

end labelled

theorem Spec.Gives.readWords {given : List (Text × Datum)} (gives : spec.Gives words given) (labelled : spec.Labelled)
    (more : List Text) (line : Line) :
    readWords spec none (words ++ more) line = readWords spec none more { line with given := line.given ++ given } := by
  induction gives generalizing line with
  | nil => simp
  | value found shape gives ih =>
    rw [List.cons_append, List.cons_append, readWords_value labelled found shape, ih]
    simp [Line.give]
  | joined found shape gives ih =>
    rw [List.cons_append, readWords_joined labelled found shape, ih]
    simp [Line.give]
  | switch found shape gives ih =>
    rw [List.cons_append, readWords_switch labelled found shape, ih]
    simp [Line.give]

end words

end Command

end ParseKit
