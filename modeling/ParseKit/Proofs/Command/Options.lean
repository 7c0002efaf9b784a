import ParseKit.Command.Setting
import ParseKit.Run
import Mathlib.Data.List.Nodup
import Mathlib.Data.List.Perm.Basic

/-!
How parameters are read. Main statements: parameters that do nothing when they are read leave the defaults alone, and each of
them takes its setting from the command line, else from the defaults, else from its own default; and the order in which
parameters are read has each of them once.
-/

namespace ParseKit

namespace Command

open Toml (Datum Table)

/-- Defaults in which a table is looked up. -/
def Offers (defaults : Option Datum) (table : Table) : Prop := ∀ name, default? defaults name = .ok (table.get? name)

theorem offers_none : Offers none [] := fun _ => rfl

theorem offers_table (table : Table) : Offers (some (.table table)) table := fun _ => rfl

namespace Parameter

/-- The datum that decides about a parameter: from the command line, else from a table of defaults, else its own default. -/
def source (p : Parameter) (given : Option Datum) (table : Table) : Option Datum :=
  given.or ((table.get? p.name).or p.default)

section reading

variable {spec : Spec} {p : Parameter} {s : Storage} {given defaults : Option Datum} {table : Table}
  {settings settings' : Settings} {records : List LogRecord}

/-- The setting that a datum is converted to, unless the command cannot do without one. -/
def settle (spec : Spec) (p : Parameter) : Except Complaint (Option Setting) → Except Ending (Option Setting)
  | .error complaint => .error (complaint.ending spec p)
  | .ok setting =>
    if p.isRequired ∧ setting.all Setting.isEmpty then
      .error (.misused (some spec) ("Missing argument '".toList ++ p.label ++ "'.".toList))
    else .ok setting

theorem settle_eq_ok {converted : Except Complaint (Option Setting)} {taken : Option Setting}
    (settled : settle spec p converted = .ok taken) : converted = .ok taken := by
  cases converted with
  | error complaint => cases settled
  | ok setting =>
    rw [settle] at settled
    split at settled
    · cases settled
    · cases settled
      rfl

theorem settle_of_optional (optional : ¬ p.isRequired) (setting : Option Setting) : settle spec p (.ok setting) = .ok setting :=
  if_neg fun both => optional both.1

theorem setting?_given (datum : Datum) (defaults : Option Datum) :
    p.setting? spec s (some datum) defaults = settle spec p (some <$> p.convert s datum) := by
  dsimp only [setting?, bind, Except.bind]
  cases p.convert s datum <;> rfl

/-- The datum that decides is the only one that is looked at. -/
theorem setting?_of_offers (offers : Offers defaults table) :
    p.setting? spec s given defaults = settle spec p ((p.source given table).mapM (p.convert s)) := by
  cases given with
  | some datum => exact setting?_given datum defaults
  | none =>
    rw [source, Option.none_or]
    dsimp only [setting?, bind, Except.bind]
    rw [offers p.name]
    cases table.get? p.name with
    | some datum => exact setting?_given datum defaults
    | none =>
      cases p.default with
      | some datum => exact setting?_given datum defaults
      | none => rfl

theorem read_plain (plain : p.action = none) (reads : p.read spec s given settings = (records, .ok settings')) :
    records = [] ∧ settings'.defaults = settings.defaults ∧ ∃ taken, p.setting? spec s given settings.defaults = .ok taken ∧
      settings'.values = settings.values ++ (taken.map fun setting => (p.name, setting)).toList := by
  unfold Parameter.read at reads
  cases taken : p.setting? spec s given settings.defaults with
  | error ending =>
    rw [taken] at reads
    cases reads
  | ok setting =>
    rw [taken] at reads
    cases setting with
    | none =>
      cases reads
      exact ⟨rfl, rfl, none, rfl, by simp⟩
    | some setting =>
      simp only [plain] at reads
      cases reads
      exact ⟨rfl, rfl, some setting, rfl, rfl⟩

end reading

end Parameter

section reading

variable {spec : Spec} {s : Storage} {given : Text → Option Datum} {settings settings' : Settings} {records : List LogRecord}

theorem readParameters_cons {p : Parameter} {ps : List Parameter}
    (reads : readParameters spec s given (p :: ps) settings = (records, .ok settings')) :
    ∃ first others between, p.read spec s (given p.name) settings = (first, .ok between) ∧
      readParameters spec s given ps between = (others, .ok settings') ∧ records = first ++ others := by
  unfold readParameters at reads
  split at reads
  · cases reads
  · rename_i first between read
    rcases same : readParameters spec s given ps between with ⟨others, result⟩
    rw [same] at reads
    cases reads
    exact ⟨first, others, between, read, same, rfl⟩

theorem readParameters_append (first second : List Parameter) (settings : Settings) :
    readParameters spec s given (first ++ second) settings =
      match readParameters spec s given first settings with
      | (records, .error ending) => (records, .error ending)
      | (records, .ok between) =>
        ((records ++ (readParameters spec s given second between).1), (readParameters spec s given second between).2) := by
  induction first generalizing settings with
  | nil => rfl
  | cons p ps ih =>
    rw [List.cons_append, readParameters, readParameters]
    rcases p.read spec s (given p.name) settings with ⟨records, result⟩
    cases result with
    | error ending => rfl
    | ok between =>
      simp only [ih]
      rcases readParameters spec s given ps between with ⟨others, result⟩
      cases result with
      | error ending => rfl
      | ok settings' => simp [List.append_assoc]

theorem readParameters_append_ok {first second : List Parameter}
    (reads : readParameters spec s given (first ++ second) settings = (records, .ok settings')) :
    ∃ records' records'' between, readParameters spec s given first settings = (records', .ok between) ∧
      readParameters spec s given second between = (records'', .ok settings') := by
  rw [readParameters_append] at reads
  split at reads
  · cases reads
  · rename_i records' between read
    rcases same : readParameters spec s given second between with ⟨records'', result⟩
    rw [same] at reads
    cases reads
    exact ⟨records', records'', between, read, same⟩

/-- Parameters that do nothing leave the defaults alone. What is under a name that none of them has stays as it was, and
each of them takes what it finds at the start. -/
theorem readParameters_plain {ps : List Parameter} (plain : ∀ p ∈ ps, p.action = none) (distinct : (ps.map (·.name)).Nodup)
    (reads : readParameters spec s given ps settings = (records, .ok settings')) :
    settings'.defaults = settings.defaults ∧
    (∀ name, name ∉ ps.map (·.name) → settings'.get? name = settings.get? name) ∧
    ∀ p ∈ ps, settings.get? p.name = none →
      p.setting? spec s (given p.name) settings.defaults = .ok (settings'.get? p.name) := by
  induction ps generalizing settings records with
  | nil =>
    cases reads
    exact ⟨rfl, fun _ _ => rfl, by simp⟩
  | cons q ps ih =>
    obtain ⟨plainHere, plainLater⟩ := List.forall_mem_cons.mp plain
    obtain ⟨notLater, distinct⟩ := List.nodup_cons.mp distinct
    obtain ⟨first, others, between, read, reads, -⟩ := readParameters_cons reads
    obtain ⟨-, kept, taken, settled, values⟩ := Parameter.read_plain plainHere read
    obtain ⟨keptLater, apart, found⟩ := ih plainLater distinct reads
    have stays (name : Text) : between.get? name = (settings.get? name).or (if name = q.name then taken else none) := by
      rw [Settings.get?, values, Keyed.get?_append]
      cases taken with
      | none => simp [Settings.get?, Keyed.get?_nil]
      | some setting => simp [Settings.get?, Keyed.get?_cons, Keyed.get?_nil]
    refine ⟨keptLater.trans kept, fun name other => ?_, List.forall_mem_cons.mpr ⟨fun free => ?_, fun p member free => ?_⟩⟩
    · obtain ⟨otherHere, otherLater⟩ := not_or.mp (mt List.mem_cons.mpr other)
      rw [apart name otherLater, stays, if_neg otherHere, Option.or_none]
    · rw [settled, apart q.name notLater, stays, free, if_pos rfl, Option.none_or]
    · have other : p.name ≠ q.name := fun same => notLater (List.mem_map.mpr ⟨p, member, same⟩)
      have stillFree : between.get? p.name = none := by rw [stays, free, if_neg other, Option.none_or]
      rw [← kept]
      exact found p member stillFree

end reading

section order

variable {spec : Spec}

/-- No two parameters of a command have the same name. -/
def Spec.Named (spec : Spec) : Prop := (spec.parameters.map (·.name)).Nodup

instance (spec : Spec) : Decidable spec.Named := inferInstanceAs (Decidable (List.Nodup _))

theorem nodup_eraseDups (names : List Text) : names.eraseDups.Nodup := by
  induction bound : names.length using Nat.strongRecOn generalizing names with
  | ind n ih =>
    cases names with
    | nil => simp
    | cons name names =>
      rw [List.eraseDups_cons]
      refine List.nodup_cons.mpr ⟨by simp [List.mem_eraseDups], ih _ ?_ _ rfl⟩
      have short := List.length_filter_le (fun other => !other == name) names
      rw [List.length_cons] at bound
      omega

theorem Spec.Named.find?_eq_some (named : spec.Named) {p : Parameter} {name : Text} :
    spec.parameters.find? (·.name = name) = some p ↔ p ∈ spec.parameters ∧ p.name = name := by
  constructor
  · intro found
    exact ⟨List.mem_of_find?_eq_some found, by simpa using List.find?_some found⟩
  · rintro ⟨member, rfl⟩
    cases found : spec.parameters.find? (·.name = p.name) with
    | none => exact absurd (by simp) (List.find?_eq_none.mp found p member)
    | some q =>
      have same : q.name = p.name := by simpa using List.find?_some found
      rw [List.inj_on_of_nodup_map named (List.mem_of_find?_eq_some found) member same]

theorem Spec.Named.readingOrder_split (named : spec.Named) (given : List Text) :
    ∃ acting plain, spec.readingOrder given = acting ++ plain ∧ acting.Perm (spec.parameters.filter (·.action.isSome)) ∧
      plain.Perm (spec.parameters.filter (·.action.isNone)) := by
  have distinct : spec.parameters.Nodup := named.of_map _
  have once : (given.eraseDups.filterMap fun name => spec.parameters.find? (·.name = name)).Nodup := by
    refine (nodup_eraseDups given).filterMap fun name name' p found found' => ?_
    exact (named.find?_eq_some.mp found).2.symm.trans (named.find?_eq_some.mp found').2
  have first : (given.eraseDups.filterMap fun name => spec.parameters.find? (·.name = name)).Perm
      (spec.parameters.filter fun p => p.name ∈ given) := by
    refine (List.perm_ext_iff_of_nodup once (distinct.filter _)).mpr fun p => ?_
    simp only [List.mem_filterMap, List.mem_eraseDups, named.find?_eq_some, List.mem_filter, decide_eq_true_eq]
    constructor
    · rintro ⟨name, inGiven, member, rfl⟩
      exact ⟨member, inGiven⟩
    · rintro ⟨member, inGiven⟩
      exact ⟨p.name, inGiven, member, rfl⟩
  have whole := List.filter_append_perm (fun p : Parameter => decide (p.name ∈ given)) spec.parameters
  simp only [← decide_not] at whole
  have all := (first.append_right _).trans whole
  exact ⟨_, _, rfl, all.filter _, all.filter _⟩

theorem eraseDups_moved {name : Text} {before : List Text} (apart : name ∉ before) (after : List Text) :
    ∃ others, (before ++ name :: after).eraseDups = before.eraseDups ++ name :: others ∧
      (name :: (before ++ after)).eraseDups = name :: (before.eraseDups ++ others) := by
  refine ⟨((after.removeAll before).filter fun other => !other == name).eraseDups, ?_, ?_⟩
  · have front : (name :: after).removeAll before = name :: after.removeAll before := by simp [List.removeAll, apart]
    rw [List.eraseDups_append, front, List.eraseDups_cons]
  · have kept : before.filter (fun other => !other == name) = before := by
      refine List.filter_eq_self.mpr fun other member => ?_
      simpa using fun same : other = name => apart (same ▸ member)
    have swapped : (after.filter fun other => !other == name).removeAll before =
        (after.removeAll before).filter fun other => !other == name := List.filter_comm _ _ after
    rw [List.eraseDups_cons, List.filter_append, kept, List.eraseDups_append, swapped]

/-- A parameter that acts and is given before some others is read before them, and that is all that changes. -/
theorem Spec.Named.readingOrder_moved (named : spec.Named) {p : Parameter} (member : p ∈ spec.parameters) (acts : p.action.isSome)
    {before : List Text} (apart : p.name ∉ before) (after : List Text) :
    ∃ passed others, (∀ q ∈ passed, q ∈ spec.parameters ∧ q.action.isSome ∧ q.name ∈ before) ∧
      spec.readingOrder (before ++ p.name :: after) = passed ++ p :: others ∧
      spec.readingOrder (p.name :: (before ++ after)) = p :: (passed ++ others) := by
  obtain ⟨names, first, second⟩ := eraseDups_moved apart after
  let pick (names : List Text) := names.filterMap fun name => spec.parameters.find? (·.name = name)
  let missing := spec.parameters.filter fun q => q.name ∉ before ++ p.name :: after
  have found : spec.parameters.find? (·.name = p.name) = some p := named.find?_eq_some.mpr ⟨member, rfl⟩
  have sameMissing : (spec.parameters.filter fun q => q.name ∉ p.name :: (before ++ after)) = missing := by
    refine List.filter_congr fun q _ => ?_
    simp [or_left_comm]
  have notPlain : p.action.isNone = false := by simpa using acts
  refine ⟨(pick before.eraseDups).filter (·.action.isSome), (pick names ++ missing).filter (·.action.isSome) ++
    (pick before.eraseDups ++ (pick names ++ missing)).filter (·.action.isNone), fun q passed => ?_, ?_, ?_⟩
  · obtain ⟨picked, acts⟩ := List.mem_filter.mp passed
    obtain ⟨name, inBefore, found⟩ := List.mem_filterMap.mp picked
    obtain ⟨member, rfl⟩ := named.find?_eq_some.mp found
    exact ⟨member, acts, List.mem_eraseDups.mp inBefore⟩
  · have all : (before ++ p.name :: after).eraseDups.filterMap (fun name => spec.parameters.find? (·.name = name)) ++ missing =
        pick before.eraseDups ++ p :: (pick names ++ missing) := by simp [first, found, pick]
    rw [readingOrder, all]
    simp [acts, notPlain]
  · have all : (p.name :: (before ++ after)).eraseDups.filterMap (fun name => spec.parameters.find? (·.name = name)) ++
        (spec.parameters.filter fun q => q.name ∉ p.name :: (before ++ after)) =
        p :: (pick before.eraseDups ++ (pick names ++ missing)) := by rw [sameMissing]; simp [second, found, pick]
    rw [readingOrder, all]
    simp [acts, notPlain]

end order

section settings

variable {spec : Spec} {s : Storage} {line : Line}

/-- What a line gives for a name: by the place of a word, else by an option. -/
def Spec.given (spec : Spec) (line : Line) (name : Text) : Option Datum :=
  match (placeWords spec.parameters line.words).1.lookup name with
  | some datum => datum
  | none => line.last? name

def Spec.order (spec : Spec) (line : Line) : List Parameter :=
  spec.readingOrder (line.given.map Prod.fst ++ (placeWords spec.parameters line.words).1.map Prod.fst)

theorem Spec.settings_eq (defaults : Option Datum) :
    spec.settings s line defaults =
      let reading := readParameters spec s (spec.given line) (spec.order line) ⟨defaults, []⟩
      (reading.1, reading.2.map fun settings => (settings, (placeWords spec.parameters line.words).2)) := rfl

theorem mem_placeWords {ps : List Parameter} {words : List Text} {name : Text} {datum : Option Datum}
    (placed : (name, datum) ∈ (placeWords ps words).1) : ∃ p ∈ ps, p.name = name ∧ p.isRequired := by
  induction ps generalizing words with
  | nil => cases placed
  | cons p ps ih =>
    have later {words : List Text} (placed : (name, datum) ∈ (placeWords ps words).1) :
        ∃ p' ∈ p :: ps, p'.name = name ∧ p'.isRequired := by
      obtain ⟨p', member, found⟩ := ih placed
      exact ⟨p', List.mem_cons_of_mem p member, found⟩
    have first (required : p.isRequired) {other : Option Datum} {words : List Text}
        (placed : (name, datum) ∈ (p.name, other) :: (placeWords ps words).1) :
        ∃ p' ∈ p :: ps, p'.name = name ∧ p'.isRequired := by
      rcases List.mem_cons.mp placed with same | placed
      · cases same
        exact ⟨p, List.mem_cons_self, rfl, required⟩
      · exact later placed
    unfold placeWords at placed
    split at placed
    · exact first (by simp [Parameter.isRequired, *]) placed
    · exact first (by simp [Parameter.isRequired, *]) placed
    · exact first (by simp [Parameter.isRequired, *]) placed
    · exact later placed

theorem Spec.Named.given_option (named : spec.Named) {p : Parameter} (member : p ∈ spec.parameters)
    (optional : ¬ p.isRequired) : spec.given line p.name = line.last? p.name := by
  have unplaced : (placeWords spec.parameters line.words).1.lookup p.name = none := by
    refine List.lookup_eq_none_iff.mpr fun ⟨name, datum⟩ placed => ?_
    obtain ⟨q, member', same, required⟩ := mem_placeWords placed
    refine bne_iff_ne.mpr fun asked => ?_
    rw [List.inj_on_of_nodup_map named member' member (same.trans asked.symm)] at required
    exact optional required
  rw [Spec.given, unplaced]

theorem Parameter.read_acting {p : Parameter} {action : Action} {given : Option Datum} {settings settings' : Settings}
    {records : List LogRecord} (acts : p.action = some action)
    (reads : p.read spec s given settings = (records, .ok settings')) :
    settings'.values = settings.values ∧ ((∀ name decode, action ≠ .loadTable name decode) → settings' = settings) := by
  unfold Parameter.read at reads
  cases taken : p.setting? spec s given settings.defaults with
  | error ending =>
    rw [taken] at reads
    cases reads
  | ok setting =>
    rw [taken] at reads
    cases setting with
    | none =>
      cases reads
      exact ⟨rfl, fun _ => rfl⟩
    | some setting =>
      simp only [acts, Parameter.act] at reads
      split at reads
      · split at reads
        · cases reads
          exact ⟨rfl, fun other => absurd rfl (other _ _)⟩
        · cases reads
        · cases reads
      · cases reads
      · cases reads
        exact ⟨rfl, fun _ => rfl⟩

theorem readParameters_acting {ps : List Parameter} {given : Text → Option Datum} {settings settings' : Settings}
    {records : List LogRecord} (acts : ∀ p ∈ ps, p.action.isSome)
    (idle : ∀ p ∈ ps, ∀ name decode, p.action ≠ some (.loadTable name decode))
    (reads : readParameters spec s given ps settings = (records, .ok settings')) : settings' = settings := by
  induction ps generalizing settings records with
  | nil =>
    cases reads
    rfl
  | cons p ps ih =>
    obtain ⟨actsHere, actsLater⟩ := List.forall_mem_cons.mp acts
    obtain ⟨idleHere, idleLater⟩ := List.forall_mem_cons.mp idle
    obtain ⟨first, others, between, read, reads, -⟩ := readParameters_cons reads
    obtain ⟨action, acts⟩ := Option.isSome_iff_exists.mp actsHere
    obtain ⟨-, same⟩ := Parameter.read_acting acts read
    exact (ih actsLater idleLater reads).trans (same fun name decode loading => idleHere name decode (acts.trans (congrArg some loading)))

section accepted

variable {settings : Settings} {defaults : Option Datum} {records : List LogRecord} {rest : List Text}

/-- The settings of an accepted line: those that act have left some defaults, and the others take their settings from the
line and these defaults. -/
theorem Spec.Named.settings_split (named : spec.Named)
    (reads : spec.settings s line defaults = (records, .ok (settings, rest))) :
    ∃ acting records between, acting.Perm (spec.parameters.filter (·.action.isSome)) ∧
      readParameters spec s (spec.given line) acting ⟨defaults, []⟩ = (records, .ok between) ∧
      (between.values = [] → settings.defaults = between.defaults ∧ ∀ p ∈ spec.parameters, p.action = none →
        p.setting? spec s (spec.given line p.name) between.defaults = .ok (settings.get? p.name)) := by
  obtain ⟨acting, plain, order, actingPerm, plainPerm⟩ :=
    named.readingOrder_split (line.given.map Prod.fst ++ (placeWords spec.parameters line.words).1.map Prod.fst)
  have run : readParameters spec s (spec.given line) (acting ++ plain) ⟨defaults, []⟩ = (records, .ok settings) := by
    rw [Spec.settings_eq, Spec.order, order] at reads
    rcases same : readParameters spec s (spec.given line) (acting ++ plain) ⟨defaults, []⟩ with ⟨records', result⟩
    rw [same] at reads
    cases result with
    | error ending => cases reads
    | ok settings' =>
      cases reads
      rfl
  obtain ⟨records', records'', between, first, second⟩ := readParameters_append_ok run
  refine ⟨acting, records', between, actingPerm, first, fun empty => ?_⟩
  have idle : ∀ p ∈ plain, p.action = none := fun p member => by simpa using (List.mem_filter.mp (plainPerm.mem_iff.mp member)).2
  have distinct : (plain.map (·.name)).Nodup := ((plainPerm.map _).nodup_iff).mpr (named.sublist (List.filter_sublist.map _))
  obtain ⟨kept, -, taken⟩ := readParameters_plain idle distinct second
  refine ⟨kept, fun p member none => taken p (plainPerm.mem_iff.mpr (List.mem_filter.mpr ⟨member, by simp [none]⟩)) ?_⟩
  rw [Settings.get?, empty, Keyed.get?_nil]

theorem Spec.Named.settings_idle (named : spec.Named)
    (idle : ∀ p ∈ spec.parameters, ∀ name decode, p.action ≠ some (.loadTable name decode))
    (reads : spec.settings s line defaults = (records, .ok (settings, rest))) {p : Parameter} (member : p ∈ spec.parameters)
    (plain : p.action = none) : p.setting? spec s (spec.given line p.name) defaults = .ok (settings.get? p.name) := by
  obtain ⟨acting, records, between, perm, first, taken⟩ := named.settings_split reads
  have acts : ∀ p ∈ acting, p ∈ spec.parameters ∧ p.action.isSome := fun p member => List.mem_filter.mp (perm.mem_iff.mp member)
  have same := readParameters_acting (fun p member => (acts p member).2) (fun p member => idle p (acts p member).1) first
  rw [same] at taken
  exact (taken rfl).2 p member plain

theorem Spec.Named.settings_loaded (named : spec.Named) {loader : Parameter} (loads : loader ∈ spec.parameters)
    (acts : loader.action.isSome)
    (only : ∀ p ∈ spec.parameters, ∀ name decode, p.action = some (.loadTable name decode) → p = loader)
    (reads : spec.settings s line defaults = (records, .ok (settings, rest))) :
    ∃ records between, loader.read spec s (spec.given line loader.name) ⟨defaults, []⟩ = (records, .ok between) ∧
      settings.defaults = between.defaults ∧ ∀ p ∈ spec.parameters, p.action = none →
        p.setting? spec s (spec.given line p.name) between.defaults = .ok (settings.get? p.name) := by
  obtain ⟨acting, records, between, perm, first, taken⟩ := named.settings_split reads
  have once : acting.Nodup := perm.nodup_iff.mpr ((named.of_map _).filter _)
  obtain ⟨before, after, rfl⟩ := List.append_of_mem (perm.mem_iff.mpr (List.mem_filter.mpr ⟨loads, acts⟩))
  obtain ⟨notBefore, notAfter⟩ : loader ∉ before ∧ loader ∉ after := by
    have apart := List.nodup_append.mp once
    exact ⟨fun member => apart.2.2 _ member _ List.mem_cons_self rfl, (List.nodup_cons.mp apart.2.1).1⟩
  have within (p : Parameter) (member : p ∈ before ++ loader :: after) : p ∈ spec.parameters ∧ p.action.isSome :=
    List.mem_filter.mp (perm.mem_iff.mp member)
  obtain ⟨_, _, start, readBefore, reads⟩ := readParameters_append_ok first
  obtain ⟨records, _, loaded, read, readAfter, -⟩ := readParameters_cons reads
  have other {p : Parameter} (member : p ∈ before ++ loader :: after) (apart : p ≠ loader) (name : Text)
      (decode : Toml.Decoder) : p.action ≠ some (.loadTable name decode) :=
    fun loading => apart (only p (within p member).1 name decode loading)
  have beginning := readParameters_acting (fun p member => (within p (by simp [member])).2)
    (fun p member => other (by simp [member]) fun same => notBefore (same ▸ member)) readBefore
  have ending := readParameters_acting (fun p member => (within p (by simp [member])).2)
    (fun p member => other (by simp [member]) fun same => notAfter (same ▸ member)) readAfter
  rw [beginning] at read
  rw [ending] at taken
  obtain ⟨action, acts⟩ := Option.isSome_iff_exists.mp acts
  exact ⟨records, loaded, read, taken (Parameter.read_acting acts read).1⟩

end accepted

section moved

variable {p : Parameter} {datum : Datum} {before after : List (Text × Datum)} {words : List Text} {defaults : Option Datum}

theorem Line.last?_moved {name : Text} (apart : name ∉ before.map Prod.fst) (asked : Text) :
    Line.last? ⟨before ++ (name, datum) :: after, words⟩ asked = Line.last? ⟨(name, datum) :: (before ++ after), words⟩ asked := by
  simp only [Line.last?, List.reverse_append, List.reverse_cons, List.append_assoc, List.lookup_append]
  by_cases same : asked = name
  · have absent : before.reverse.lookup asked = none := by
      refine List.lookup_eq_none_iff.mpr fun entry member => bne_iff_ne.mpr fun equal => apart ?_
      exact List.mem_map.mpr ⟨entry, List.mem_reverse.mp member, equal.symm.trans same⟩
    simp [absent]
  · simp [List.lookup_cons, beq_eq_false_iff_ne.mpr same]

/-- It makes no difference where a parameter that acts stands among others that are given, if it does not end the command and
those of the others that act do, each in its own way. -/
theorem Spec.Named.settings_moved (named : spec.Named) (member : p ∈ spec.parameters) (acts : p.action.isSome)
    (apart : p.name ∉ before.map Prod.fst) :
    let line : Line := ⟨before ++ (p.name, datum) :: after, words⟩
    let line' : Line := ⟨(p.name, datum) :: (before ++ after), words⟩
    (∃ records settings, p.read spec s (spec.given line p.name) ⟨defaults, []⟩ = (records, .ok settings)) →
    (∀ q ∈ spec.parameters, q.action.isSome → q.name ∈ before.map Prod.fst →
      ∃ ending, ∀ settings, q.read spec s (spec.given line q.name) settings = ([], .error ending)) →
    (spec.settings s line' defaults).2 = (spec.settings s line defaults).2 := by
  rintro line line' ⟨records, settings, reads⟩ ends
  have sameGiven : spec.given line' = spec.given line := by
    funext name
    simp only [Spec.given, line, line', Line.last?_moved apart]
  obtain ⟨passed, others, passes, order, order'⟩ := named.readingOrder_moved member acts apart
    (after.map Prod.fst ++ (placeWords spec.parameters words).1.map Prod.fst)
  have first : spec.order line = passed ++ p :: others := by
    rw [← order]
    simp [Spec.order, line]
  have second : spec.order line' = p :: (passed ++ others) := by
    rw [← order']
    simp [Spec.order, line']
  rw [Spec.settings_eq, Spec.settings_eq, first, second, sameGiven]
  cases passed with
  | nil => rfl
  | cons q passed =>
    -- the first parameter that is passed ends the command, before and after
    obtain ⟨member', acts', given⟩ := passes q List.mem_cons_self
    obtain ⟨ending, ends⟩ := ends q member' acts' given
    have stops (qs : List Parameter) (settings : Settings) :
        readParameters spec s (spec.given line) (q :: qs) settings = ([], .error ending) := by rw [readParameters, ends]
    have later : readParameters spec s (spec.given line) (p :: (q :: passed ++ others)) ⟨defaults, []⟩ = (records, .error ending) := by
      rw [readParameters, reads]
      simp only [List.cons_append, stops, List.append_nil]
    rw [later, List.cons_append, stops]

end moved

end settings

end Command

end ParseKit
