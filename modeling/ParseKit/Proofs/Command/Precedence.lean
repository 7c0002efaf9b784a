import ParseKit.Proofs.Command.Loading
import ParseKit.Proofs.Command.Options
import ParseKit.Proofs.Command.Words

/-!
Where the toolkit and its commands have their settings from. Main statement: an option is decided by the command line, else by
the table of the configuration, else by its own default, and the place of the option that names the configuration makes no
difference.
-/

namespace ParseKit

namespace Logging

variable (s : Storage) (time : Text)

theorem level_start (name : Text) : ((start s time).logger name).level = if Logger.key name = Logger.root then .warning else 0 := by
  rw [logger, start, Keyed.get?_cons]
  split <;> rfl

/-- Only the level of the root is set. -/
theorem effectiveLevel_start (name : Text) : (start s time).effectiveLevel name = .warning := by
  have ends : Logger.root ∈ Logger.ancestry (Logger.key name) := by
    rw [Logger.ancestry]
    split <;> simp
  rw [effectiveLevel]
  cases found : ((Logger.ancestry (Logger.key name)).map fun name => ((start s time).logger name).level).find? (· ≠ 0) with
  | none =>
    have unset := List.find?_eq_none.mp found _ (List.mem_map_of_mem ends)
    rw [level_start] at unset
    exact absurd unset (by decide)
  | some level =>
    obtain ⟨other, -, same⟩ := List.mem_map.mp (List.mem_of_find?_eq_some found)
    have set := List.find?_some found
    rw [level_start] at same
    split at same
    · exact same.symm
    · rw [← same] at set
      cases set

theorem logAll_start {records : List LogRecord} (below : ∀ record ∈ records, record.level < .warning) :
    (start s time).logAll records = start s time := by
  induction records with
  | nil => rfl
  | cons record records ih =>
    obtain ⟨here, later⟩ := List.forall_mem_cons.mp below
    have unheard : (start s time).log record = start s time := by
      have passes : (start s time).passes { record with logger := Logger.key record.logger } = false := by
        rw [passes, effectiveLevel_start]
        simp [Int.not_le.mpr here]
      simp only [log, passes]
      rfl
    have step : (start s time).logAll (record :: records) = ((start s time).log record).logAll records := rfl
    rw [step, unheard, ih later]

end Logging

namespace Command

namespace Toolkit

open Toml (Datum Table)

/-- The parameter that names the configuration file. -/
def loader : Parameter := configParameter "pcomb".toList Config.standardPath

section spec

variable (version : Text)

theorem spec_named : (spec version).Named := by
  have names : (spec version).parameters.map (·.name) = ["config".toList, "log_level".toList, "log_folder".toList, "stdout".toList,
    "version".toList, "help".toList] := rfl
  rw [Spec.Named, names]
  decide +kernel

theorem mem_spec {p : Parameter} (member : p ∈ (spec version).parameters) :
    ¬ p.isRequired ∧ (p = loader ∨ p.action = none ∨ ∃ text, p.action = some (.show text) ∧ p.shape = .switch ∧ p.kind = .switch) := by
  simp only [spec, List.mem_cons, List.not_mem_nil, or_false] at member
  rcases member with rfl | rfl | rfl | rfl | rfl | rfl
  · exact ⟨Bool.false_ne_true, .inl rfl⟩
  · exact ⟨Bool.false_ne_true, .inr (.inl rfl)⟩
  · exact ⟨Bool.false_ne_true, .inr (.inl rfl)⟩
  · exact ⟨Bool.false_ne_true, .inr (.inl rfl)⟩
  · exact ⟨Bool.false_ne_true, .inr (.inr ⟨_, rfl, rfl, rfl⟩)⟩
  · exact ⟨Bool.false_ne_true, .inr (.inr ⟨_, rfl, rfl, rfl⟩)⟩

theorem loader_mem : loader ∈ (spec version).parameters := List.mem_cons_self

theorem spec_labelled : (spec version).Labelled := by
  have labels : ∀ label ∈ ["--config".toList, "--log-level".toList, "--log-folder".toList, "--stdout".toList, "--version".toList,
      "--help".toList], label.take 2 = ['-', '-'] ∧ 2 < label.length ∧ '=' ∉ label := by decide +kernel
  have same : (spec version).parameters.map (·.label) = ["--config".toList, "--log-level".toList, "--log-folder".toList,
    "--stdout".toList, "--version".toList, "--help".toList] := rfl
  intro p member _
  exact labels p.label (same ▸ List.mem_map_of_mem member)

end spec

/-- The table that the configuration file of a line holds for the toolkit; it is empty if no file is read. -/
structure Uses (s : Storage) (line : Line) (path : Text) (table : Table) : Prop where
  chosen : loader.convert s ((line.last? loader.name).getD (.text Config.standardPath)) = .ok (.text path)
  held : (Config.Ignored s path ∧ table = []) ∨
    (Config.Considered s path ∧ Config.Provides Toml.decode s "pcomb".toList path table)

section loading

variable {version : Text} {s : Storage} {line : Line} {path : Text} {table : Table}

theorem offers_overlay {table : Table} (distinct : Keyed.Distinct table) : Offers (some (.table (Keyed.overlay [] table))) table := by
  intro name
  rw [offers_table _ name, distinct.get?_overlay, Keyed.get?_nil, Option.or_none]

theorem given_loader : (spec version).given line loader.name = line.last? loader.name :=
  (spec_named version).given_option (loader_mem version) (by decide)

theorem read_chosen (chosen : loader.convert s ((line.last? loader.name).getD (.text Config.standardPath)) = .ok (.text path)) :
    loader.read (spec version) s ((spec version).given line loader.name) ⟨none, []⟩ =
      loader.act (spec version) s ⟨none, []⟩ (.loadTable "pcomb".toList Toml.decode) (.text path) := by
  have source : loader.source (line.last? loader.name) [] = some ((line.last? loader.name).getD (.text Config.standardPath)) := by
    rw [Parameter.source]
    cases line.last? loader.name <;> rfl
  have taken : loader.setting? (spec version) s ((spec version).given line loader.name) none = .ok (some (.text path)) := by
    rw [given_loader, Parameter.setting?_of_offers offers_none, source, Option.mapM, chosen]
    exact Parameter.settle_of_optional (by decide) _
  simp only [Parameter.read, taken]
  rfl

theorem act_ignored (ignored : Config.Ignored s path) :
    loader.act (spec version) s ⟨none, []⟩ (.loadTable "pcomb".toList Toml.decode) (.text path) = ([], .ok ⟨none, []⟩) := by
  have loading := Config.load_ignored ignored Toml.decode "pcomb".toList none
  simp only [Parameter.act, Settings.table?, loading]
  rfl

theorem act_provided (considered : Config.Considered s path) (provides : Config.Provides Toml.decode s "pcomb".toList path table) :
    loader.act (spec version) s ⟨none, []⟩ (.loadTable "pcomb".toList Toml.decode) (.text path) =
      ((Config.load Toml.decode s "pcomb".toList path none).records, .ok ⟨some (.table (Keyed.overlay [] table)), []⟩) := by
  obtain ⟨accepted, merged⟩ := Config.load_provided considered provides none
  simp only [Parameter.act, Settings.table?, accepted, merged]
  rfl

theorem read_loader (version : Text) (uses : Uses s line path table) :
    ∃ records settings, loader.read (spec version) s ((spec version).given line loader.name) ⟨none, []⟩ = (records, .ok settings) ∧
      Offers settings.defaults table := by
  rw [read_chosen uses.chosen]
  rcases uses.held with ⟨ignored, rfl⟩ | ⟨considered, provides⟩
  · exact ⟨_, _, act_ignored ignored, offers_none⟩
  · exact ⟨_, _, act_provided considered provides, offers_overlay (provides.distinct Toml.decode_distinct)⟩

end loading

section accepted

variable {version : Text} {s : Storage} {line : Line} {path : Text} {table : Table} {settings : Settings}
  {records : List LogRecord} {rest : List Text}

theorem table_get? (offers : Offers settings.defaults table) (name : Text) : settings.table.get? name = table.get? name := by
  have looked := offers name
  rw [Settings.table, Settings.table?]
  cases defaults : settings.defaults with
  | none =>
    rw [defaults] at looked
    exact Except.ok.inj looked
  | some datum =>
    rw [defaults] at looked
    cases datum with
    | table table' => exact Except.ok.inj looked
    | _ => cases looked

theorem offers_entry {entry : Option Datum} {entries : Table} (given : entry.getD (.table []) = .table entries) :
    Offers entry entries := by
  cases entry with
  | none =>
    cases given
    exact offers_none
  | some datum =>
    cases given
    exact offers_table entries

/-- Each option that does nothing when it is read has its setting from the line, else from a table, else by its own default. -/
def TakesFrom (spec : Spec) (s : Storage) (line : Line) (table : Table) (settings : Settings) : Prop :=
  ∀ p ∈ spec.parameters, p.action = none → ¬ p.isRequired →
    (p.source (line.last? p.name) table).mapM (p.convert s) = .ok (settings.get? p.name)

theorem settings_of_uses (uses : Uses s line path table)
    (reads : (spec version).settings s line none = (records, .ok (settings, rest))) :
    TakesFrom (spec version) s line table settings ∧ ∀ name, settings.table.get? name = table.get? name := by
  have only : ∀ p ∈ (spec version).parameters, ∀ name decode, p.action = some (.loadTable name decode) → p = loader := by
    intro p member name decode loading
    obtain ⟨-, same | plain | ⟨text, shows, -⟩⟩ := mem_spec version member
    · exact same
    · cases plain.symm.trans loading
    · cases shows.symm.trans loading
  obtain ⟨_, loaded, read, kept, taken⟩ := (spec_named version).settings_loaded (loader_mem version) rfl only reads
  obtain ⟨_, loaded', read', offers⟩ := read_loader version uses
  cases read.symm.trans read'
  refine ⟨fun p member plain optional => ?_, table_get? (kept ▸ offers)⟩
  have settled := taken p member plain
  rw [(spec_named version).given_option member optional, Parameter.setting?_of_offers offers] at settled
  exact Parameter.settle_eq_ok settled

theorem idle_of_actions {spec : Spec} {actions : List (Option Action)} (listed : spec.parameters.map (·.action) = actions)
    (idle : ∀ name decode, some (.loadTable name decode) ∉ actions) :
    ∀ p ∈ spec.parameters, ∀ name decode, p.action ≠ some (.loadTable name decode) := by
  intro p member name decode loads
  have among : p.action ∈ actions := listed ▸ List.mem_map_of_mem member
  exact idle name decode (loads ▸ among)

theorem command_specs {name : String} {work : Work} (member : (name, work) ∈ commands) :
    work.spec.Named ∧ ∀ p ∈ work.spec.parameters, ∀ name decode, p.action ≠ some (.loadTable name decode) := by
  simp only [commands, List.mem_cons, Prod.mk.injEq, List.not_mem_nil, or_false] at member
  rcases member with ⟨-, rfl⟩ | ⟨-, rfl⟩
  · have names : Evaluate.spec.parameters.map (·.name) = ["grammar".toList, "expressions".toList, "help".toList] := rfl
    have actions : Evaluate.spec.parameters.map (·.action) = [none, none, some (.show evaluatePage)] := rfl
    refine ⟨?_, idle_of_actions actions (by simp)⟩
    rw [Spec.Named, names]
    decide +kernel
  · have names : Match.spec.parameters.map (·.name) = ["use_regex".toList, "pattern".toList, "input_".toList, "help".toList] := rfl
    have actions : Match.spec.parameters.map (·.action) = [none, none, none, some (.show matchPage)] := rfl
    refine ⟨?_, idle_of_actions actions (by simp)⟩
    rw [Spec.Named, names]
    decide +kernel

theorem lookup_commands {name : String} {work : Work} (member : (name, work) ∈ commands) :
    commands.lookup (String.ofList name.toList) = some work := by
  simp only [commands, List.mem_cons, Prod.mk.injEq, List.not_mem_nil, or_false] at member
  rcases member with ⟨rfl, rfl⟩ | ⟨rfl, rfl⟩ <;> rfl

/-- A command is run with settings as soon as logging has been set up. -/
def RunsWith (version : Text) (settings : Settings) (name : Text) (words : List Text) (command : Work) (s : Storage)
    (records : List LogRecord) (own : Settings) : Prop :=
  ∀ l l' made handler, setup settings = .ok made → l.configure made = (l', .ok handler) → l'.output.storage = s →
    dispatch version settings (name :: words) l = command.run own (l'.logAll records)

theorem runsWith_of_settings (version : Text) {name : String} {work : Work} (member : (name, work) ∈ commands)
    {words : List Text} {own : Settings}
    (reads : work.spec.settingsOnly s words (settings.table.get? name.toList) = (records, .ok own)) :
    RunsWith version settings name.toList words work s records own := by
  rintro l l' made handler setUp configured rfl
  rw [dispatch_of_setup (lookup_commands member) setUp configured, work_of_settings reads]

theorem settingsOnly_eq_ok {spec : Spec} {words : List Text} {defaults : Option Datum}
    (reads : spec.settingsOnly s words defaults = (records, .ok settings)) (read : spec.read words = .ok line) :
    spec.settings s line defaults = (records, .ok (settings, [])) := by
  rw [Spec.settingsOnly, read] at reads
  simp only at reads
  split at reads <;> cases reads
  assumption

theorem settings_of_entry {name : String} {work : Work} (member : (name, work) ∈ commands) {words : List Text}
    {entry : Option Datum} {entries : Table} (given : entry.getD (.table []) = .table entries)
    (read : work.spec.read words = .ok line) (reads : work.spec.settingsOnly s words entry = (records, .ok settings)) :
    TakesFrom work.spec s line entries settings := by
  intro p inSpec plain optional
  obtain ⟨named, idle⟩ := command_specs member
  have settled := named.settings_idle idle (settingsOnly_eq_ok reads read) inSpec plain
  rw [named.given_option inSpec optional, Parameter.setting?_of_offers (offers_entry given)] at settled
  exact Parameter.settle_eq_ok settled

end accepted

section unheard

variable {spec : Spec} {s : Storage} {given : Text → Option Datum}

theorem read_records (spec : Spec) (s : Storage) (p : Parameter) (datum : Option Datum) (settings : Settings) :
    ∀ record ∈ (p.read spec s datum settings).1, record.level < .warning := by
  unfold Parameter.read
  split
  · simp
  · simp
  · split
    · unfold Parameter.act
      split
      · exact fun record member => Config.load_records _ _ _ _ _ record member
      · simp
      · simp
    · simp

theorem readParameters_records (ps : List Parameter) (settings : Settings) :
    ∀ record ∈ (readParameters spec s given ps settings).1, record.level < .warning := by
  induction ps generalizing settings with
  | nil => simp [readParameters]
  | cons p ps ih =>
    have first := read_records spec s p (given p.name) settings
    rw [readParameters]
    rcases same : p.read spec s (given p.name) settings with ⟨records, result⟩
    rw [same] at first
    cases result with
    | error ending => exact first
    | ok between => exact List.forall_mem_append.mpr ⟨first, ih between⟩

end unheard

section position

variable {version : Text} {s : Storage} {line : Line} {path : Text} {table : Table}

/-- At the start nothing is heard of the reading of the parameters. -/
theorem run_start {words : List Text} (nonempty : words ≠ []) (reads : (spec version).read words = .ok line) (time : Text) :
    run version words (.start s time) = match ((spec version).settings s line none).2 with
      | .error ending => (.start s time, .error ending)
      | .ok (settings, rest) => dispatch version settings rest (.start s time) := by
  have unheard : (Logging.start s time).logAll ((spec version).settings s line none).1 = .start s time :=
    Logging.logAll_start s time fun record member => readParameters_records _ _ record member
  have storage : (Logging.start s time).output.storage = s := rfl
  rcases same : (spec version).settings s line none with ⟨records, ending | ⟨settings, rest⟩⟩ <;>
    rw [same] at unheard <;> simp only [run, if_neg nonempty, reads, storage, same, unheard]

theorem last?_accepts {spec : Spec} (named : spec.Named) (allowed : ∀ entry ∈ line.given, spec.Allows entry) {p : Parameter}
    (member : p ∈ spec.parameters) (given : p.name ∈ line.given.map Prod.fst) :
    ∃ datum, line.last? p.name = some datum ∧ p.Accepts datum := by
  cases last : line.last? p.name with
  | none =>
    obtain ⟨entry, inGiven, same⟩ := List.mem_map.mp given
    exact absurd same.symm (bne_iff_ne.mp (List.lookup_eq_none_iff.mp last entry (List.mem_reverse.mpr inGiven)))
  | some datum =>
    obtain ⟨before, after, split, -⟩ := List.lookup_eq_some_iff.mp last
    have inGiven : (p.name, datum) ∈ line.given := List.mem_reverse.mp (split ▸ by simp)
    obtain ⟨q, member', same, accepts⟩ := allowed _ inGiven
    rw [List.inj_on_of_nodup_map named member' member same] at accepts
    exact ⟨datum, rfl, accepts⟩

/-- An option that answers is on if it is given, and then it answers whatever the settings are. -/
theorem read_answer (allowed : ∀ entry ∈ line.given, (spec version).Allows entry) {p : Parameter} {text : Text}
    (member : p ∈ (spec version).parameters) (shows : p.action = some (.show text)) (shape : p.shape = .switch)
    (kind : p.kind = .switch) (given : p.name ∈ line.given.map Prod.fst) (settings : Settings) :
    p.read (spec version) s ((spec version).given line p.name) settings = ([], .error (.answered text)) := by
  have optional := (mem_spec version member).1
  obtain ⟨datum, last, accepts⟩ := last?_accepts (spec_named version) allowed member given
  cases accepts with
  | option value isOption => cases shape.symm.trans isOption
  | switch =>
    have converted : p.convert s (.boolean true) = .ok (.switch true) := by
      rw [Parameter.convert, shape, kind]
      rfl
    have taken : p.setting? (spec version) s (some (.boolean true)) settings.defaults = .ok (some (.switch true)) := by
      rw [Parameter.setting?_given, converted]
      exact Parameter.settle_of_optional optional _
    rw [(spec_named version).given_option member optional, last, Parameter.read, taken]
    simp only [shows]
    rfl

theorem run_moved {before option after : List Text} {given : List (Text × Datum)} {datum : Datum}
    (reads : (spec version).read (before ++ option ++ after) = .ok line) (uses : Uses s line path table)
    (gives : (spec version).Gives before given) (names : (spec version).Gives option [(loader.name, datum)])
    (apart : loader.name ∉ given.map Prod.fst) (time : Text) :
    run version (option ++ before ++ after) (.start s time) = run version (before ++ option ++ after) (.start s time) := by
  have labelled := spec_labelled version
  have nonempty : option ≠ [] := by
    rintro rfl
    cases names
  have allowed := Spec.read_allows reads
  have first : (spec version).read (before ++ option ++ after) =
      readWords (spec version) none after ⟨given ++ [(loader.name, datum)], []⟩ := by
    rw [Spec.read, List.append_assoc, gives.readWords labelled, names.readWords labelled]
    rfl
  have second : (spec version).read (option ++ before ++ after) =
      readWords (spec version) none after ⟨(loader.name, datum) :: given, []⟩ := by
    rw [Spec.read, List.append_assoc, names.readWords labelled, gives.readWords labelled]
    rfl
  rw [readWords_from] at first second
  cases found : readWords (spec version) none after ⟨[], []⟩ with
  | error ending =>
    rw [first, found] at reads
    cases reads
  | ok found' =>
    have first' : (spec version).read (before ++ option ++ after) =
        .ok ⟨given ++ (loader.name, datum) :: found'.given, found'.words⟩ := by
      rw [first, found]
      simp [Except.map]
    have second' : (spec version).read (option ++ before ++ after) =
        .ok ⟨(loader.name, datum) :: (given ++ found'.given), found'.words⟩ := by
      rw [second, found]
      simp [Except.map]
    cases reads.symm.trans first'
    have sameSettings : ((spec version).settings s ⟨(loader.name, datum) :: (given ++ found'.given), found'.words⟩ none).2 =
        ((spec version).settings s ⟨given ++ (loader.name, datum) :: found'.given, found'.words⟩ none).2 := by
      refine (spec_named version).settings_moved (loader_mem version) rfl apart ?_ fun q member acts inGiven => ?_
      · obtain ⟨records, settings, read, -⟩ := read_loader version uses
        exact ⟨records, settings, read⟩
      · obtain ⟨-, rfl | plain | ⟨text, shows, shape, kind⟩⟩ := mem_spec version member
        · exact absurd inGiven apart
        · rw [plain] at acts
          cases acts
        · have given' : q.name ∈ (given ++ (loader.name, datum) :: found'.given).map Prod.fst := by
            rw [List.map_append]
            exact List.mem_append_left _ inGiven
          exact ⟨_, read_answer allowed member shows shape kind given'⟩
    rw [run_start (by simp [nonempty]) first', run_start (by simp [nonempty]) second', sameSettings]

end position

section demo

def demoText : Text := "[pcomb]\nstdout = true\nlog_level = 'ERROR'\n[pcomb.eval]\ngrammar = 'chain'\n".toList

def demoStorage : Storage := Config.demoStorage (Utf8.encode demoText)

def demoTable : Table :=
  [("stdout".toList, .boolean true), ("log_level".toList, .text "ERROR".toList),
    ("eval".toList, .table [("grammar".toList, .text "chain".toList)])]

def demoLine : Line :=
  ⟨[("log_level".toList, .text "INFO".toList), ("config".toList, .text "demo.toml".toList)], ["eval".toList, ['1']]⟩

theorem read_demo (version : Text) :
    (spec version).read ["--log-level".toList, "INFO".toList, "--config".toList, "demo.toml".toList, "eval".toList, ['1']] = .ok demoLine := by
  unfold spec
  generalize toolkitPage version = page
  cbv

theorem uses_demo : Uses demoStorage demoLine "demo.toml".toList demoTable := by
  have there : demoStorage.exists? "demo.toml".toList = .ok true := by cbv
  have considered : Config.Considered demoStorage "demo.toml".toList := ⟨there, by decide +kernel⟩
  have chosen : loader.convert demoStorage ((demoLine.last? loader.name).getD (.text Config.standardPath)) =
      .ok (.text "demo.toml".toList) := by cbv
  have read : demoStorage.read "demo.toml".toList = .ok (Utf8.encode demoText) := by cbv
  have decoded : Utf8.decode? (Utf8.encode demoText) = .ok demoText := by cbv
  have given : Toml.ofText demoText = .ok [("pcomb".toList, .table demoTable)] := by cbv
  exact ⟨chosen, .inr ⟨considered, _, _, read, (Toml.Decoding.document decoded given).eq, Keyed.get?_cons ..⟩⟩

def demoSettings : Settings :=
  ⟨some (.table (Keyed.overlay [] demoTable)), [("log_level".toList, .text "INFO".toList), ("stdout".toList, .switch true)]⟩

/-- The other parameters, in the order in which the line has them read. -/
def demoOthers (version : Text) : List Parameter := (spec version).parameters.drop 4 ++ ((spec version).parameters.drop 1).take 3

theorem order_demo (version : Text) : (spec version).order demoLine = loader :: demoOthers version := by
  unfold demoOthers spec
  generalize toolkitPage version = page
  cbv

theorem others_demo (version : Text) :
    readParameters (spec version) demoStorage ((spec version).given demoLine) (demoOthers version)
      ⟨some (.table (Keyed.overlay [] demoTable)), []⟩ = ([], .ok demoSettings) := by
  have given : (spec version).given demoLine = demoLine.last? := rfl
  rw [given]
  unfold demoOthers spec
  generalize toolkitPage version = page
  cbv

theorem settings_demo (version : Text) :
    ∃ records, (spec version).settings demoStorage demoLine none = (records, .ok (demoSettings, ["eval".toList, ['1']])) := by
  obtain ⟨considered, provides⟩ := uses_demo.held.resolve_left (by rintro ⟨-, empty⟩; cases empty)
  rw [Spec.settings_eq, order_demo, readParameters, read_chosen uses_demo.chosen, act_provided considered provides]
  simp only [others_demo]
  exact ⟨_, rfl⟩

def demoCommandSettings : Settings :=
  ⟨some (.table [("grammar".toList, .text "chain".toList)]), [("expressions".toList, .texts [['1']]), ("grammar".toList, .text "chain".toList)]⟩

theorem settings_command_demo :
    Evaluate.spec.settingsOnly demoStorage [['1']] (demoSettings.table.get? "eval".toList) = ([], .ok demoCommandSettings) := by
  unfold Evaluate.spec
  generalize evaluatePage = page
  cbv

end demo

/-- With a configuration that is a table, or with none, the options of an accepted line have their settings from the line, else
from the table, else by their own defaults, and the run goes on with these settings. The same holds for the commands, each
with the entry under its name as its table, so that no other entry matters for it; and it is with these settings that the
command is run. Nor does it make a difference where the option that names the configuration stands among the options in front
of it. -/
theorem options_take_precedence (version : Text) {s : Storage} {words : List Text} {line : Line} {path : Text} {table : Table}
    (reads : (spec version).read words = .ok line) (uses : Uses s line path table) :
    (∀ records settings rest, (spec version).settings s line none = (records, .ok (settings, rest)) →
      TakesFrom (spec version) s line table settings ∧
      (∀ time, words ≠ [] → run version words (.start s time) = dispatch version settings rest (.start s time)) ∧
      ∀ name work words' line' s' entries records' settings', (name, work) ∈ commands →
        (table.get? name.toList).getD (.table []) = .table entries → work.spec.read words' = .ok line' →
        work.spec.settingsOnly s' words' (settings.table.get? name.toList) = (records', .ok settings') →
        TakesFrom work.spec s' line' entries settings' ∧
          RunsWith version settings name.toList words' work s' records' settings') ∧
    ∀ before option after given datum time, words = before ++ option ++ after → (spec version).Gives before given →
      (spec version).Gives option [(loader.name, datum)] → loader.name ∉ given.map Prod.fst →
      run version (option ++ before ++ after) (.start s time) = run version words (.start s time) := by
  refine ⟨fun records settings rest accepted => ?_, ?_⟩
  · obtain ⟨own, defaults⟩ := settings_of_uses uses accepted
    refine ⟨own, fun time nonempty => by rw [run_start nonempty reads, accepted], ?_⟩
    intro name work words' line' s' entries records' settings' member entry read accepted'
    have runs := runsWith_of_settings version member accepted'
    rw [defaults] at accepted'
    exact ⟨settings_of_entry member entry read accepted', runs⟩
  · rintro before option after given datum time rfl gives names apart
    exact run_moved reads uses gives names apart time

/-- A level from the line, a stream from the file, a folder by default, and a grammar from the table of the command. -/
theorem line_before_file_before_default :
    let before := ["--log-level".toList, "INFO".toList]
    let option := ["--config".toList, "demo.toml".toList]
    let after := ["eval".toList, ['1']]
    let start := Logging.start demoStorage []
    TakesFrom (spec Version.released) demoStorage demoLine demoTable demoSettings ∧
    (demoSettings.get? "log_level".toList = some (.text "INFO".toList) ∧ demoSettings.get? "stdout".toList = some (.switch true) ∧
      demoSettings.get? "log_folder".toList = none) ∧
    TakesFrom Evaluate.spec demoStorage ⟨[], [['1']]⟩ [("grammar".toList, .text "chain".toList)] demoCommandSettings ∧
    demoCommandSettings.get? "grammar".toList = some (.text "chain".toList) ∧
    run Version.released (option ++ before ++ after) start = run Version.released (before ++ option ++ after) start := by
  intro before option after start
  obtain ⟨accepts, moves⟩ := options_take_precedence Version.released (read_demo _) uses_demo
  obtain ⟨records, accepted⟩ := settings_demo Version.released
  obtain ⟨own, -, others⟩ := accepts _ _ _ accepted
  have read : Evaluate.spec.read [['1']] = .ok ⟨[], [['1']]⟩ := by
    unfold Evaluate.spec
    generalize evaluatePage = page
    cbv
  obtain ⟨evaluates, -⟩ := others "eval" ⟨Evaluate.spec, Evaluate.run⟩ _ _ _ _ _ _ List.mem_cons_self rfl read settings_command_demo
  have level : (spec Version.released).labelled? "--log-level".toList = some (spec Version.released).parameters[1] := rfl
  have file : (spec Version.released).labelled? "--config".toList = some loader := rfl
  have apart : loader.name ∉ ["log_level".toList] := by decide +kernel
  have moved := moves before option after _ _ [] rfl (.value level rfl .nil) (.value file rfl .nil) apart
  refine ⟨own, ⟨?_, ?_, ?_⟩, evaluates, ?_, moved⟩
  · cbv
  · cbv
  · cbv
  · cbv

end Toolkit

end Command

end ParseKit
