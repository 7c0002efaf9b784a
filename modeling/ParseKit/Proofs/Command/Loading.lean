import Mathlib
import ParseKit.Command.Toolkit
import ParseKit.Proofs.Command.Options
import ParseKit.Proofs.Toml.Distinct

/-!
Configurations and the defaults that they are laid over. Main statements: a configuration is merged completely or not at
all, and what is wrong with one is told as a wrong call of the command exactly if it is no document or lacks the table.
-/

namespace ParseKit

namespace Keyed

variable {α : Type}

theorem mem_of_get? {entries : Keyed α} {name : Text} {value : α} (found : get? entries name = some value) :
    (name, value) ∈ entries := by
  obtain ⟨before, after, rfl, -⟩ := List.lookup_eq_some_iff.mp found
  simp

end Keyed

namespace Config

/-- Nothing is read from a path where nothing stands, nor from the one that stands for nothing. -/
def Ignored (s : Storage) (path : Text) : Prop := s.exists? path = .ok false ∨ (s.exists? path = .ok true ∧ path = nowhere)

/-- Something stands at a path that does not stand for nothing. -/
def Considered (s : Storage) (path : Text) : Prop := s.exists? path = .ok true ∧ path ≠ nowhere

/-- A path leads to a document with a table under a name. -/
def Provides (decode : Toml.Decoder) (s : Storage) (name path : Text) (table : Toml.Table) : Prop :=
  ∃ content document, s.read path = .ok content ∧ decode content = .ok document ∧ document.get? name = some (.table table)

theorem path_cases (s : Storage) (path : Text) : Ignored s path ∨ Considered s path ∨ ∃ fault, s.exists? path = .error fault := by
  cases looked : s.exists? path with
  | error fault => exact .inr (.inr ⟨fault, rfl⟩)
  | ok there =>
    cases there with
    | false => exact .inl (.inl looked)
    | true =>
      by_cases same : path = nowhere
      · exact .inl (.inr ⟨looked, same⟩)
      · exact .inr (.inl ⟨looked, same⟩)

section tables

variable {decode : Toml.Decoder} {s : Storage} {name path : Text} {table : Toml.Table} {content : List UInt8}

theorem tableOf_eq_ok {document : Toml.Table} : tableOf name path document = .ok table ↔ document.get? name = some (.table table) := by
  unfold tableOf
  split <;> simp_all

theorem mapError_eq_ok {ε ε' α : Type} {e : Except ε α} {change : ε → ε'} {a : α} : e.mapError change = .ok a ↔ e = .ok a := by
  cases e <;> simp [Except.mapError]

theorem tableAt_of_read (read : s.read path = .ok content) :
    tableAt decode s name path = (decode content).mapError (.ofTrouble path) >>= tableOf name path := by
  rw [tableAt, read]
  rfl

theorem tableAt_of_document {document : Toml.Table} (read : s.read path = .ok content) (decoded : decode content = .ok document) :
    tableAt decode s name path = tableOf name path document := by
  rw [tableAt_of_read read, decoded]
  rfl

theorem tableAt_of_trouble {trouble : Toml.Trouble} (read : s.read path = .ok content) (decoded : decode content = .error trouble) :
    tableAt decode s name path = .error (.ofTrouble path trouble) := by
  rw [tableAt_of_read read, decoded]
  rfl

theorem tableAt_eq_ok : tableAt decode s name path = .ok table ↔ Provides decode s name path table := by
  constructor
  · intro given
    obtain ⟨content, read, given⟩ := Run.except_bind_eq_ok given
    obtain ⟨document, decoded, given⟩ := Run.except_bind_eq_ok given
    exact ⟨content, document, mapError_eq_ok.mp read, mapError_eq_ok.mp decoded, tableOf_eq_ok.mp given⟩
  · rintro ⟨content, document, read, decoded, found⟩
    rw [tableAt_of_document read decoded]
    exact tableOf_eq_ok.mpr found

theorem Provides.distinct (provides : Provides decode s name path table) (distinct : decode.Distinct) : Keyed.Distinct table := by
  obtain ⟨content, document, -, decoded, found⟩ := provides
  cases distinct _ _ decoded with
  | table names tables =>
    cases tables _ (Keyed.mem_of_get? found) with
    | table names tables => exact names

end tables

section load

variable {decode : Toml.Decoder} {s : Storage} {name path : Text} {table : Toml.Table}

theorem load_ignored (ignored : Ignored s path) (decode : Toml.Decoder) (name : Text) (defaults : Option Toml.Table) :
    load decode s name path defaults = ⟨[], defaults, none⟩ := by
  rcases ignored with absent | ⟨there, rfl⟩
  · simp only [load, absent]
    rfl
  · simp only [load, there, or_true, if_true]

theorem load_unknown {fault : Fault} (unknown : s.exists? path = .error fault) (decode : Toml.Decoder) (name : Text)
    (defaults : Option Toml.Table) : load decode s name path defaults = ⟨[], defaults, some (.fault fault)⟩ := by
  simp only [load, unknown]

theorem load_refusal (considered : Considered s path) {refusal : Refusal} (refused : tableAt decode s name path = .error refusal)
    (defaults : Option Toml.Table) :
    (load decode s name path defaults).refusal = some refusal ∧ (load decode s name path defaults).defaults = defaults := by
  simp [load, considered.1, considered.2, refused]

theorem load_provided (considered : Considered s path) (provides : Provides decode s name path table)
    (defaults : Option Toml.Table) :
    (load decode s name path defaults).refusal = none ∧
      (load decode s name path defaults).defaults = some ((defaults.getD []).overlay table) := by
  simp [load, considered.1, considered.2, tableAt_eq_ok.mpr provides]

theorem load_records (decode : Toml.Decoder) (s : Storage) (name path : Text) (defaults : Option Toml.Table) :
    ∀ record ∈ (load decode s name path defaults).records, record.level < .warning := by
  have below (message : Text) : (record message).level < .warning := (by decide : Level.info < Level.warning)
  unfold load
  split
  · simp
  · split
    · simp
    · split <;> simp [below]

end load

/-- A configuration is merged completely or not at all, whatever decodes it. What is seen not to be there changes nothing; a
table is laid over the older defaults, so that a key has its value from the table or else the older one, and no other key has
any; and in all other cases the configuration is refused and the defaults are what they were. That is also so where it cannot
be seen whether something is there: the fault of looking is the refusal, although nothing stands at such a path. -/
theorem merges_or_leaves {decode : Toml.Decoder} (distinct : decode.Distinct) (s : Storage) (name path : Text)
    (defaults : Option Toml.Table) :
    let loading := load decode s name path defaults
    (Ignored s path → loading.refusal = none ∧ loading.defaults = defaults) ∧
    (∀ table, Considered s path → Provides decode s name path table → loading.refusal = none ∧
      ∃ merged, loading.defaults = some merged ∧
        ∀ key, merged.get? key = (table.get? key).or ((defaults.getD []).get? key)) ∧
    (Considered s path → (∀ table, ¬ Provides decode s name path table) →
      ∃ refusal, loading.refusal = some refusal ∧ loading.defaults = defaults) ∧
    (∀ fault, s.exists? path = .error fault → loading.refusal = some (.fault fault) ∧ loading.defaults = defaults) ∧
    (Ignored s path ∨ Considered s path ∨ ∃ fault, s.exists? path = .error fault) ∧
    (s.exists? path = .ok true ↔ s.has path = true) := by
  intro loading
  refine ⟨fun ignored => ?_, fun table considered provides => ?_, fun considered none => ?_, fun fault unknown => ?_,
    path_cases s path, Storage.exists?_iff_has⟩
  · rw [show loading = _ from load_ignored ignored decode name defaults]
    exact ⟨rfl, rfl⟩
  · obtain ⟨accepted, merged⟩ := load_provided considered provides defaults
    exact ⟨accepted, _, merged, (provides.distinct distinct).get?_overlay _⟩
  · cases refused : tableAt decode s name path with
    | ok table => exact absurd (tableAt_eq_ok.mp refused) (none table)
    | error refusal => exact ⟨refusal, load_refusal considered refused defaults⟩
  · rw [show loading = _ from load_unknown unknown decode name defaults]
    exact ⟨rfl, rfl⟩

def demoContent : List UInt8 := Utf8.encode "[demo]\nalpha = 'new'\n".toList

def demoStorage (content : List UInt8) : Storage := Storage.fresh.create ["tmp".toList, "work".toList, "demo.toml".toList] content

/-- A key of the table is changed, another one kept, and no other key comes in. -/
theorem demo_merges :
    let old : Toml.Table := [("alpha".toList, .text "old".toList), ("beta".toList, .integer 2)]
    ∃ merged, (load Toml.decode (demoStorage demoContent) "demo".toList "demo.toml".toList (some old)).defaults = some merged ∧
      merged.get? "alpha".toList = some (.text "new".toList) ∧ merged.get? "beta".toList = some (.integer 2) ∧
      merged.get? "gamma".toList = none := by
  intro old
  have there : (demoStorage demoContent).exists? "demo.toml".toList = .ok true := by cbv
  have considered : Considered (demoStorage demoContent) "demo.toml".toList := ⟨there, by decide +kernel⟩
  have decoded : Utf8.decode? demoContent = .ok "[demo]\nalpha = 'new'\n".toList := by cbv
  have given : Toml.ofText "[demo]\nalpha = 'new'\n".toList =
      .ok [("demo".toList, .table [("alpha".toList, .text "new".toList)])] := by cbv
  have read : (demoStorage demoContent).read "demo.toml".toList = .ok demoContent := by cbv
  have provides : Provides Toml.decode (demoStorage demoContent) "demo".toList "demo.toml".toList
      [("alpha".toList, .text "new".toList)] :=
    ⟨demoContent, _, read, (Toml.Decoding.document decoded given).eq, Keyed.get?_cons ..⟩
  obtain ⟨-, merges, -⟩ :=
    merges_or_leaves Toml.decode_distinct (demoStorage demoContent) "demo".toList "demo.toml".toList (some old)
  obtain ⟨-, merged, same, found⟩ := merges _ considered provides
  refine ⟨merged, same, ?_, ?_, ?_⟩
  · rw [found]
    cbv
  · rw [found]
    cbv
  · rw [found]
    cbv

/-- A content is a document with a table under a name. -/
def HasTable (decode : Toml.Decoder) (name : Text) (content : List UInt8) : Prop :=
  ∃ document table, decode content = .ok document ∧ document.get? name = some (.table table)

/-- A content is no document, or one with nothing under a name. -/
inductive Lacking (decode : Toml.Decoder) (name : Text) (content : List UInt8) : Prop where
  | malformed : decode content = .error .malformed → Lacking decode name content
  | absent {document : Toml.Table} : decode content = .ok document → document.get? name = none → Lacking decode name content

/-- The decoder fails on a content, or there is something else than a table under a name. -/
inductive Faulty (decode : Toml.Decoder) (name : Text) (content : List UInt8) : Fault → Prop where
  | undecoded {fault : Fault} : decode content = .error (.fault fault) → Faulty decode name content fault
  | noTable {document : Toml.Table} {datum : Toml.Datum} : decode content = .ok document → document.get? name = some datum →
      (∀ table, datum ≠ .table table) → Faulty decode name content .typeCheck

section contents

variable {decode : Toml.Decoder} {s : Storage} {name path : Text} {content : List UInt8}

theorem Lacking.refused (lacking : Lacking decode name content) (read : s.read path = .ok content) :
    ∃ refusal message, tableAt decode s name path = .error refusal ∧ refusal.message? = some message := by
  cases lacking with
  | malformed malformed => exact ⟨.malformed path, _, tableAt_of_trouble read malformed, rfl⟩
  | @absent document decoded absent =>
    refine ⟨.noSuchTable name path (document.map Prod.fst), _, ?_, rfl⟩
    rw [tableAt_of_document read decoded, tableOf, absent]

theorem Faulty.refused {fault : Fault} (faulty : Faulty decode name content fault) (read : s.read path = .ok content) :
    tableAt decode s name path = .error (.fault fault) := by
  cases faulty with
  | undecoded undecoded => exact tableAt_of_trouble read undecoded
  | @noTable document datum decoded found other =>
    rw [tableAt_of_document read decoded, tableOf, found]
    cases datum with
    | table table => exact absurd rfl (other table)
    | _ => rfl

theorem content_cases (decode : Toml.Decoder) (name : Text) (content : List UInt8) :
    HasTable decode name content ∨ Lacking decode name content ∨ ∃ fault, Faulty decode name content fault := by
  cases decoded : decode content with
  | error trouble =>
    cases trouble with
    | malformed => exact .inr (.inl (.malformed decoded))
    | fault fault => exact .inr (.inr ⟨fault, .undecoded decoded⟩)
  | ok document =>
    cases found : document.get? name with
    | none => exact .inr (.inl (.absent decoded found))
    | some datum =>
      by_cases table : ∃ table, datum = .table table
      · obtain ⟨table, rfl⟩ := table
        exact .inl ⟨document, table, decoded, found⟩
      · exact .inr (.inr ⟨_, .noTable decoded found fun other same => table ⟨other, same⟩⟩)

end contents

end Config

namespace Command

open Config (HasTable Lacking Faulty)

section callback

variable {decode : Toml.Decoder} {s : Storage} {name path : Text} {number : Nat}

theorem read_of_file (found : s.find? path = some (.file number)) : s.read path = .ok (s.bytes number) := by
  unfold Storage.find? at found
  unfold Storage.read
  split at found
  · rename_i location located
    simp only [located, found]
  · cases found

theorem considered_of_file (found : s.find? path = some (.file number)) (real : path ≠ Config.nowhere) :
    Config.Considered s path := ⟨Storage.exists?_iff_has.mpr (by rw [Storage.has, found]; rfl), real⟩

variable (spec : Spec) (p : Parameter) (settings : Settings)

/-- What becomes of the settings when the table of a file is loaded. -/
def loaded (spec : Spec) (p : Parameter) (s : Storage) (settings : Settings) (decode : Toml.Decoder) (name path : Text) :
    Except Ending Settings :=
  (p.act spec s settings (.loadTable name decode) (.text path)).2

theorem loaded_of_hasTable (found : s.find? path = some (.file number)) (real : path ≠ Config.nowhere)
    (hasTable : HasTable decode name (s.bytes number)) : ∃ settings', loaded spec p s settings decode name path = .ok settings' := by
  obtain ⟨document, table, decoded, inside⟩ := hasTable
  have provides : Config.Provides decode s name path table := ⟨_, document, read_of_file found, decoded, inside⟩
  obtain ⟨accepted, -⟩ := Config.load_provided (considered_of_file found real) provides settings.table?
  simp only [loaded, Parameter.act, accepted]
  exact ⟨_, rfl⟩

theorem loaded_of_lacking (found : s.find? path = some (.file number)) (real : path ≠ Config.nowhere)
    (lacking : Lacking decode name (s.bytes number)) :
    ∃ message, loaded spec p s settings decode name path = .error (.badValue spec p.label message) := by
  obtain ⟨refusal, message, refused, told⟩ := lacking.refused (read_of_file found)
  obtain ⟨refused, -⟩ := Config.load_refusal (considered_of_file found real) refused settings.table?
  cases refusal with
  | fault => cases told
  | _ =>
    simp only [loaded, Parameter.act, refused]
    exact ⟨_, rfl⟩

theorem loaded_of_faulty (found : s.find? path = some (.file number)) (real : path ≠ Config.nowhere) {fault : Fault}
    (faulty : Faulty decode name (s.bytes number) fault) : loaded spec p s settings decode name path = .error (.failed fault) := by
  have refused := faulty.refused (read_of_file found)
  obtain ⟨refused, -⟩ := Config.load_refusal (considered_of_file found real) refused settings.table?
  simp only [loaded, Parameter.act, refused]

/-- Whatever decodes it, an existing file is accepted exactly if its content is a document with the table. The call is told to
be wrong exactly if the content is no document or has nothing under the name; and a fault escapes exactly where the decoder
fails, or there is something else than a table under the name. The decoder of texts in UTF-8 fails exactly where the content
is not in UTF-8 or has an integer that is too long. -/
theorem loading_ends (decode : Toml.Decoder) (name : Text) (found : s.find? path = some (.file number))
    (real : path ≠ Config.nowhere) :
    let content := s.bytes number
    let result := loaded spec p s settings decode name path
    ((∃ settings', result = .ok settings') ↔ HasTable decode name content) ∧
    ((∃ message, result = .error (.badValue spec p.label message)) ↔ Lacking decode name content) ∧
    (∀ fault, result = .error (.failed fault) ↔ Faulty decode name content fault) ∧
    (HasTable decode name content ∨ Lacking decode name content ∨ ∃ fault, Faulty decode name content fault) ∧
    ∀ outcome, Toml.decode content = outcome ↔ Toml.Decoding content outcome := by
  intro content result
  have accepted : HasTable decode name content → _ := loaded_of_hasTable spec p settings found real
  have told : Lacking decode name content → _ := loaded_of_lacking spec p settings found real
  have failed {fault : Fault} : Faulty decode name content fault → _ := loaded_of_faulty spec p settings found real
  have cases := Config.content_cases decode name content
  refine ⟨⟨?_, accepted⟩, ⟨?_, told⟩, fun fault => ⟨?_, failed⟩, cases, fun outcome => Toml.decode_eq_iff⟩
  · rintro ⟨settings', given⟩
    rcases cases with hasTable | lacking | ⟨fault, faulty⟩
    · exact hasTable
    · obtain ⟨message, other⟩ := told lacking
      cases given.symm.trans other
    · cases given.symm.trans (failed faulty)
  · rintro ⟨message, given⟩
    rcases cases with hasTable | lacking | ⟨fault, faulty⟩
    · obtain ⟨settings', other⟩ := accepted hasTable
      cases given.symm.trans other
    · exact lacking
    · cases given.symm.trans (failed faulty)
  · intro given
    rcases cases with hasTable | lacking | ⟨fault', faulty⟩
    · obtain ⟨settings', other⟩ := accepted hasTable
      cases given.symm.trans other
    · obtain ⟨message, other⟩ := told lacking
      cases given.symm.trans other
    · cases given.symm.trans (failed faulty)
      exact faulty

end callback

/-- A number in the place of the table is not told. -/
theorem number_for_table_escapes :
    let s := Config.demoStorage (Utf8.encode "demo = 3\n".toList)
    let p := Toolkit.configParameter "demo".toList Config.standardPath
    loaded (Toolkit.spec Version.released) p s ⟨none, []⟩ Toml.decode "demo".toList "demo.toml".toList = .error (.failed .typeCheck) := by
  intro s p
  have found : s.find? "demo.toml".toList = some (.file 0) := by cbv
  have real : "demo.toml".toList ≠ Config.nowhere := by decide +kernel
  have decoded : Utf8.decode? (s.bytes 0) = .ok "demo = 3\n".toList := by cbv
  have given : Toml.ofText "demo = 3\n".toList = .ok [("demo".toList, .integer 3)] := by cbv
  obtain ⟨-, -, faults, -⟩ := loading_ends (Toolkit.spec Version.released) p ⟨none, []⟩ Toml.decode "demo".toList found real
  refine (faults .typeCheck).mpr (.noTable (Toml.Decoding.document decoded given).eq (Keyed.get?_cons ..) ?_)
  rintro table ⟨⟩

/-- Of a content that is not in UTF-8 it is not told that it is no document: its fault escapes. -/
theorem undecodable_content_escapes :
    let spec := Toolkit.spec Version.released
    let p := Toolkit.configParameter "pcomb".toList Config.standardPath
    let result := (p.read spec (Config.demoStorage [0xFF]) (some (.text "demo.toml".toList)) ⟨none, []⟩).2
    result = .error (.failed (.undecodable ⟨0xFF, 0, 1, "invalid start byte"⟩)) ∧
      ∀ message, result ≠ .error (.badValue spec p.label message) := by
  intro spec p result
  have setting : p.setting? spec (Config.demoStorage [0xFF]) (some (.text "demo.toml".toList)) none =
      .ok (some (.text "demo.toml".toList)) := by cbv
  have found : (Config.demoStorage [0xFF]).find? "demo.toml".toList = some (.file 0) := by cbv
  have undecodable : Utf8.decode? [0xFF] = .error ⟨0xFF, 0, 1, "invalid start byte"⟩ := by cbv
  have faulty : Faulty Toml.decode "pcomb".toList [0xFF] (.undecodable ⟨0xFF, 0, 1, "invalid start byte"⟩) :=
    .undecoded (Toml.Decoding.undecodable undecodable).eq
  have ends : result = .error (.failed (.undecodable ⟨0xFF, 0, 1, "invalid start byte"⟩)) := by
    simp only [result, Parameter.read, setting]
    exact loaded_of_faulty spec p ⟨none, []⟩ found (by decide +kernel) faulty
  refine ⟨ends, fun message told => ?_⟩
  rw [ends] at told
  cases told

/-- A name of one letter too many. -/
def longName : Text := List.replicate (Storage.nameLimit + 1) 'a'

theorem exists?_longName : Storage.fresh.exists? longName = .error (.nameTooLong longName) := by
  have located : Storage.fresh.locate longName = .error .tooLong := by decide +kernel
  simp only [Storage.exists?, located]
  rfl

theorem toFile_longName : toFile .fresh (.text longName) = .ok (.text longName) := by
  have noNull : longName.contains '\x00' = false := by decide +kernel
  have noFolder : Storage.fresh.isFolder longName = false := by decide +kernel
  have plain : Path.plain longName = longName := by decide +kernel
  simp only [toFile, noNull, noFolder, plain, Bool.false_eq_true, if_false]

/-- Nothing has a name that is too long, and yet a configuration at such a path is not passed over: it is refused, and the
fault of looking for it escapes from the parameter that names the configuration. -/
theorem long_name_escapes :
    let spec := Toolkit.spec Version.released
    let p := Toolkit.configParameter "pcomb".toList Config.standardPath
    Storage.fresh.has longName = false ∧
      (∀ decode name defaults, Config.load decode .fresh name longName defaults =
        ⟨[], defaults, some (.fault (.nameTooLong longName))⟩) ∧
      p.read spec .fresh (some (.text longName)) ⟨none, []⟩ = ([], .error (.failed (.nameTooLong longName))) := by
  intro spec p
  have setting : p.setting? spec .fresh (some (.text longName)) none = .ok (some (.text longName)) := by
    have converted : p.convert .fresh (.text longName) = .ok (.text longName) := toFile_longName
    rw [Parameter.setting?_given, converted]
    exact Parameter.settle_of_optional (by decide) _
  refine ⟨by decide +kernel, Config.load_unknown exists?_longName, ?_⟩
  have loads : p.action = some (.loadTable "pcomb".toList Toml.decode) := rfl
  simp only [Parameter.read, setting, loads, Parameter.act, Config.load_unknown exists?_longName]

end Command

end ParseKit
