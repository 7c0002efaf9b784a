import ParseKit.Run
import ParseKit.Toml.Decoder

/-!
Tables with different keys. Main statement: no table of a document that has been decoded has a key twice.
-/

namespace ParseKit

namespace Keyed

variable {α : Type} {entries : Keyed α}

def Distinct (entries : Keyed α) : Prop := (entries.map Prod.fst).Nodup

theorem Distinct.nil : Distinct ([] : Keyed α) := List.nodup_nil

theorem distinct_cons {name : Text} {value : α} :
    Distinct ((name, value) :: entries) ↔ name ∉ entries.map Prod.fst ∧ Distinct entries := List.nodup_cons

theorem get?_of_not_mem {name : Text} (other : name ∉ entries.map Prod.fst) : get? entries name = none := by
  rw [get?, List.lookup_eq_none_iff]
  rintro ⟨key, value⟩ member
  exact bne_iff_ne.mpr fun same => other (List.mem_map.mpr ⟨_, member, same.symm⟩)

theorem Distinct.get?_reverse (distinct : Distinct entries) (name : Text) : get? entries.reverse name = get? entries name := by
  induction entries with
  | nil => rfl
  | cons entry entries ih =>
    obtain ⟨key, value⟩ := entry
    obtain ⟨apart, others⟩ := distinct_cons.mp distinct
    rw [List.reverse_cons, get?_append, ih others, get?_cons, get?_cons, get?_nil]
    by_cases same : name = key
    · subst same
      simp [get?_of_not_mem apart]
    · simp [same]

theorem Distinct.get?_overlay {new : Keyed α} (distinct : Distinct new) (old : Keyed α) (name : Text) :
    get? (overlay old new) name = (get? new name).or (get? old name) := by
  rw [Keyed.get?_overlay, distinct.get?_reverse]

end Keyed

namespace Toml

/-- No table in a datum has a key twice. -/
inductive Datum.Distinct : Datum → Prop where
  | text (s : Text) : Distinct (.text s)
  | integer (n : Int) : Distinct (.integer n)
  | float (x : Binary64) : Distinct (.float x)
  | boolean (b : Bool) : Distinct (.boolean b)
  | moment (m : Moment) : Distinct (.moment m)
  | array {items : List Datum} : (∀ item ∈ items, Distinct item) → Distinct (.array items)
  | table {entries : List (Text × Datum)} : Keyed.Distinct entries → (∀ entry ∈ entries, Distinct entry.2) →
      Distinct (.table entries)

namespace Draft

inductive Distinct : Draft → Prop where
  | closed {datum : Datum} : datum.Distinct → Distinct (.closed datum)
  | table {origin : Origin} {entries : Entries} : Keyed.Distinct entries → (∀ entry ∈ entries, Distinct entry.2) →
      Distinct (.table origin entries)
  | tables {done : List Datum} {last : Entries} : (∀ datum ∈ done, datum.Distinct) → Keyed.Distinct last →
      (∀ entry ∈ last, Distinct entry.2) → Distinct (.tables done last)

structure Entries.Distinct (entries : Entries) : Prop where
  names : Keyed.Distinct entries
  drafts : ∀ entry ∈ entries, entry.2.Distinct

section finish

variable {entries : Entries}

theorem names_finishEntries (entries : Entries) : (finishEntries entries).map Prod.fst = entries.map Prod.fst := by
  induction entries with
  | nil => rfl
  | cons entry entries ih => simpa [finishEntries] using ih

mutual

theorem Distinct.finish : {draft : Draft} → draft.Distinct → draft.finish.Distinct
  | .closed _, .closed distinct => distinct
  | .table .., .table names drafts => finishTable names drafts
  | .tables done last, .tables finished names drafts => by
    refine .array fun item member => ?_
    rcases List.mem_append.mp member with member | member
    · exact finished item member
    · cases List.mem_singleton.mp member
      exact finishTable names drafts

theorem finishTable : {entries : Entries} → Keyed.Distinct entries → (∀ entry ∈ entries, entry.2.Distinct) →
    (Datum.table (finishEntries entries)).Distinct
  | entries, names, drafts =>
    .table (by rw [Keyed.Distinct, names_finishEntries]; exact names) (finishEntries_distinct drafts)

theorem finishEntries_distinct : {entries : Entries} → (∀ entry ∈ entries, entry.2.Distinct) →
    ∀ entry ∈ finishEntries entries, entry.2.Distinct
  | [], _ => by rintro _ ⟨⟩
  | (key, draft) :: entries, drafts => by
    obtain ⟨here, others⟩ := List.forall_mem_cons.mp drafts
    exact List.forall_mem_cons.mpr ⟨here.finish, finishEntries_distinct others⟩

end

end finish

section changes

variable {name : Text} {entries entries' : Entries}

theorem Entries.Distinct.nil : Entries.Distinct [] := ⟨Keyed.Distinct.nil, by rintro _ ⟨⟩⟩

theorem Entries.Distinct.table (distinct : Entries.Distinct entries) (origin : Origin) : (Draft.table origin entries).Distinct :=
  .table distinct.names distinct.drafts

theorem Entries.Distinct.finish (distinct : Entries.Distinct entries) : (Datum.table (finishEntries entries)).Distinct :=
  finishTable distinct.names distinct.drafts

theorem mem_names_alter {change : Option Draft → Option Draft} (changed : alter name change entries = some entries')
    {other : Text} (member : other ∈ entries'.map Prod.fst) : other = name ∨ other ∈ entries.map Prod.fst := by
  induction entries generalizing entries' with
  | nil =>
    obtain ⟨draft, -, rfl⟩ := Option.map_eq_some_iff.mp changed
    exact .inl (by simpa using member)
  | cons entry entries ih =>
    obtain ⟨key, draft⟩ := entry
    rw [alter] at changed
    split at changed
    · obtain ⟨new, -, rfl⟩ := Option.map_eq_some_iff.mp changed
      exact .inr member
    · obtain ⟨rest, below, rfl⟩ := Option.map_eq_some_iff.mp changed
      rcases List.mem_cons.mp member with same | member
      · exact .inr (by simp [same])
      · exact (ih below member).imp_right (List.mem_cons_of_mem _)

/-- Keys stay different if what is put behind one of them has different keys. -/
theorem Entries.Distinct.alter {change : Option Draft → Option Draft} (distinct : Entries.Distinct entries)
    (kept : ∀ old new, (∀ draft ∈ old, draft.Distinct) → change old = some new → new.Distinct)
    (changed : alter name change entries = some entries') : Entries.Distinct entries' := by
  induction entries generalizing entries' with
  | nil =>
    obtain ⟨draft, made, rfl⟩ := Option.map_eq_some_iff.mp changed
    exact ⟨by simp [Keyed.Distinct], by simpa using kept none draft (by simp) made⟩
  | cons entry entries ih =>
    obtain ⟨key, draft⟩ := entry
    obtain ⟨apart, names⟩ := Keyed.distinct_cons.mp distinct.names
    obtain ⟨here, drafts⟩ := List.forall_mem_cons.mp distinct.drafts
    rw [Draft.alter] at changed
    split at changed
    · obtain ⟨new, made, rfl⟩ := Option.map_eq_some_iff.mp changed
      have other : new.Distinct := kept (some draft) new (by simpa using here) made
      exact ⟨Keyed.distinct_cons.mpr ⟨apart, names⟩, List.forall_mem_cons.mpr ⟨other, drafts⟩⟩
    · rename_i differs
      obtain ⟨rest, below, rfl⟩ := Option.map_eq_some_iff.mp changed
      have others := ih ⟨names, drafts⟩ below
      have absent : key ∉ rest.map Prod.fst := fun member => (mem_names_alter below member).elim differs apart
      exact ⟨Keyed.distinct_cons.mpr ⟨absent, others.names⟩, List.forall_mem_cons.mpr ⟨here, others.drafts⟩⟩

theorem distinct_of_map_table {made : Option Entries} {origin : Origin} {new : Draft}
    (kept : ∀ entries ∈ made, Entries.Distinct entries) (given : made.map (.table origin) = some new) : new.Distinct := by
  obtain ⟨entries, found, rfl⟩ := Option.map_eq_some_iff.mp given
  exact (kept entries found).table origin

theorem distinct_of_map_tables {made : Option Entries} {done : List Datum} {new : Draft}
    (finished : ∀ datum ∈ done, datum.Distinct) (kept : ∀ entries ∈ made, Entries.Distinct entries)
    (given : made.map (.tables done) = some new) : new.Distinct := by
  obtain ⟨entries, found, rfl⟩ := Option.map_eq_some_iff.mp given
  exact .tables finished (kept entries found).names (kept entries found).drafts

/-- A header passes a table on the way to another one: what is done happens in it, in the last table of an array, or in a
table that is implied. -/
theorem Entries.Distinct.passing {step : Entries → Option Entries} (distinct : Entries.Distinct entries)
    (kept : ∀ {inner inner' : Entries}, Entries.Distinct inner → step inner = some inner' → Entries.Distinct inner')
    (changed : Draft.alter name (fun
      | none => (step []).map (.table .implied)
      | some (.table origin inner) => (step inner).map (.table origin)
      | some (.tables done last) => (step last).map (.tables done)
      | some (.closed _) => none) entries = some entries') : Entries.Distinct entries' := by
  refine distinct.alter (fun old new given made => ?_) changed
  split at made
  · exact distinct_of_map_table (fun _ found => kept .nil found) made
  · cases given _ rfl with
    | table names drafts => exact distinct_of_map_table (fun _ found => kept ⟨names, drafts⟩ found) made
  · cases given _ rfl with
    | tables finished names drafts =>
      exact distinct_of_map_tables finished (fun _ found => kept ⟨names, drafts⟩ found) made
  · cases made

theorem Entries.Distinct.openTable {key : Key} (distinct : Entries.Distinct entries)
    (opened : Draft.openTable key entries = some entries') : Entries.Distinct entries' := by
  induction key generalizing entries entries' with
  | nil => cases opened
  | cons name key ih =>
    cases key with
    | nil =>
      refine distinct.alter (fun old new given made => ?_) opened
      split at made
      · cases made
        exact Entries.Distinct.nil.table .headed
      · cases made
        cases given _ rfl with
        | table names drafts => exact .table names drafts
      · cases made
    | cons next key => exact distinct.passing (fun distinct => ih distinct) opened

theorem Entries.Distinct.appendTable {key : Key} (distinct : Entries.Distinct entries)
    (appended : Draft.appendTable key entries = some entries') : Entries.Distinct entries' := by
  induction key generalizing entries entries' with
  | nil => cases appended
  | cons name key ih =>
    cases key with
    | nil =>
      refine distinct.alter (fun old new given made => ?_) appended
      split at made
      · cases made
        exact .tables (by simp) .nil (by simp)
      · cases made
        cases given _ rfl with
        | tables finished names drafts =>
          refine .tables (fun datum member => ?_) .nil (by simp)
          rcases List.mem_append.mp member with member | member
          · exact finished datum member
          · cases List.mem_singleton.mp member
            exact finishTable names drafts
      · cases made
    | cons next key => exact distinct.passing (fun distinct => ih distinct) appended

theorem Entries.Distinct.insert {part : Nat} {datum : Datum} (whole : datum.Distinct) {key : Key}
    (distinct : Entries.Distinct entries) (inserted : Draft.insert part datum key entries = some entries') :
    Entries.Distinct entries' := by
  induction key generalizing entries entries' with
  | nil => cases inserted
  | cons name key ih =>
    cases key with
    | nil =>
      refine distinct.alter (fun old new given made => ?_) inserted
      split at made
      · cases made
        exact .closed whole
      · cases made
    | cons next key =>
      refine distinct.alter (fun old new given made => ?_) inserted
      split at made
      · exact distinct_of_map_table (fun _ found => ih .nil found) made
      · cases given _ rfl with
        | table names drafts => exact distinct_of_map_table (fun _ found => ih ⟨names, drafts⟩ found) made
      · split at made
        · cases given _ rfl with
          | table names drafts => exact distinct_of_map_table (fun _ found => ih ⟨names, drafts⟩ found) made
        · cases made
      · cases made

theorem Entries.Distinct.insertBelow {part : Nat} {key header : Key} {datum : Datum} (whole : datum.Distinct)
    (distinct : Entries.Distinct entries) (inserted : Draft.insertBelow part key datum header entries = some entries') :
    Entries.Distinct entries' := by
  induction header generalizing entries entries' with
  | nil => exact distinct.insert whole inserted
  | cons name header ih =>
    refine distinct.alter (fun old new given made => ?_) inserted
    split at made
    · cases given _ rfl with
      | table names drafts => exact distinct_of_map_table (fun _ found => ih ⟨names, drafts⟩ found) made
    · cases given _ rfl with
      | tables finished names drafts =>
        exact distinct_of_map_tables finished (fun _ found => ih ⟨names, drafts⟩ found) made
    · cases made

end changes

end Draft

section scalars

variable {s rest : Text} {d : Datum}

theorem moment?_distinct (read : moment? s = some (.ok (d, rest))) : d.Distinct := by
  rw [moment?] at read
  split at read
  · simp only [Option.some.injEq] at read
    split at read
    · cases read
      exact .moment _
    · cases read
  · obtain ⟨⟨time, behind⟩, -, read⟩ := Option.map_eq_some_iff.mp read
    cases read
    exact .moment _

theorem decimal?_distinct (read : decimal? s = some (.ok (d, rest))) : d.Distinct := by
  simp only [decimal?, Option.bind_eq_bind, Option.bind_eq_some_iff] at read
  obtain ⟨⟨whole, behind⟩, -, read⟩ := read
  split at read
  · split at read
    · cases read
    · cases read
      exact .integer _
  · obtain ⟨number, -, read⟩ := Option.bind_eq_some_iff.mp read
    cases read
    exact .float _

theorem number?_distinct (read : number? s = some (.ok (d, rest))) : d.Distinct := by
  simp only [number?] at read
  split at read
  · cases read
    exact .integer _
  · split at read
    · rename_i result given
      cases read
      exact decimal?_distinct given
    · obtain ⟨⟨named, behind⟩, given, read⟩ := Option.map_eq_some_iff.mp read
      cases read
      simp only [named?] at given
      split at given <;> cases given <;> exact .float _

theorem scalar_distinct (read : scalar s = .ok (d, rest)) : d.Distinct := by
  rw [scalar.eq_def] at read
  split at read
  · rename_i result given
    cases result with
    | error flaw => cases read
    | ok text =>
      cases read
      exact .text _
  · split at read
    · cases read
      exact .boolean _
    · cases read
      exact .boolean _
    · split at read
      · rename_i result given
        cases read
        exact moment?_distinct given
      · cases given : number? s with
        | none =>
          rw [given] at read
          cases read
        | some result =>
          rw [given] at read
          cases read
          exact number?_distinct given

end scalars

section readers

/-- What the three readers of data give, up to a number of parts. -/
structure ReadsDistinct (fuel : Nat) : Prop where
  datum {s rest : Text} {d : Datum} : Toml.datum fuel s = .ok (d, rest) → d.Distinct
  items {s rest : Text} {ds : List Datum} : Toml.items fuel s = .ok (ds, rest) → ∀ d ∈ ds, d.Distinct
  entries {s rest : Text} {entries entries' : Draft.Entries} : Draft.Entries.Distinct entries →
    inlineEntries fuel entries s = .ok (entries', rest) → Draft.Entries.Distinct entries'

variable {fuel : Nat} {s rest : Text}

theorem datum_distinct (below : ∀ less < fuel, ReadsDistinct less) {d : Datum} (read : datum fuel s = .ok (d, rest)) :
    d.Distinct := by
  rw [datum.eq_def] at read
  split at read
  · cases read
  · obtain ⟨behind, -, read⟩ := Run.except_bind_eq_ok read
    obtain ⟨⟨items, behind⟩, given, read⟩ := Run.except_bind_eq_ok read
    cases read
    exact .array ((below _ (Nat.lt_succ_self _)).items given)
  · obtain ⟨behind, -, read⟩ := Run.except_bind_eq_ok read
    obtain ⟨⟨entries, behind⟩, given, read⟩ := Run.except_bind_eq_ok read
    cases read
    exact ((below _ (Nat.lt_succ_self _)).entries .nil given).finish
  · exact scalar_distinct read

theorem items_distinct (below : ∀ less < fuel, ReadsDistinct less) {ds : List Datum} (read : items fuel s = .ok (ds, rest)) :
    ∀ d ∈ ds, d.Distinct := by
  rw [items.eq_def] at read
  split at read
  · cases read
  · cases read
    rintro _ ⟨⟩
  · have reads := below _ (Nat.lt_succ_self _)
    obtain ⟨⟨first, behind⟩, given, read⟩ := Run.except_bind_eq_ok read
    obtain ⟨behind, -, read⟩ := Run.except_bind_eq_ok read
    split at read
    · cases read
      exact List.forall_mem_singleton.mpr (reads.datum given)
    · obtain ⟨behind, -, read⟩ := Run.except_bind_eq_ok read
      obtain ⟨⟨others, behind⟩, more, read⟩ := Run.except_bind_eq_ok read
      cases read
      exact List.forall_mem_cons.mpr ⟨reads.datum given, reads.items more⟩
    · cases read

theorem inlineEntries_distinct (below : ∀ less < fuel, ReadsDistinct less) {entries entries' : Draft.Entries}
    (distinct : Draft.Entries.Distinct entries) (read : inlineEntries fuel entries s = .ok (entries', rest)) :
    Draft.Entries.Distinct entries' := by
  rw [inlineEntries.eq_def] at read
  split at read
  · cases read
  · cases read
    exact distinct
  · have reads := below _ (Nat.lt_succ_self _)
    obtain ⟨⟨key, behind⟩, -, read⟩ := Run.except_bind_eq_ok read
    obtain ⟨⟨d, behind⟩, given, read⟩ := Run.except_bind_eq_ok read
    dsimp only at read
    split at read
    · rename_i inserted insertion
      have more := distinct.insert (reads.datum given) insertion
      obtain ⟨behind, -, read⟩ := Run.except_bind_eq_ok read
      split at read
      · cases read
        exact more
      · obtain ⟨behind, -, read⟩ := Run.except_bind_eq_ok read
        exact reads.entries more read
      · cases read
    · cases read

theorem readsDistinct (fuel : Nat) : ReadsDistinct fuel := by
  induction fuel using Nat.strongRecOn with
  | ind fuel below => exact ⟨datum_distinct below, items_distinct below, inlineEntries_distinct below⟩

theorem accept_distinct {p p' : Progress} {entries : Option Draft.Entries}
    (distinct : ∀ given ∈ entries, Draft.Entries.Distinct given) (accepted : accept p entries = .ok p') :
    Draft.Entries.Distinct p'.entries := by
  cases entries with
  | none => cases accepted
  | some entries =>
    cases accepted
    exact distinct entries rfl

theorem statement_distinct {p p' : Progress} (distinct : Draft.Entries.Distinct p.entries)
    (read : statement p s = .ok (p', rest)) : Draft.Entries.Distinct p'.entries := by
  rw [statement.eq_def] at read
  split at read
  · obtain ⟨⟨header, behind⟩, -, read⟩ := Run.except_bind_eq_ok read
    obtain ⟨next, accepted, read⟩ := Run.except_bind_eq_ok read
    split at read
    · cases read
      exact accept_distinct (fun _ appended => distinct.appendTable appended) accepted
    · cases read
  · obtain ⟨⟨header, behind⟩, -, read⟩ := Run.except_bind_eq_ok read
    obtain ⟨next, accepted, read⟩ := Run.except_bind_eq_ok read
    split at read
    · cases read
      exact accept_distinct (fun _ opened => distinct.openTable opened) accepted
    · cases read
  · obtain ⟨⟨key, behind⟩, -, read⟩ := Run.except_bind_eq_ok read
    obtain ⟨⟨d, behind⟩, given, read⟩ := Run.except_bind_eq_ok read
    obtain ⟨next, accepted, read⟩ := Run.except_bind_eq_ok read
    cases read
    exact accept_distinct (fun _ inserted => distinct.insertBelow ((readsDistinct _).datum given) inserted) accepted

theorem lines_distinct {p p' : Progress} (distinct : Draft.Entries.Distinct p.entries) (read : lines fuel p s = .ok p') :
    Draft.Entries.Distinct p'.entries := by
  induction fuel generalizing p s with
  | zero => cases read
  | succ fuel ih =>
    rw [lines] at read
    split at read
    all_goals
      obtain ⟨⟨next, behind⟩, first, read⟩ := Run.except_bind_eq_ok read
      -- a line begins with a statement, or it has none
      have kept : Draft.Entries.Distinct next.entries := by
        first
        | exact statement_distinct distinct first
        | cases first; exact distinct
      obtain ⟨behind, -, read⟩ := Run.except_bind_eq_ok read
      split at read
      · cases read
        exact kept
      · exact ih kept read
      · cases read

/-- No table of a document has a key twice. -/
theorem ofText_distinct {document : Table} (read : ofText s = .ok document) : (Datum.table document).Distinct := by
  obtain ⟨p, given, read⟩ := Run.except_bind_eq_ok read
  cases read
  exact (lines_distinct .nil given).finish

end readers

/-- No table of a document of a decoder has a key twice. -/
def Decoder.Distinct (decode : Decoder) : Prop :=
  ∀ content document, decode content = .ok document → (Datum.table document).Distinct

/-- What a content in UTF-8 is decoded to, and one that is not. -/
inductive Decoding (content : List UInt8) : Except Trouble Table → Prop where
  | document {text : Text} {document : Table} : Utf8.decode? content = .ok text → ofText text = .ok document →
      Decoding content (.ok document)
  | malformed {text : Text} : Utf8.decode? content = .ok text → ofText text = .error .malformed →
      Decoding content (.error .malformed)
  | undecodable {fault : Utf8.Fault} : Utf8.decode? content = .error fault →
      Decoding content (.error (.fault (.undecodable fault)))
  | tooLong {text : Text} {digits : Nat} : Utf8.decode? content = .ok text → ofText text = .error (.integerTooLong digits) →
      Decoding content (.error (.fault (.integerTooLong digits)))

theorem decoding (content : List UInt8) : Decoding content (decode content) := by
  unfold decode
  split
  · rename_i undecodable
    exact .undecodable undecodable
  · rename_i text decoded
    split
    · rename_i read
      exact .document decoded read
    · rename_i malformed
      exact .malformed decoded malformed
    · rename_i tooLong
      exact .tooLong decoded tooLong

theorem Decoding.eq {content : List UInt8} {result : Except Trouble Table} (decodes : Decoding content result) :
    decode content = result := by
  cases decodes with
  | document decoded read => simp only [decode, decoded, read]
  | malformed decoded malformed => simp only [decode, decoded, malformed]
  | undecodable undecodable => simp only [decode, undecodable]
  | tooLong decoded tooLong => simp only [decode, decoded, tooLong]

theorem decode_eq_iff {content : List UInt8} {result : Except Trouble Table} : decode content = result ↔ Decoding content result :=
  ⟨fun same => same ▸ decoding content, Decoding.eq⟩

theorem decode_distinct : Decoder.Distinct decode := by
  intro content document decoded
  cases decode_eq_iff.mp decoded with
  | document _ read => exact ofText_distinct read

end Toml

end ParseKit
