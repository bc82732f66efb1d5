import DocumentStore.Proofs.Database.Queries
import DocumentStore.Proofs.Table.Lookup

/-!
# Operations on the record with an id

With the filter that asks for an id, a query finds the one record that has it, a removal takes out
this record and an update changes it, and the others stay as they are (`ActsOnOne`).  If no record
has the id, all of them do nothing (`ActsOnNone`).
-/

namespace DocumentStore

namespace Table

/-- If the predicates do not fail on any record, the items are the records that they accept. -/
theorem outcomes_eq_filter {predicates : List Predicate} {records : List Record}
    (hnone : firstError? (Predicate.matchesAll predicates) records = none) :
    Predicate.outcomes predicates records =
      (records.filter (accepts (Predicate.matchesAll predicates))).map .ok := by
  have hcollected := mapM_outcomes predicates records
  rw [scanned, hnone] at hcollected
  rcases Matches.all_ok_or_first_error (Predicate.outcomes predicates records) with
    ⟨found, hok⟩ | ⟨before, error, rest, herror⟩
  · rw [hok, Matches.mapM_id_ok] at hcollected
    rw [hok, Except.ok.inj hcollected]
  · rw [herror, Matches.mapM_id_error] at hcollected
    cases hcollected

end Table

namespace Database

open Table (accepts firstError? scanned)

/-- The table takes the place of the one of that name and the result is one, if the disk takes the
file of the table.  Otherwise memory stays as it is. -/
inductive Commits (database : Database) (disk : Disk) (name : String) (table : Table) :
    Outcome Nat → Prop
  | written {later : Disk} (flush : database.files.flush name table disk = (.ok (), later)) :
      Commits database disk name table
        ⟨.ok 1, { database with tables := Keyed.insert name table database.tables }, later⟩
  | refused {refusal : Refusal} {later : Disk}
      (flush : database.files.flush name table disk = (.error refusal, later)) :
      Commits database disk name table ⟨.error (.disk refusal), database, later⟩

/-- The changes can be made to records: they do not name the id, and all values are storable. -/
def Applicable (changes : Keyed Value) : Prop :=
  Keyed.contains idField changes = false ∧ checkStorable (changes.map Prod.snd) = .ok ()

/-- The operations with the filter for the id concern this record of the table alone. -/
structure ActsOnOne (database : Database) (disk : Disk) (name : String) (table : Table) (key : Key)
    (before : List Record) (record : Record) (after : List Record) : Prop where
  find : ∃ found, database.find name (Filters.byId key) none = .ok found ∧
    found.toList = .ok [record]
  findOne : database.findOne name (Filters.byId key) = .ok record
  delete : ∃ kept : Table, kept.records = before ++ after ∧ kept.nextId = table.nextId ∧
    Commits database disk name kept (database.delete name (Filters.byId key) disk)
  deleted : ∀ count, (database.delete name (Filters.byId key) disk).result = .ok count →
    (database.delete name (Filters.byId key) disk).database.findOne name (Filters.byId key) =
      .error (.recordNotFound name)
  update : ∀ changes, Applicable changes →
    ∃ merged : Table, merged.records = before ++ record.merge changes :: after ∧
      merged.ids = table.ids ∧ merged.nextId = table.nextId ∧
      Commits database disk name merged
        (database.update name (.ok changes) (Filters.byId key) disk)

/-- The operations with the filter for the id concern no record. -/
structure ActsOnNone (database : Database) (disk : Disk) (name : String) (key : Key) : Prop where
  find : ∃ found, database.find name (Filters.byId key) none = .ok found ∧ found.toList = .ok []
  findOne : database.findOne name (Filters.byId key) = .error (.recordNotFound name)
  delete : database.delete name (Filters.byId key) disk = ⟨.ok 0, database, disk⟩
  update : ∀ changes, Applicable changes →
    database.update name (.ok changes) (Filters.byId key) disk = ⟨.ok 0, database, disk⟩

variable {database : Database} {disk : Disk} {name : String} {table : Table} {key : Key}

theorem commits_commit (database : Database) (disk : Disk) (name : String) (table : Table) :
    Commits database disk name table (database.commit name table 1 disk) := by
  rw [commit]
  rcases hflush : database.files.flush name table disk with ⟨refusal | ⟨⟩, later⟩
  · exact .refused hflush
  · exact .written hflush

theorem Commits.find?_eq_some {outcome : Outcome Nat}
    (hcommits : Commits database disk name table outcome) {count : Nat}
    (hcount : outcome.result = .ok count) :
    Keyed.find? name outcome.database.tables = some table := by
  cases hcommits with
  | written flush => exact Keyed.find?_insert_self ..
  | refused flush => cases hcount

/-- Changes that cannot be made to records are refused, whatever the filter. -/
theorem update_of_not_applicable {changes : Changes}
    (hchanges : ∀ fields, changes = .ok fields → ¬ Applicable fields) (name : String)
    (predicates : List Predicate) (database : Database) (disk : Disk) :
    ∃ error, database.update name changes (.ok predicates) disk =
      ⟨.error error, database, disk⟩ := by
  have hrefused : ∃ error, database.updated name changes (.ok predicates) = .error error := by
    cases hupdated : database.updated name changes (.ok predicates) with
    | error error => exact ⟨error, rfl⟩
    | ok made =>
        simp only [updated, bind_eq_ok_iff, mapError_eq_ok_iff] at hupdated
        obtain ⟨fields, hfields, _, -, hbody⟩ := hupdated
        split_ifs at hbody with hid
        · cases hbody
        · simp only [bind_eq_ok_iff, mapError_eq_ok_iff] at hbody
          obtain ⟨⟨⟩, hstorable, -⟩ := hbody
          exact absurd ⟨by simpa using hid, hstorable⟩ (hchanges fields hfields)
  obtain ⟨error, herror⟩ := hrefused
  exact ⟨error, by rw [update, herror]; rfl⟩

/-! ## With the filter for an id -/

section ById

variable (htable : database.table name = .ok table) (hvalid : table.Valid)

include htable hvalid

theorem toList_byId (key : Key) :
    ∃ found, database.find name (Filters.byId key) none = .ok found ∧
      found.toList = .ok
        (table.records.filter (accepts (Predicate.matchesAll [Predicate.hasId key]))) := by
  rw [Predicate.byId_eq]
  refine ⟨_, find_eq htable [Predicate.hasId key], ?_⟩
  rw [Table.toList_unlimited, scanned, hvalid.firstError?_hasId key]

theorem findOne_byId :
    database.findOne name (Filters.byId key) =
      match table.records.filter (accepts (Predicate.matchesAll [Predicate.hasId key])) with
      | [] => .error (.recordNotFound name)
      | record :: _ => .ok record := by
  rw [Predicate.byId_eq, findOne_eq htable,
    Table.outcomes_eq_filter (hvalid.firstError?_hasId key)]
  cases table.records.filter (accepts (Predicate.matchesAll [Predicate.hasId key])) <;> rfl

theorem delete_byId (disk : Disk) :
    database.delete name (Filters.byId key) disk =
      database.write name
        (.ok (changed
          ((table.records.filter (accepts (Predicate.matchesAll [Predicate.hasId key]))).length,
            table.without (Predicate.matchesAll [Predicate.hasId key])))) disk := by
  rw [Predicate.byId_eq, delete, deleted_eq htable, Table.removeWhere_eq, scanned,
    hvalid.firstError?_hasId key]
  rfl

theorem update_byId {changes : Keyed Value} (happlicable : Applicable changes) (disk : Disk) :
    database.update name (.ok changes) (Filters.byId key) disk =
      database.write name
        (.ok (changed
          ((table.records.filter (accepts (Predicate.matchesAll [Predicate.hasId key]))).length,
            table.overwritten (Predicate.matchesAll [Predicate.hasId key]) changes))) disk := by
  rw [Predicate.byId_eq, update, updated_eq htable _ happlicable.1 happlicable.2,
    Table.updateWhere_eq, scanned, hvalid.firstError?_hasId key]
  rfl

/-- If no record has the id, nothing is found, removed or changed. -/
theorem actsOnNone (hcontains : table.containsId key.toValue = false) (disk : Disk) :
    ActsOnNone database disk name key := by
  have hempty := hvalid.filter_hasId_of_not_contains hcontains
  constructor
  · have hlist := toList_byId htable hvalid key
    rw [hempty] at hlist
    exact hlist
  · rw [findOne_byId htable hvalid, hempty]
  · rw [delete_byId htable hvalid, hempty]
    rfl
  · intro changes happlicable
    rw [update_byId htable hvalid happlicable, hempty]
    rfl

/-- If a record has the id, it is the one that is found, removed or changed. -/
theorem actsOnOne {before after : List Record} {record : Record}
    (hsingles : table.Singles key.toValue before record after) (disk : Disk) :
    ActsOnOne database disk name table key before record after := by
  have hselected := hvalid.filter_hasId hsingles
  have hdelete : Commits database disk name
      (table.without (Predicate.matchesAll [Predicate.hasId key]))
      (database.delete name (Filters.byId key) disk) := by
    rw [delete_byId htable hvalid, hselected]
    exact commits_commit ..
  constructor
  · have hlist := toList_byId htable hvalid key
    rw [hselected] at hlist
    exact hlist
  · rw [findOne_byId htable hvalid, hselected]
  · have hkept := hvalid.filter_not_hasId hsingles
    exact ⟨table.without _, hkept, rfl, hdelete⟩
  · intro count hcount
    have hnone := hvalid.firstError?_hasId key
    have hgone : (table.without (Predicate.matchesAll [Predicate.hasId key])).containsId
        key.toValue = false := by
      rw [← hsingles.id_eq]
      exact hvalid.containsId_without hnone hsingles.mem (hvalid.accepts_singles hsingles).1
    have hkept := table_of_find? (table_eq_ok htable).1 (hdelete.find?_eq_some hcount)
    exact (actsOnNone hkept (hvalid.without hnone) hgone disk).findOne
  · intro changes happlicable
    have hupdate : Commits database disk name
        (table.overwritten (Predicate.matchesAll [Predicate.hasId key]) changes)
        (database.update name (.ok changes) (Filters.byId key) disk) := by
      rw [update_byId htable hvalid happlicable, hselected]
      exact commits_commit ..
    have hmerged := hvalid.map_updated_hasId hsingles changes
    exact ⟨table.overwritten _ changes, hmerged, rfl, rfl, hupdate⟩

end ById

end Database

end DocumentStore
