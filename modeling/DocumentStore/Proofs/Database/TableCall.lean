import DocumentStore.Proofs.Database.Call
import DocumentStore.Proofs.Database.Site

/-!
# Calls on one table

A call that names a table writes to this table or drops it.  So it is an operation on the table, and
it is refused if the name is no table name.
-/

namespace DocumentStore

def Call.table? : Call → Option String
  | .add name .. | .addAll name .. | .update name .. | .delete name .. | .truncate name
  | .drop name | .find name .. | .count name => some name
  | .burn | .list => none

namespace Database

variable {database : Database} {disk : Disk} {name : String}

theorem isTableName_of_appended {records : List Value} {validator : Validator}
    {made : List Value × Option Table}
    (happended : database.appended name records validator = .ok made) :
    isTableName name = true := by
  simp only [appended, bind_eq_ok_iff] at happended
  obtain ⟨⟨⟩, hcheck, -⟩ := happended
  exact checkName_eq_ok hcheck

theorem isTableName_of_updated {changes : Changes} {filters : Filters}
    {made : Nat × Option Table} (hupdated : database.updated name changes filters = .ok made) :
    isTableName name = true := by
  simp only [updated, bind_eq_ok_iff] at hupdated
  obtain ⟨fields, -, predicates, -, hbody⟩ := hupdated
  split_ifs at hbody
  · cases hbody
  · simp only [bind_eq_ok_iff] at hbody
    obtain ⟨_, -, table, htable, -⟩ := hbody
    exact (table_eq_ok htable).1

theorem isTableName_of_deleted {filters : Filters} {made : Nat × Option Table}
    (hdeleted : database.deleted name filters = .ok made) : isTableName name = true := by
  simp only [deleted, bind_eq_ok_iff] at hdeleted
  obtain ⟨predicates, -, table, htable, -⟩ := hdeleted
  exact (table_eq_ok htable).1

theorem isTableName_of_find {filters : Filters} {limit : Option Nat} {found : Matches}
    (hfind : database.find name filters limit = .ok found) : isTableName name = true := by
  simp only [find, bind_eq_ok_iff] at hfind
  obtain ⟨predicates, -, table, htable, -⟩ := hfind
  exact (table_eq_ok htable).1

theorem write_map {α β : Type} (name : String) (change : Except Error (α × Option Table))
    (f : α → β) (database : Database) (disk : Disk) :
    (database.write name change disk).map f =
      database.write name (change.map fun (result, table) => (f result, table)) disk := by
  rcases change with error | ⟨result, _ | table⟩
  · rfl
  · rfl
  · simp only [Except.map, write, commit]
    rcases database.files.flush name table disk with ⟨_ | ⟨⟩, later⟩ <;> rfl

end Database

namespace Call

variable {name : String} {call : Call}

/-- The call writes a change of the table, and this depends on nothing but the table. -/
def Writes (call : Call) (name : String) (database : Database) : Prop :=
  ∃ change : Except Error (Answer × Option Table),
    (∀ made, change = .ok made → isTableName name = true) ∧
      ∀ other : Database, Keyed.find? name other.tables = Keyed.find? name database.tables →
        ∀ disk, call.perform other disk = other.write name change disk

theorem writes_of_change {α : Type} {wrap : α → Answer} {database : Database}
    {change : Database → Except Error (α × Option Table)}
    (hperform : ∀ other disk,
      call.perform other disk = (other.write name (change other) disk).map wrap)
    (hvalid : ∀ made, change database = .ok made → isTableName name = true)
    (hlocal : ∀ other : Database,
      Keyed.find? name other.tables = Keyed.find? name database.tables →
        change other = change database) : call.Writes name database := by
  refine ⟨(change database).map fun (result, table) => (wrap result, table), ?_, ?_⟩
  · intro made hmade
    obtain ⟨found, hfound, -⟩ := map_eq_ok_iff.mp hmade
    exact hvalid found hfound
  · intro other hother disk
    rw [hperform, hlocal other hother, Database.write_map]

theorem writes_of_query {α : Type} {wrap : α → Answer} {database : Database}
    {query : Database → Except Error α}
    (hperform : ∀ other disk, call.perform other disk = ⟨(query other).map wrap, other, disk⟩)
    (hvalid : ∀ found, query database = .ok found → isTableName name = true)
    (hlocal : ∀ other : Database,
      Keyed.find? name other.tables = Keyed.find? name database.tables →
        query other = query database) : call.Writes name database := by
  have hwrite : ∀ other disk, call.perform other disk =
      (other.write name ((query other).map fun found => (found, none)) disk).map wrap := by
    intro other disk
    rw [hperform]
    cases query other <;> rfl
  refine writes_of_change hwrite ?_ ?_
  · intro made hmade
    obtain ⟨found, hfound, -⟩ := map_eq_ok_iff.mp hmade
    exact hvalid found hfound
  · intro other hother
    rw [hlocal other hother]

/-- A call on a table drops the table or writes to it. -/
theorem drops_or_writes (hcall : call.table? = some name) (database : Database) :
    call = .drop name ∨ call.Writes name database := by
  have htable : ∀ other : Database,
      Keyed.find? name other.tables = Keyed.find? name database.tables →
        other.table name = database.table name := by
    intro other hother
    rw [Database.table, Database.table, hother]
  cases call with
  | burn | list => cases hcall
  | drop table =>
      cases hcall
      exact Or.inl rfl
  | add table fields validator =>
      cases hcall
      refine Or.inr (writes_of_change (fun _ _ => rfl) ?_ ?_)
      · intro made hmade
        obtain ⟨found, hfound, -⟩ := map_eq_ok_iff.mp hmade
        exact Database.isTableName_of_appended hfound
      · intro other hother
        rw [Database.appended, Database.appended, hother]
  | addAll table records validator =>
      cases hcall
      refine Or.inr (writes_of_change (fun _ _ => rfl)
        (fun _ => Database.isTableName_of_appended) fun other hother => ?_)
      rw [Database.appended, Database.appended, hother]
  | update table changes filters =>
      cases hcall
      refine Or.inr (writes_of_change (fun _ _ => rfl)
        (fun _ => Database.isTableName_of_updated) fun other hother => ?_)
      rw [Database.updated, Database.updated, htable other hother]
  | delete table filters =>
      cases hcall
      refine Or.inr (writes_of_change (fun _ _ => rfl)
        (fun _ => Database.isTableName_of_deleted) fun other hother => ?_)
      rw [Database.deleted, Database.deleted, htable other hother]
  | truncate table =>
      cases hcall
      refine Or.inr (writes_of_change (fun _ _ => rfl) ?_ ?_)
      · intro made hmade
        obtain ⟨found, hfound, -⟩ := map_eq_ok_iff.mp hmade
        exact (Database.table_eq_ok hfound).1
      · intro other hother
        rw [htable other hother]
  | find table filters limit =>
      cases hcall
      refine Or.inr (writes_of_query (fun _ _ => rfl)
        (fun _ => Database.isTableName_of_find) fun other hother => ?_)
      rw [Database.find, Database.find, htable other hother]
  | count table =>
      cases hcall
      refine Or.inr (writes_of_query (fun _ _ => rfl) ?_ ?_)
      · intro found hfound
        obtain ⟨start, hstart, -⟩ := map_eq_ok_iff.mp hfound
        exact (Database.table_eq_ok hstart).1
      · intro other hother
        rw [Database.count, Database.count, htable other hother]

/-- A call on a name that is no table name is refused before it does anything. -/
theorem perform_of_invalid (hcall : call.table? = some name) (hname : isTableName name = false)
    (database : Database) (disk : Disk) :
    ∃ error, call.perform database disk = ⟨.error error, database, disk⟩ := by
  rcases drops_or_writes hcall database with rfl | ⟨change, hvalid, hperform⟩
  · cases htable : database.table name with
    | error error => exact ⟨error, by rw [perform, Database.drop, htable]; rfl⟩
    | ok table =>
        rw [(Database.table_eq_ok htable).1] at hname
        cases hname
  · rw [hperform database rfl disk]
    cases hchange : change with
    | error error => exact ⟨error, rfl⟩
    | ok made =>
        rw [hvalid made hchange] at hname
        cases hname

end Call

theorem Site.OnTable.map {name : String} {α β : Type} {operation : Database → Disk → Outcome α}
    (hoperation : OnTable name operation) (f : α → β) :
    OnTable name fun database disk => (operation database disk).map f := by
  intro site
  obtain ⟨result, edit, hedit⟩ := hoperation site
  refine ⟨result.map f, edit, fun other hsame => ?_⟩
  obtain ⟨hresult, serial, hedits⟩ := hedit other hsame
  exact ⟨congrArg (Except.map f) hresult, serial, hedits.map f⟩

theorem Call.onTable {name : String} {call : Call} (hcall : call.table? = some name) :
    Site.OnTable name fun database disk => call.perform database disk := by
  intro site
  rcases drops_or_writes hcall site.database with rfl | ⟨change, hvalid, hperform⟩
  · exact (Site.onTable_drop name).map _ site
  · obtain ⟨result, edit, hedit⟩ := Site.onTable_write hvalid site
    refine ⟨result, edit, fun other hsame => ?_⟩
    have hwrite := hperform other.database hsame.table.symm other.disk
    simpa only [hwrite] using hedit other hsame

end DocumentStore
