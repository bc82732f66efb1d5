import DocumentStore.Proofs.Database.AssignedIds
import DocumentStore.Proofs.Database.Lookup
import DocumentStore.Proofs.Database.TableCall

/-!
# Records are retrieved by the id they were added with

A record that has been added stays in its table as long as no request touches it (`Call.Spares`),
whatever happens to the other records and however often the database is closed and opened again.
Since ids do not repeat, asking for its id gives this record, with the fields it was added with.
-/

namespace DocumentStore

/-- The call has added a record with these fields, and its answer gives the id of the record. -/
inductive Added (name : String) (fields : Keyed Value) (id : Value) : Call → Answer → Prop
  | one (validator : Validator) : Added name fields id (.add name (.map fields) validator) (.id id)
  | batch {records ids : List Value} (validator : Validator)
      (placed : (.map fields, id) ∈ records.zip ids) :
      Added name fields id (.addAll name records validator) (.ids ids)

/-- The call, with its outcome, neither updates nor removes the record, and its table stays.  A call
that is refused does not touch the record. -/
def Call.Spares (name : String) (record : Record) (outcome : Outcome Answer) : Call → Prop
  | .update table _ filters | .delete table filters =>
    table = name → ∀ predicates, filters = .ok predicates →
      Predicate.matchesAll predicates record = .ok true → ∃ error, outcome.result = .error error
  | .truncate table | .drop table => table = name → ∃ error, outcome.result = .error error
  | .burn => (Keyed.find? name outcome.database.tables).isSome = true
  | .add .. | .addAll .. | .find .. | .count .. | .list => True

theorem Outcome.ne_ok_of_refused {α β : Type} {outcome : Outcome α} {f : α → β}
    (hrefused : ∃ error, (outcome.map f).result = .error error) (result : α) :
    outcome.result ≠ .ok result := by
  obtain ⟨error, herror⟩ := hrefused
  rw [map_eq_error_iff.mp herror]
  simp

namespace Database

open Table (accepts)

/-- A request that spares the record is served, or the database is closed and opened again. -/
inductive SparingStep (name : String) (record : Record) :
    Database × Disk → Database × Disk → Prop
  | serve {database : Database} {disk : Disk} (request : Request) (sorted : request.call.Sorted)
      (fits : (request.serve database disk).database.Fits)
      (spares : request.call.Spares name record (request.serve database disk)) :
      SparingStep name record (database, disk)
        ((request.serve database disk).database, (request.serve database disk).disk)
  | reopen {database reopened : Database} {disk later : Disk} (indented : Bool) (sync : Sync)
      (held : List Nat) (free : database.lock.serial ∉ held)
      (opens : openFolder ⟨database.files.folder, database.files.format, indented, sync⟩ held disk =
        (.ok reopened, later)) :
      SparingStep name record (database, disk) (reopened, later)

/-- The record is in the table. -/
def Has (database : Database) (name : String) (record : Record) : Prop :=
  ∃ table, Keyed.find? name database.tables = some table ∧ record ∈ table.records

variable {database : Database} {disk : Disk} {name : String} {record : Record}

theorem SparingStep.step {first last : Database × Disk}
    (hstep : SparingStep name record first last) : Step first last := by
  cases hstep with
  | serve request sorted fits spares => exact .serve request sorted fits
  | reopen indented sync held free opens => exact .reopen indented sync held free opens

/-! ## What keeps a record -/

theorem Has.congr {later : Database} (hhas : database.Has name record)
    (htables : Keyed.find? name later.tables = Keyed.find? name database.tables) :
    later.Has name record := by
  obtain ⟨table, hfind, hmem⟩ := hhas
  exact ⟨table, htables.trans hfind, hmem⟩

/-- A write keeps the record if the table that it commits has the record. -/
theorem Has.write {α : Type} (hhas : database.Has name record) (other : String)
    (change : Except Error (α × Option Table))
    (hkept : ∀ result table, change = .ok (result, some table) →
      (database.write other change disk).result = .ok result → other = name →
        record ∈ table.records) :
    (database.write other change disk).database.Has name record := by
  rcases change with error | ⟨result, _ | table⟩
  · exact hhas
  · exact hhas
  · simp only [Database.write, commit] at hkept ⊢
    rcases hflush : database.files.flush other table disk with ⟨refusal | ⟨⟩, later⟩
    · exact hhas
    · rw [hflush] at hkept
      by_cases heq : other = name
      · have hmem := hkept result table rfl rfl heq
        rw [heq]
        exact ⟨table, Keyed.find?_insert_self .., hmem⟩
      · refine hhas.congr ?_
        dsimp only
        rw [Keyed.find?_insert, if_neg (Ne.symm heq)]

theorem Has.appended (hhas : database.Has name record) {records ids : List Value}
    {validator : Validator} {last : Table}
    (happended : database.appended name records validator = .ok (ids, some last)) :
    record ∈ last.records := by
  obtain ⟨table, hfind, hmem⟩ := hhas
  simp only [Database.appended, bind_eq_ok_iff] at happended
  obtain ⟨⟨⟩, -, hbody⟩ := happended
  split_ifs at hbody
  · cases hbody
  · simp only [bind_eq_ok_iff] at hbody
    obtain ⟨⟨given, made⟩, happend, heq⟩ := hbody
    cases heq
    rw [hfind, Option.getD_some] at happend
    obtain ⟨added, hrecords, -, -⟩ := appendAll_eq_ok happend
    rw [hrecords]
    exact List.mem_append_left added hmem

theorem Has.updated (hhas : database.Has name record) {changes : Changes} {filters : Filters}
    {count : Nat} {merged : Table}
    (hupdated : database.updated name changes filters = .ok (count, some merged))
    (hrejected : ∀ predicates, filters = .ok predicates →
      Predicate.matchesAll predicates record ≠ .ok true) : record ∈ merged.records := by
  obtain ⟨table, hfind, hmem⟩ := hhas
  simp only [Database.updated, bind_eq_ok_iff, mapError_eq_ok_iff] at hupdated
  obtain ⟨fields, -, predicates, hfilters, hbody⟩ := hupdated
  split_ifs at hbody
  · cases hbody
  · simp only [bind_eq_ok_iff, mapError_eq_ok_iff] at hbody
    obtain ⟨⟨⟩, -, start, hstart, change, hupdate, heq⟩ := hbody
    obtain rfl := changed_eq_some (Except.ok.inj heq)
    obtain rfl : start = table := Option.some.inj ((table_eq_ok hstart).2.symm.trans hfind)
    obtain ⟨-, rfl⟩ := Table.updateWhere_eq_ok hupdate
    have hsame : Table.updated (Predicate.matchesAll predicates) fields record = record := by
      rw [Table.updated, if_neg]
      rw [Table.accepts_eq_true_iff]
      exact hrejected predicates hfilters
    exact List.mem_map.mpr ⟨record, hmem, hsame⟩

theorem Has.deleted (hhas : database.Has name record) {filters : Filters} {count : Nat}
    {kept : Table} (hdeleted : database.deleted name filters = .ok (count, some kept))
    (hrejected : ∀ predicates, filters = .ok predicates →
      Predicate.matchesAll predicates record ≠ .ok true) : record ∈ kept.records := by
  obtain ⟨table, hfind, hmem⟩ := hhas
  simp only [Database.deleted, bind_eq_ok_iff, mapError_eq_ok_iff] at hdeleted
  obtain ⟨predicates, hfilters, start, hstart, change, hremove, heq⟩ := hdeleted
  obtain rfl := changed_eq_some (Except.ok.inj heq)
  obtain rfl : start = table := Option.some.inj ((table_eq_ok hstart).2.symm.trans hfind)
  obtain ⟨-, rfl⟩ := Table.removeWhere_eq_ok hremove
  refine List.mem_filter.mpr ⟨hmem, ?_⟩
  rw [Bool.not_eq_true', Bool.eq_false_iff, ne_eq, Table.accepts_eq_true_iff]
  exact hrejected predicates hfilters

theorem find?_of_burn (hsound : database.Sound) {table : Table}
    (hfind : Keyed.find? name (database.burn disk).database.tables = some table) :
    Keyed.find? name database.tables = some table := by
  rw [burn] at hfind
  cases hnames : database.allNames disk with
  | error refusal =>
      rw [hnames] at hfind
      exact hfind
  | ok names =>
      rw [hnames] at hfind
      have hremovals : Relation.ReflTransGen Removal (database, disk)
          ((burnAll [] names database disk).database, (burnAll [] names database disk).disk) :=
        burnAll_removals (isTableName_of_allNames hsound.named hnames) []
      dsimp only at hfind
      rcases hburned : burnAll [] names database disk with ⟨_ | burned, emptied, left⟩
      · rw [hburned] at hfind hremovals
        exact (hsound.removals hremovals).2 hfind
      · rw [hburned] at hfind hremovals
        exact (hsound.removals hremovals).2 hfind

/-- A call keeps each record that it spares. -/
theorem Has.perform (hsound : database.Sound) (hhas : database.Has name record) {call : Call}
    (hspares : call.Spares name record (call.perform database disk)) :
    (call.perform database disk).database.Has name record := by
  cases call with
  | find | count | list => exact hhas
  | add other fields validator =>
      refine hhas.write other _ fun id table hchange _ heq => ?_
      obtain ⟨⟨ids, made⟩, happended, hmade⟩ := map_eq_ok_iff.mp hchange
      cases hmade
      rw [heq] at happended
      exact hhas.appended happended
  | addAll other records validator =>
      refine hhas.write other _ fun ids table hchange _ heq => ?_
      rw [heq] at hchange
      exact hhas.appended hchange
  | update other changes filters =>
      refine hhas.write other _ fun count table hchange hresult heq => ?_
      have hrejected : ∀ predicates, filters = .ok predicates →
          Predicate.matchesAll predicates record ≠ .ok true := by
        intro predicates hfilters hmatches
        exact Outcome.ne_ok_of_refused (hspares heq predicates hfilters hmatches) count hresult
      rw [heq] at hchange
      exact hhas.updated hchange hrejected
  | delete other filters =>
      refine hhas.write other _ fun count table hchange hresult heq => ?_
      have hrejected : ∀ predicates, filters = .ok predicates →
          Predicate.matchesAll predicates record ≠ .ok true := by
        intro predicates hfilters hmatches
        exact Outcome.ne_ok_of_refused (hspares heq predicates hfilters hmatches) count hresult
      rw [heq] at hchange
      exact hhas.deleted hchange hrejected
  | truncate other =>
      refine hhas.write other _ fun count table hchange hresult heq => ?_
      exact absurd hresult (Outcome.ne_ok_of_refused (hspares heq) count)
  | drop other =>
      by_cases heq : other = name
      · obtain ⟨error, herror⟩ := hspares heq
        have hdatabase := (drop_failed (map_eq_error_iff.mp herror)).database
        exact hhas.congr (by rw [Call.perform, Outcome.map, hdatabase])
      · refine hhas.congr ?_
        simp only [Call.perform, Outcome.map, Database.drop]
        cases database.table other with
        | error error => rfl
        | ok table =>
            cases database.files.remove other disk with
            | error refusal => rfl
            | ok left => exact Keyed.find?_erase_of_ne (Ne.symm heq) database.tables
  | burn =>
      obtain ⟨table, htable⟩ := Option.isSome_iff_exists.mp hspares
      exact hhas.congr (htable.trans (find?_of_burn hsound htable).symm)

theorem Has.step {first last : Database × Disk} (hinStep : first.1.InStep first.2)
    (hhas : first.1.Has name record) (hstep : SparingStep name record first last) :
    last.1.Has name record := by
  cases hstep with
  | serve request sorted fits spares => exact hhas.perform hinStep.sound spares
  | reopen indented sync held free opens =>
      rw [hinStep.openFolder_eq rfl rfl free] at opens
      cases opens
      exact hhas

/-- A record stays in its table as long as it is spared. -/
theorem Has.steps {first last : Database × Disk} (hinStep : first.1.InStep first.2)
    (hhas : first.1.Has name record)
    (hsteps : Relation.ReflTransGen (SparingStep name record) first last) :
    last.1.InStep last.2 ∧ last.1.Has name record := by
  induction hsteps with
  | refl => exact ⟨hinStep, hhas⟩
  | tail _ hstep ih => exact ⟨hstep.step.inStep ih.1, ih.2.step ih.1 hstep⟩

/-! ## Records that have been added -/

theorem eq_insert_of_completes {fields : Keyed Value} (hsorted : Keyed.Sorted fields)
    (hcompletes : record.Completes (.map fields)) :
    record = ⟨Keyed.insert idField record.id fields⟩ := by
  obtain ⟨entries, heq, hfields⟩ := hcompletes
  cases heq
  cases hid : Keyed.find? idField fields with
  | none =>
      rw [Keyed.contains, hid, if_neg (by simp)] at hfields
      rw [← hfields]
  | some id =>
      rw [Keyed.contains, hid, if_pos (by simp)] at hfields
      have hown : record.id = id := by
        rw [Record.id, Record.field, Record.get?, hfields, hid]
        rfl
      rw [hown, hsorted.insert_find? hid, ← hfields]

theorem has_of_appendAll {validator : Validator} {records ids : List Value} {fields : Keyed Value}
    {id : Value} {table last : Table}
    (happend : appendAll name validator records table = .ok (ids, last))
    (hsorted : Keyed.Sorted fields) (hplaced : (.map fields, id) ∈ records.zip ids) :
    ⟨Keyed.insert idField id fields⟩ ∈ last.records := by
  obtain ⟨added, hrecords, rfl, hcompletes⟩ := appendAll_eq_ok happend
  rw [List.zip_map_right, List.mem_map] at hplaced
  obtain ⟨⟨given, record⟩, hpair, heq⟩ := hplaced
  cases heq
  obtain ⟨hcompleted, -⟩ := (List.forall₂_iff_zip.mp hcompletes).2 hpair
  rw [← eq_insert_of_completes hsorted hcompleted, hrecords]
  exact List.mem_append_right table.records (List.of_mem_zip hpair).2

theorem has_of_addAll {validator : Validator} {records ids : List Value} {fields : Keyed Value}
    {id : Value} (hids : (database.addAll name records validator disk).result = .ok ids)
    (hsorted : Keyed.Sorted fields) (hplaced : (.map fields, id) ∈ records.zip ids) :
    (database.addAll name records validator disk).database.Has name
      ⟨Keyed.insert idField id fields⟩ := by
  obtain ⟨made, happended⟩ := write_eq_ok hids
  have hname : isTableName name = true := isTableName_of_appended happended
  have hrecords : records ≠ [] := List.ne_nil_of_mem (List.of_mem_zip hplaced).1
  rcases addAll_cases hname validator hrecords database disk with
    ⟨error, -, houtcome⟩ | ⟨_, _, refusal, -, -, hrefused⟩ |
      ⟨found, last, later, happend, -, houtcome⟩
  · rw [houtcome] at hids
    cases hids
  · cases hrefused.symm.trans hids
  · rw [houtcome] at hids ⊢
    cases hids
    exact ⟨last, Keyed.find?_insert_self .., has_of_appendAll happend hsorted hplaced⟩

theorem has_of_added {call : Call} {answer : Answer} {fields : Keyed Value} {id : Value}
    (hadded : Added name fields id call answer) (hsorted : call.Sorted)
    (hanswer : (call.perform database disk).result = .ok answer) :
    (call.perform database disk).database.Has name ⟨Keyed.insert idField id fields⟩ := by
  cases hadded with
  | one validator =>
      obtain ⟨given, hgiven, heq⟩ := map_eq_ok_iff.mp hanswer
      cases heq
      have hfields : (Value.map fields).Sorted := hsorted
      rw [Value.Sorted] at hfields
      rw [Call.perform, add_eq]
      rw [add_eq] at hgiven
      obtain ⟨ids, hids, rfl⟩ := map_eq_ok_iff.mp hgiven
      obtain ⟨made, happended⟩ := write_eq_ok hids
      obtain ⟨last, happend⟩ := addAll_eq_ok (isTableName_of_appended happended) (by simp) hids
      obtain ⟨only, rfl⟩ := List.length_eq_one_iff.mp (appendAll_length happend)
      exact has_of_addAll hids hfields.1 (List.mem_singleton.mpr rfl)
  | batch validator placed =>
      obtain ⟨given, hgiven, heq⟩ := map_eq_ok_iff.mp hanswer
      cases heq
      have hfields : (Value.map fields).Sorted := hsorted _ (List.of_mem_zip placed).1
      rw [Value.Sorted] at hfields
      exact has_of_addAll hgiven hfields.1 placed

/-- The record with an id is found by it. -/
theorem Sound.findOne_of_has (hsound : database.Sound) (hhas : database.Has name record) {key : Key}
    (hid : record.id = key.toValue) :
    database.findOne name (Filters.byId key) = .ok record := by
  obtain ⟨table, hfind, hmem⟩ := hhas
  have hname : isTableName name = true :=
    hsound.named name (Keyed.mem_names_of_mem (Keyed.mem_of_find?_eq_some hfind))
  have hvalid : table.Valid := hsound.valid hfind
  obtain ⟨before, after, hsingles⟩ := hvalid.singles_of_mem hmem
  rw [hid] at hsingles
  -- The disk makes no difference to a query.
  exact (actsOnOne (table_of_find? hname hfind) hvalid hsingles Disk.empty).findOne

theorem Sound.exists_key_of_has (hsound : database.Sound) (hhas : database.Has name record) :
    ∃ key : Key, record.id = key.toValue := by
  obtain ⟨table, hfind, hmem⟩ := hhas
  have hvalid : table.Valid := hsound.valid hfind
  obtain ⟨key, hkey⟩ := hvalid.keyed record hmem
  exact ⟨key, Record.key?_eq_some_iff.mp hkey⟩

/-- In every state that a database can come to, the filter for an id finds the one record that has
it, or none, and does not fail.  So a record that has been added is found by the id that the answer
gave, with its fields, until a request touches it.  A removal by the id takes out this record alone
and an update by the id changes it alone. -/
theorem lookup_by_id_is_exact :
    (∀ {database : Database} {disk : Disk} {name : String} {table : Table},
      database.Reachable disk → Keyed.find? name database.tables = some table → ∀ key : Key,
        (table.containsId key.toValue = true → ∃ before record after,
          table.Singles key.toValue before record after ∧
            ActsOnOne database disk name table key before record after) ∧
        (table.containsId key.toValue = false → ActsOnNone database disk name key) ∧
        ∀ changes : Changes, (∀ fields, changes = .ok fields → ¬ Applicable fields) →
          ∃ error, database.update name changes (Filters.byId key) disk =
            ⟨.error error, database, disk⟩) ∧
      ∀ {options : Options} {held : List Nat} {disk start : Disk} {opened : Database}
        {state : Database × Disk} {request : Request} {name : String} {fields : Keyed Value}
        {id : Value} {answer : Answer},
        disk.WellFormed → openFolder options held disk = (.ok opened, start) →
        Relation.ReflTransGen Step (opened, start) state → request.call.Sorted →
        let added := request.serve state.1 state.2
        added.database.Fits → added.result = .ok answer →
        Added name fields id request.call answer →
          ∃ key : Key, id = key.toValue ∧ ∀ later : Database × Disk,
            Relation.ReflTransGen (SparingStep name ⟨Keyed.insert idField id fields⟩)
              (added.database, added.disk) later →
            later.1.findOne name (Filters.byId key) = .ok ⟨Keyed.insert idField id fields⟩ := by
  constructor
  · intro database disk name table hreachable hfind key
    have hsound := hreachable.sound
    have hname : isTableName name = true :=
      hsound.named name (Keyed.mem_names_of_mem (Keyed.mem_of_find?_eq_some hfind))
    have htable := table_of_find? hname hfind
    have hvalid : table.Valid := hsound.valid hfind
    refine ⟨?_, ?_, ?_⟩
    · intro hcontains
      obtain ⟨before, record, after, hsingles⟩ := hvalid.exists_singles hcontains
      exact ⟨before, record, after, hsingles, actsOnOne htable hvalid hsingles disk⟩
    · intro hcontains
      exact actsOnNone htable hvalid hcontains disk
    · intro changes hchanges
      rw [Predicate.byId_eq]
      exact update_of_not_applicable hchanges name [Predicate.hasId key] database disk
  · intro options held disk start opened state request name fields id answer hdisk hopen hruns
      hsorted added hfits hanswer hadded
    have hstate : state.1.InStep state.2 := (inStep_of_openFolder hdisk hopen).1.steps hruns
    have hinStep : added.database.InStep added.disk := hstate.serve hsorted hfits
    have hhas : added.database.Has name ⟨Keyed.insert idField id fields⟩ :=
      has_of_added hadded hsorted hanswer
    have hid : Record.id ⟨Keyed.insert idField id fields⟩ = id := by
      rw [Record.id, Record.field, Record.get?, Keyed.find?_insert_self]
      rfl
    obtain ⟨key, hkey⟩ := hinStep.sound.exists_key_of_has hhas
    refine ⟨key, hid.symm.trans hkey, ?_⟩
    intro later hsteps
    obtain ⟨hlater, hkept⟩ := hhas.steps hinStep hsteps
    exact hlater.sound.findOne_of_has hkept hkey

private def annFields : Keyed Value :=
  [("name", .text "ann")]

private def annAdd : Request :=
  ⟨.add "users" (.map annFields) Validator.none, fun _ => none⟩

private def annAdded : Outcome Answer :=
  annAdd.serve fresh freshDisk

private def annRecord : Record :=
  ⟨[(idField, .integer 1), ("name", .text "ann")]⟩

private def annTable : Table :=
  ⟨[annRecord], [.integer 1], 2⟩

/-- A removal of another id. -/
private def otherDelete : Request :=
  ⟨.delete "users" (Filters.byId (.integer 2)), fun _ => none⟩

private def otherDeleted : Outcome Answer :=
  otherDelete.serve annAdded.database annAdded.disk

private def bobRecord : Record :=
  ⟨[(idField, .integer 2), ("name", .text "bob")]⟩

private def bobAdd : Request :=
  ⟨.add "users" (.map [("name", .text "bob")]) Validator.none, fun _ => none⟩

private def bothAdded : Outcome Answer :=
  bobAdd.serve annAdded.database annAdded.disk

private def bothTable : Table :=
  ⟨[annRecord, bobRecord], [.integer 1, .integer 2], 3⟩

/-- A removal by another id leaves the record to be found.  Of two records, the one that has the id
is changed or removed by it, and the other stays. -/
theorem lookup_by_id_is_exact_ann :
    (annAdded.database.delete "users" (Filters.byId (.integer 2)) annAdded.disk).result = .ok 0 ∧
      (∃ key : Key, .integer 1 = key.toValue ∧
        otherDeleted.database.findOne "users" (Filters.byId key) = .ok annRecord) ∧
      (∃ merged : Table,
        merged.records = [annRecord.merge [("name", .text "anna")], bobRecord] ∧
          Commits bothAdded.database bothAdded.disk "users" merged
            (bothAdded.database.update "users" (.ok [("name", .text "anna")])
              (Filters.byId (.integer 1)) bothAdded.disk)) ∧
      let deleted := bothAdded.database.delete "users" (Filters.byId (.integer 1)) bothAdded.disk
      deleted.result = .ok 1 ∧
        (∃ kept : Table, kept.records = [bobRecord] ∧
          Commits bothAdded.database bothAdded.disk "users" kept deleted) ∧
        deleted.database.findOne "users" (Filters.byId (.integer 1)) =
          .error (.recordNotFound "users") := by
  have hsorted : annAdd.call.Sorted := by
    simp [annAdd, annFields, Call.Sorted, Value.Sorted, Value.FieldsSorted, Keyed.Sorted,
      Keyed.names]
  have hreachable : annAdded.database.Reachable annAdded.disk := .served reachable_fresh hsorted
  have hfind : Keyed.find? "users" annAdded.database.tables = some annTable := by
    with_unfolding_all rfl
  have hanswer : annAdded.result = .ok (.id (.integer 1)) := by
    with_unfolding_all rfl
  have hspares : otherDelete.call.Spares "users"
      ⟨Keyed.insert idField (.integer 1) annFields⟩ otherDeleted := by
    intro _ predicates hpredicates hmatches
    rw [Predicate.byId_eq] at hpredicates
    cases hpredicates
    have hrejects : Predicate.matchesAll [Predicate.hasId (.integer 2)]
        ⟨Keyed.insert idField (.integer 1) annFields⟩ = .ok false := by
      with_unfolding_all rfl
    cases hrejects.symm.trans hmatches
  have hspared : SparingStep "users" ⟨Keyed.insert idField (.integer 1) annFields⟩
      (annAdded.database, annAdded.disk) (otherDeleted.database, otherDeleted.disk) :=
    .serve otherDelete trivial (by rintro ⟨⟩) hspares
  have hbob : bobAdd.call.Sorted := by
    simp [bobAdd, Call.Sorted, Value.Sorted, Value.FieldsSorted, Keyed.Sorted, Keyed.names]
  have hboth : Keyed.find? "users" bothAdded.database.tables = some bothTable := by
    with_unfolding_all rfl
  have happlicable : Applicable [("name", .text "anna")] := by
    constructor <;> with_unfolding_all rfl
  have hdeleted : (bothAdded.database.delete "users" (Filters.byId (.integer 1))
      bothAdded.disk).result = .ok 1 := by
    with_unfolding_all rfl
  obtain ⟨hexact, hretrieved⟩ := lookup_by_id_is_exact
  obtain ⟨-, hnone, -⟩ := hexact hreachable hfind (.integer 2)
  obtain ⟨hone, -⟩ := hexact (hreachable.served hbob) hboth (.integer 1)
  obtain ⟨key, hkey, hlater⟩ := hretrieved Disk.wellFormed_empty openFolder_fresh .refl hsorted
    (by rintro ⟨⟩) hanswer (.one Validator.none)
  have hidle := (hnone (by with_unfolding_all rfl)).delete
  obtain ⟨before, record, after, hsingles, hacts⟩ := hone (by with_unfolding_all rfl)
  -- Only the first record has the id.
  obtain ⟨rfl, rfl, rfl⟩ : before = [] ∧ record = annRecord ∧ after = [bobRecord] := by
    cases before with
    | nil =>
        cases hsingles.records_eq
        exact ⟨rfl, rfl, rfl⟩
    | cons first rest =>
        have hfirst : first = annRecord := (List.cons.inj hsingles.records_eq).1.symm
        exact absurd rfl (hfirst ▸ hsingles.others first (by simp))
  obtain ⟨merged, hmerged, -, -, hupdate⟩ := hacts.update _ happlicable
  obtain ⟨kept, hkept, -, hdelete⟩ := hacts.delete
  exact ⟨by rw [hidle], ⟨key, hkey, hlater _ (.single hspared)⟩, ⟨merged, hmerged, hupdate⟩,
    hdeleted, ⟨kept, hkept, hdelete⟩, hacts.deleted 1 hdeleted⟩

end Database

end DocumentStore
