import DocumentStore.Proofs.Database.Reachable
import DocumentStore.Proofs.Table.Selection

/-!
# Queries, updates and removals of the same records

With the same predicates a query finds the records that an update changes and a removal takes out,
and all of them fail alike.  Truncating a table is removing its records without any predicate.
-/

namespace DocumentStore

namespace Database

open Table (accepts firstError? scanned)

variable {database : Database} {disk : Disk} {name : String} {table : Table}

theorem table_of_find? (hname : isTableName name = true)
    (hfind : Keyed.find? name database.tables = some table) :
    database.table name = .ok table := by
  rw [Database.table, checkName, if_pos hname, hfind]
  rfl

theorem deleted_eq (htable : database.table name = .ok table) (predicates : List Predicate) :
    database.deleted name (.ok predicates) =
      ((table.removeWhere (Predicate.matchesAll predicates)).mapError .evaluation).map changed := by
  rw [deleted, htable]
  change ((table.removeWhere (Predicate.matchesAll predicates)).mapError Error.evaluation >>=
    fun change => pure (changed change)) = _
  cases table.removeWhere (Predicate.matchesAll predicates) <;> rfl

theorem updated_eq (htable : database.table name = .ok table) (predicates : List Predicate)
    {changes : Keyed Value} (hid : Keyed.contains idField changes = false)
    (hstorable : checkStorable (changes.map Prod.snd) = .ok ()) :
    database.updated name (.ok changes) (.ok predicates) =
      ((table.updateWhere (Predicate.matchesAll predicates) changes).mapError
        .evaluation).map changed := by
  rw [updated, htable]
  change (if Keyed.contains idField changes = true then _ else
    ((checkStorable (changes.map Prod.snd)).mapError Error.invalidRecord >>= fun _ =>
      (table.updateWhere (Predicate.matchesAll predicates) changes).mapError Error.evaluation >>=
        fun change => pure (changed change))) = _
  rw [hid, if_neg Bool.false_ne_true, hstorable]
  cases table.updateWhere (Predicate.matchesAll predicates) changes <;> rfl

/-- A change of the records that a test selects is refused with the first error of the test, and
otherwise its table is held afterwards, written or not. -/
theorem write_scanned (hfind : Keyed.find? name database.tables = some table)
    {test : Record → Except EvalError Bool} {change : Nat × Table}
    (hidle : change.1 = 0 → change.2 = table)
    (hdisk : ∀ refusal, (database.write name
      (((scanned test table.records change).mapError .evaluation).map changed) disk).result ≠
        .error (.disk refusal)) :
    let outcome := database.write name
      (((scanned test table.records change).mapError .evaluation).map changed) disk
    (∀ error, firstError? test table.records = some error →
        outcome.result = .error (.evaluation error)) ∧
      (firstError? test table.records = none → outcome.result = .ok change.1 ∧
        Keyed.find? name outcome.database.tables = some change.2) := by
  refine ⟨fun error herror => ?_, fun hnone => ?_⟩
  · rw [scanned, herror]
    rfl
  · rw [scanned, hnone] at hdisk ⊢
    change ∀ refusal, (database.write name (.ok (changed change)) disk).result ≠ _ at hdisk
    change (database.write name (.ok (changed change)) disk).result = _ ∧
      Keyed.find? name (database.write name (.ok (changed change)) disk).database.tables = _
    -- A change of no record is not written, and there is nothing to write.
    by_cases hzero : change.1 = 0
    · rw [changed, if_pos hzero, hidle hzero]
      exact ⟨rfl, hfind⟩
    · rw [changed, if_neg hzero] at hdisk ⊢
      simp only [write, commit] at hdisk ⊢
      rcases hflush : database.files.flush name change.2 disk with ⟨refusal | ⟨⟩, later⟩
      · rw [hflush] at hdisk
        exact absurd rfl (hdisk refusal)
      · exact ⟨rfl, Keyed.find?_insert_self ..⟩

theorem find_eq (htable : database.table name = .ok table) (predicates : List Predicate)
    {limit : Option Nat} :
    database.find name (.ok predicates) limit = .ok ⟨name, table.records, predicates, limit⟩ := by
  rw [find, htable]
  rfl

theorem truncate_eq_delete (hsound : database.Sound) (name : String) (disk : Disk) :
    database.truncate name disk = database.delete name (.ok []) disk := by
  rw [truncate, delete]
  cases htable : database.table name with
  | error error =>
      rw [deleted, htable]
      rfl
  | ok table =>
      have hvalid : table.Valid := hsound.valid (table_eq_ok htable).2
      have hall : table.removeWhere (Predicate.matchesAll []) = .ok (table.size, table.clear) :=
        hvalid.removeWhere_all fun record => rfl
      rw [deleted_eq htable, hall]
      rfl

/-- A query without a limit, an update and a removal with the same predicates fail with the error of
the first record that the predicates cannot be evaluated on, and otherwise they select the same
records.  A removal leaves the others as they were and frees the ids of those that it takes; an
update overwrites fields and leaves ids, order and counter as they were.  Truncating is removing
without predicates, in what it returns, in memory and on disk. -/
theorem find_update_delete_select_alike (hreachable : database.Reachable disk)
    (hfind : Keyed.find? name database.tables = some table) (predicates : List Predicate)
    {changes : Keyed Value} (hchanges : Keyed.Sorted changes)
    (hid : Keyed.contains idField changes = false)
    (hstorable : checkStorable (changes.map Prod.snd) = .ok ())
    (hupdate : ∀ refusal, (database.update name (.ok changes) (.ok predicates) disk).result ≠
      .error (.disk refusal))
    (hdelete : ∀ refusal, (database.delete name (.ok predicates) disk).result ≠
      .error (.disk refusal)) :
    let test := Predicate.matchesAll predicates
    let update := database.update name (.ok changes) (.ok predicates) disk
    let delete := database.delete name (.ok predicates) disk
    ∃ found, database.find name (.ok predicates) none = .ok found ∧
      (∀ error, firstError? test table.records = some error →
        found.count = .error error ∧ found.toList = .error error ∧
          update.result = .error (.evaluation error) ∧
          delete.result = .error (.evaluation error)) ∧
      (firstError? test table.records = none →
        let selected := table.records.filter (accepts test)
        found.count = .ok selected.length ∧ found.toList = .ok selected ∧
          update.result = .ok selected.length ∧ delete.result = .ok selected.length ∧
          (∃ kept, Keyed.find? name delete.database.tables = some kept ∧
            kept.records = table.records.filter (fun record => !accepts test record) ∧
            kept.nextId = table.nextId ∧
            (∀ record ∈ selected, kept.containsId record.id = false) ∧
            ∃ rest, delete.database.find name (.ok predicates) none = .ok rest ∧
              rest.toList = .ok []) ∧
          ∃ merged, Keyed.find? name update.database.tables = some merged ∧
            merged.records = table.records.map
              (fun record => if accepts test record then record.merge changes else record) ∧
            (∀ (record : Record) (field : String), (record.merge changes).get? field =
              (Keyed.find? field changes).or (record.get? field)) ∧
            merged.recordIds = table.recordIds ∧ merged.ids = table.ids ∧
            merged.nextId = table.nextId) ∧
      database.truncate name disk = database.delete name (.ok []) disk := by
  have hsound := hreachable.sound
  have hname : isTableName name = true :=
    hsound.named name (Keyed.mem_names_of_mem (Keyed.mem_of_find?_eq_some hfind))
  have hvalid : table.Valid := hsound.valid hfind
  have htable := table_of_find? hname hfind
  rw [update, updated_eq htable predicates hid hstorable, Table.updateWhere_eq] at hupdate
  rw [delete, deleted_eq htable predicates, Table.removeWhere_eq] at hdelete
  obtain ⟨hupdateFails, hupdates⟩ := write_scanned hfind Table.overwritten_eq_self hupdate
  obtain ⟨hdeleteFails, hdeletes⟩ := write_scanned hfind Table.without_eq_self hdelete
  have hlist := Table.toList_unlimited name table.records predicates
  rw [scanned] at hlist
  dsimp only
  rw [update, updated_eq htable predicates hid hstorable, Table.updateWhere_eq,
    truncate_eq_delete hsound, delete, deleted_eq htable predicates, Table.removeWhere_eq]
  refine ⟨_, find_eq htable predicates, fun error herror => ?_, fun hnone => ?_, rfl⟩
  · rw [herror] at hlist
    refine ⟨?_, hlist, hupdateFails error herror, hdeleteFails error herror⟩
    rw [Matches.count, hlist]
    rfl
  · rw [hnone] at hlist
    obtain ⟨hupdated, hmerged⟩ := hupdates hnone
    obtain ⟨hdeleted, hkept⟩ := hdeletes hnone
    refine ⟨?_, hlist, hupdated, hdeleted, ⟨_, hkept, rfl, rfl, fun record hrecord => ?_, ?_⟩,
      _, hmerged, rfl, fun record field => hchanges.find?_merge field record.fields,
      Table.recordIds_overwritten hid, rfl, rfl⟩
    · rw [Matches.count, hlist]
      rfl
    · obtain ⟨hmem, haccepts⟩ := List.mem_filter.mp hrecord
      exact hvalid.containsId_without hnone hmem haccepts
    · refine ⟨_, find_eq (table_of_find? hname hkept) predicates, ?_⟩
      rw [Table.toList_unlimited]
      exact Table.scanned_without hnone

private def stock : Request :=
  ⟨.addAll "users" [.map [("name", .text "ann")], .map [("name", .text "bob")], .map []]
    Validator.none, fun _ => none⟩

private def stocked : Outcome Answer :=
  stock.serve fresh freshDisk

private def stockedTable : Table :=
  ⟨[⟨[(idField, .integer 1), ("name", .text "ann")]⟩,
    ⟨[(idField, .integer 2), ("name", .text "bob")]⟩, ⟨[(idField, .integer 3)]⟩],
    [.integer 1, .integer 2, .integer 3], 4⟩

private def startsWithB : Predicate :=
  ⟨"name", .startswith "b"⟩

theorem find_update_delete_select_alike_stocked :
    (stocked.database.update "users" (.ok [("name", .null)]) (.ok [startsWithB])
        stocked.disk).result = .ok 1 ∧
      ∃ kept, Keyed.find? "users" (stocked.database.delete "users" (.ok [startsWithB])
        stocked.disk).database.tables = some kept ∧ kept.nextId = 4 ∧
          kept.containsId (.integer 2) = false := by
  have hreachable : stocked.database.Reachable stocked.disk := by
    apply Reachable.served reachable_fresh
    simp [stock, Call.Sorted, Value.Sorted, Value.FieldsSorted, Keyed.Sorted, Keyed.names]
  have hfind : Keyed.find? "users" stocked.database.tables = some stockedTable := by
    with_unfolding_all rfl
  have hupdated : (stocked.database.update "users" (.ok [("name", .null)]) (.ok [startsWithB])
      stocked.disk).result = .ok 1 := by
    with_unfolding_all rfl
  have hdeleted : (stocked.database.delete "users" (.ok [startsWithB]) stocked.disk).result =
      .ok 1 := by
    with_unfolding_all rfl
  have hsorted : Keyed.Sorted [("name", Value.null)] := List.pairwise_singleton ..
  obtain ⟨found, -, -, hselected, -⟩ := find_update_delete_select_alike hreachable hfind
    [startsWithB] hsorted rfl rfl (by simp [hupdated]) (by simp [hdeleted])
  obtain ⟨-, -, -, -, ⟨kept, hkept, -, hcounter, hfreed, -⟩, -⟩ :=
    hselected (by with_unfolding_all rfl)
  have hselects : stockedTable.records.filter (accepts (Predicate.matchesAll [startsWithB])) =
      [⟨[(idField, .integer 2), ("name", .text "bob")]⟩] := by
    with_unfolding_all rfl
  rw [hselects] at hfreed
  exact ⟨hupdated, kept, hkept, hcounter, hfreed _ (List.mem_singleton.mpr rfl)⟩

end Database

end DocumentStore
