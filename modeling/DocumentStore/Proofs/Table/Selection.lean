import DocumentStore.Proofs.Query.Items
import DocumentStore.Proofs.Table.Ids

/-!
# Records that a test selects

A query without a limit goes through the records in the same order as an update and a removal, so
all three meet the same first error (`scanned`) and select the same records.  What a removal and an
update make of a table is given a name, and what is left of it is compared with the table before.
-/

namespace DocumentStore

namespace Table

variable {ε α : Type} {test : Record → Except ε Bool} {records : List Record} {table : Table}

theorem mapM_outcomes (predicates : List Predicate) (records : List Record) :
    (Predicate.outcomes predicates records).mapM id =
      scanned (Predicate.matchesAll predicates) records
        (records.filter (accepts (Predicate.matchesAll predicates))) := by
  induction records with
  | nil => rfl
  | cons record rest ih =>
      unfold Predicate.outcomes at ih ⊢
      rw [scanned_cons, List.filterMap_cons, Predicate.outcome?]
      cases htest : Predicate.matchesAll predicates record with
      | error error => rfl
      | ok chosen =>
          have haccepts : accepts (Predicate.matchesAll predicates) record = chosen := by
            simp [accepts, htest]
          cases chosen with
          | false => simpa [haccepts, bind, Except.bind] using ih
          | true =>
              simp only [List.mapM_cons, ih, id_eq]
              unfold scanned
              cases firstError? (Predicate.matchesAll predicates) rest with
              | some error => rfl
              | none => simp [haccepts, bind, Except.bind, pure, Except.pure]

theorem toList_unlimited (name : String) (records : List Record) (predicates : List Predicate) :
    Matches.toList ⟨name, records, predicates, none⟩ =
      scanned (Predicate.matchesAll predicates) records
        (records.filter (accepts (Predicate.matchesAll predicates))) := by
  rw [Matches.toList, Matches.items_eq]
  exact mapM_outcomes predicates records

/-! ## Removal -/

/-- The table without the records that the test accepts. -/
def without (test : Record → Except ε Bool) (table : Table) : Table :=
  { table with
    records := table.records.filter fun record => !accepts test record
    ids := table.ids.filter fun key =>
      !((table.records.filter (accepts test)).filterMap Record.key?).contains key }

theorem removeWhere_eq (test : Record → Except ε Bool) (table : Table) :
    table.removeWhere test = scanned test table.records
      ((table.records.filter (accepts test)).length, table.without test) := by
  rw [removeWhere, partition_eq]
  unfold scanned
  cases firstError? test table.records <;> rfl

theorem Valid.without (hvalid : table.Valid) (hnone : firstError? test table.records = none) :
    (table.without test).Valid := by
  have hremove : table.removeWhere test =
      .ok ((table.records.filter (accepts test)).length, table.without test) := by
    rw [removeWhere_eq, scanned, hnone]
  exact hvalid.remove hremove

theorem Valid.containsId_without (hvalid : table.Valid)
    (hnone : firstError? test table.records = none) {record : Record}
    (hrecord : record ∈ table.records) (haccepts : accepts test record = true) :
    (table.without test).containsId record.id = false := by
  rw [Bool.eq_false_iff, ne_eq, (hvalid.without hnone).containsId_iff, recordIds, List.mem_map]
  rintro ⟨other, hother, hsame⟩
  -- Ids do not repeat, so a kept record with this id would be the removed one.
  obtain ⟨hmem, hkept⟩ := List.mem_filter.mp hother
  obtain rfl : other = record := hvalid.eq_of_key? hmem hrecord (congrArg Key.ofValue? hsame)
  simp [haccepts] at hkept

/-- After a removal the same test selects nothing. -/
theorem scanned_without (hnone : firstError? test table.records = none) :
    scanned test (table.without test).records
      ((table.without test).records.filter (accepts test)) = .ok [] := by
  have hrest : firstError? test (table.without test).records = none := by
    unfold firstError? at hnone ⊢
    rw [List.findSome?_eq_none_iff] at hnone ⊢
    intro record hrecord
    exact hnone record (List.mem_filter.mp hrecord).1
  have hempty : (table.without test).records.filter (accepts test) = [] := by
    rw [List.filter_eq_nil_iff]
    intro record hrecord haccepts
    simp [haccepts, Table.without] at hrecord
  rw [scanned, hrest, hempty]

theorem without_eq_self (hidle : (table.records.filter (accepts test)).length = 0) :
    table.without test = table := by
  have hnone : table.records.filter (accepts test) = [] := List.length_eq_zero_iff.mp hidle
  have hkept : table.records.filter (fun record => !accepts test record) = table.records := by
    rw [List.filter_eq_self]
    intro record hrecord
    simpa using List.filter_eq_nil_iff.mp hnone record hrecord
  rw [Table.without, hkept, hnone]
  simp

/-- A test that accepts all records removes what clearing the table removes. -/
theorem Valid.removeWhere_all (hvalid : table.Valid) (hall : ∀ record, test record = .ok true) :
    table.removeWhere test = .ok (table.size, table.clear) := by
  have hnone : firstError? test table.records = none := by
    rw [firstError?, List.findSome?_eq_none_iff]
    intro record _
    rw [hall]
  have haccepts : accepts test = fun _ => true := by
    funext record
    rw [accepts, hall]
  rw [removeWhere_eq, scanned, hnone, Table.without, haccepts, hvalid.ids_eq]
  simp [clear, size]

/-! ## Update -/

/-- The table with the changes in the records that the test accepts. -/
def overwritten (test : Record → Except ε Bool) (changes : Keyed Value) (table : Table) : Table :=
  { table with records := table.records.map (updated test changes) }

theorem updateWhere_eq (test : Record → Except ε Bool) (changes : Keyed Value) (table : Table) :
    table.updateWhere test changes = scanned test table.records
      ((table.records.filter (accepts test)).length, table.overwritten test changes) := by
  rw [updateWhere, mergeWhere_eq, ← List.countP_eq_length_filter]
  unfold scanned
  cases firstError? test table.records <;> rfl

theorem overwritten_eq_self {changes : Keyed Value}
    (hidle : (table.records.filter (accepts test)).length = 0) :
    table.overwritten test changes = table := by
  have hnone := List.filter_eq_nil_iff.mp (List.length_eq_zero_iff.mp hidle)
  have hsame : table.records.map (updated test changes) = table.records.map id := by
    apply List.map_congr_left
    intro record hrecord
    rw [updated, if_neg (hnone record hrecord), id]
  rw [overwritten, hsame, List.map_id]

theorem recordIds_overwritten {changes : Keyed Value}
    (hid : Keyed.contains idField changes = false) :
    (table.overwritten test changes).recordIds = table.recordIds := by
  rw [recordIds, overwritten, List.map_map, recordIds]
  apply List.map_congr_left
  intro record _
  rw [Function.comp_apply, updated]
  split_ifs
  · exact Record.id_merge hid
  · rfl

end Table

end DocumentStore
