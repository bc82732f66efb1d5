import DocumentStore.Proofs.Database.Call
import DocumentStore.Proofs.Table.Reach

/-!
# What writes make of a table

Every write that commits a table has a valid name for it and has made it, by operations on tables,
from the table of that name or from an empty one.
-/

namespace DocumentStore

/-- All maps among the arguments are in name order. -/
def Call.Sorted : Call → Prop
  | .add _ fields _ => fields.Sorted
  | .addAll _ records _ => ∀ fields ∈ records, fields.Sorted
  | .update _ changes _ => ∀ fields, changes = .ok fields → ∀ change ∈ fields, change.2.Sorted
  | .delete .. | .truncate .. | .drop .. | .burn | .find .. | .count .. | .list => True

namespace Database

/-- Operations lead to the table from the one of that name, or from an empty one. -/
structure Makes (database : Database) (name : String) (table : Table) : Prop where
  isName : isTableName name = true
  reaches : ((Keyed.find? name database.tables).getD Table.empty).Reaches table

variable {database : Database} {name : String} {table : Table}

theorem checkName_eq_ok (hcheck : checkName name = .ok ()) : isTableName name = true := by
  unfold checkName at hcheck
  split_ifs at hcheck with hname
  exact hname

theorem table_eq_ok (htable : database.table name = .ok table) :
    isTableName name = true ∧ Keyed.find? name database.tables = some table := by
  simp only [Database.table, bind_eq_ok_iff] at htable
  obtain ⟨⟨⟩, hcheck, hbody⟩ := htable
  refine ⟨checkName_eq_ok hcheck, ?_⟩
  cases hfind : Keyed.find? name database.tables with
  | none => simp [hfind] at hbody
  | some found =>
      rw [hfind] at hbody
      cases hbody
      rfl

theorem makes_of_change {start : Table} (hstart : database.table name = .ok start)
    (hchange : start.Change table) : database.Makes name table := by
  obtain ⟨hname, hfind⟩ := table_eq_ok hstart
  refine ⟨hname, ?_⟩
  rw [hfind]
  exact Relation.ReflTransGen.single hchange

/-- The first record is prepared, validated and pushed, and the others follow. -/
theorem appendAll_cons_eq_ok {validator : Validator} {fields : Value} {rest ids : List Value}
    {start : Table} (happend : appendAll name validator (fields :: rest) start = .ok (ids, table)) :
    ∃ record prepared others, start.prepare name fields = .ok (record, prepared) ∧
      validator record = .ok () ∧
      appendAll name validator rest (prepared.push record) = .ok (others, table) ∧
      ids = record.id :: others := by
  simp only [appendAll, bind_eq_ok_iff, mapError_eq_ok_iff] at happend
  obtain ⟨⟨record, prepared⟩, hprepare, ⟨⟩, hvalidate, ⟨others, last⟩, hrest, heq⟩ := happend
  cases heq
  exact ⟨record, prepared, others, hprepare, hvalidate, hrest, rfl⟩

theorem appendAll_reaches {validator : Validator} {records : List Value} {start : Table}
    {ids : List Value} (hsorted : ∀ fields ∈ records, fields.Sorted)
    (happend : appendAll name validator records start = .ok (ids, table)) :
    start.Reaches table := by
  induction records generalizing start ids with
  | nil =>
      cases happend
      exact Relation.ReflTransGen.refl
  | cons fields rest ih =>
      rw [List.forall_mem_cons] at hsorted
      obtain ⟨record, prepared, others, hprepare, -, hrest, -⟩ := appendAll_cons_eq_ok happend
      exact Relation.ReflTransGen.head (Table.Change.push hsorted.1 hprepare) (ih hsorted.2 hrest)

theorem appended_makes {validator : Validator} {records ids : List Value}
    (hsorted : ∀ fields ∈ records, fields.Sorted)
    (happended : database.appended name records validator = .ok (ids, some table)) :
    database.Makes name table := by
  simp only [appended, bind_eq_ok_iff] at happended
  obtain ⟨⟨⟩, hcheck, hbody⟩ := happended
  split_ifs at hbody
  · cases hbody
  · simp only [bind_eq_ok_iff] at hbody
    obtain ⟨⟨others, last⟩, happend, heq⟩ := hbody
    cases heq
    exact ⟨checkName_eq_ok hcheck, appendAll_reaches hsorted happend⟩

theorem changed_eq_some {change : Nat × Table} {count : Nat}
    (hchange : changed change = (count, some table)) : change = (count, table) := by
  simp only [changed, Prod.mk.injEq] at hchange
  obtain ⟨rfl, hsome⟩ := hchange
  split_ifs at hsome
  cases hsome
  rfl

theorem updated_makes {changes : Changes} {filters : Filters} {count : Nat}
    (hsorted : ∀ fields, changes = .ok fields → ∀ change ∈ fields, change.2.Sorted)
    (hupdated : database.updated name changes filters = .ok (count, some table)) :
    database.Makes name table := by
  simp only [updated, bind_eq_ok_iff, mapError_eq_ok_iff] at hupdated
  obtain ⟨fields, hfields, predicates, -, hbody⟩ := hupdated
  split_ifs at hbody with hid
  · cases hbody
  · simp only [bind_eq_ok_iff, mapError_eq_ok_iff] at hbody
    obtain ⟨⟨⟩, hstorable, start, hstart, change, hupdate, heq⟩ := hbody
    obtain rfl := changed_eq_some (Except.ok.inj heq)
    exact makes_of_change hstart (Table.Change.update (by simpa using hid)
      (hsorted fields hfields) hstorable hupdate)

theorem deleted_makes {filters : Filters} {count : Nat}
    (hdeleted : database.deleted name filters = .ok (count, some table)) :
    database.Makes name table := by
  simp only [deleted, bind_eq_ok_iff, mapError_eq_ok_iff] at hdeleted
  obtain ⟨predicates, -, start, hstart, change, hremove, heq⟩ := hdeleted
  obtain rfl := changed_eq_some (Except.ok.inj heq)
  exact makes_of_change hstart (Table.Change.remove hremove)

theorem truncated_makes {count : Nat}
    (htruncated : (database.table name).map (fun table => changed (table.size, table.clear)) =
      .ok (count, some table)) : database.Makes name table := by
  obtain ⟨start, hstart, hcleared⟩ := map_eq_ok_iff.mp htruncated
  cases changed_eq_some hcleared
  exact makes_of_change hstart Table.Change.clear

end Database

end DocumentStore
