import DocumentStore.Proofs.Table.Invariant

/-!
# What the operations on tables can do

One lemma for each operation says everything that a success of it means.  Validity of tables and
properties of all their fields are derived from these lemmas, for a single operation
(`Table.Change`) and for any sequence of them (`Table.Reaches`).

Removal and update test one record after the other and stop at the first one that the test fails on.
What they give is written with `scanned`, which stands for that common order of tests.
-/

namespace DocumentStore

theorem checkStorable_eq_ok_iff (values : List Value) :
    checkStorable values = .ok () ↔
      ∀ value ∈ values, value.isFinite = true ∧ value.depth ≤ maxNesting := by
  induction values with
  | nil => simp [checkStorable]
  | cons value rest ih =>
      rw [List.forall_mem_cons, ← ih, checkStorable, ← Value.exceedsDepth_eq_false_iff]
      cases value.isFinite <;> cases value.exceedsDepth maxNesting <;> simp

/-- All fields of the record have the property, and they stand in name order. -/
structure Record.Holds (property : Value → Prop) (record : Record) : Prop where
  sorted : Keyed.Sorted record.fields
  fields : ∀ field ∈ record.fields, property field.2

namespace Table

def Holds (property : Value → Prop) (table : Table) : Prop :=
  ∀ record ∈ table.records, record.Holds property

/-! ## Preparing -/

/-- A record is prepared from a map of storable values; it carries an id that was free, and the
counter moves above it. -/
theorem prepare_eq_ok {name : String} {fields : Value} {table prepared : Table} {record : Record}
    (hprepare : table.prepare name fields = .ok (record, prepared)) :
    ∃ entries key, fields = .map entries ∧ checkStorable (entries.map Prod.snd) = .ok () ∧
      record.key? = some key ∧ key ∉ table.ids ∧
      prepared = { table with nextId := key.reserve table.nextId } ∧
      (record.fields = entries ∨
        (Keyed.find? idField entries = none ∧ key = .integer table.nextId ∧
          record.fields = Keyed.insert idField key.toValue entries)) := by
  cases fields with
  | map entries =>
      simp only [prepare] at hprepare
      cases hstorable : checkStorable (entries.map Prod.snd) with
      | error fault => simp [hstorable] at hprepare
      | ok =>
          simp only [hstorable] at hprepare
          cases hid : Keyed.find? idField entries with
          | none =>
              simp only [hid] at hprepare
              split at hprepare
              next => simp at hprepare
              next hfree =>
                  simp only [Except.ok.injEq, Prod.mk.injEq] at hprepare
                  obtain ⟨rfl, rfl⟩ := hprepare
                  refine ⟨entries, .integer table.nextId, rfl, hstorable, ?_, by simpa using hfree, ?_,
                    Or.inr ⟨hid, rfl, rfl⟩⟩
                  · simp [Record.key?, Record.id, Record.field, Record.get?, Key.ofValue?]
                  · simp [Key.reserve]
          | some id =>
              simp only [hid] at hprepare
              have hfound : Record.key? ⟨entries⟩ = Key.ofValue? id := by
                simp [Record.key?, Record.id, Record.field, Record.get?, hid]
              cases hkey : Key.ofValue? id with
              | none => simp [hkey] at hprepare
              | some key =>
                  simp only [hkey] at hprepare
                  split at hprepare
                  next => simp at hprepare
                  next hfree =>
                      refine ⟨entries, key, rfl, hstorable, ?_⟩
                      cases key with
                      | integer n =>
                          simp only [Except.ok.injEq, Prod.mk.injEq] at hprepare
                          obtain ⟨rfl, rfl⟩ := hprepare
                          exact ⟨hfound.trans hkey, by simpa using hfree, rfl, Or.inl rfl⟩
                      | text s =>
                          simp only [Except.ok.injEq, Prod.mk.injEq] at hprepare
                          obtain ⟨rfl, rfl⟩ := hprepare
                          exact ⟨hfound.trans hkey, by simpa using hfree, rfl, Or.inl rfl⟩
  | null | boolean | integer | float | text | list => simp [prepare] at hprepare

/-! ## Tests of all records -/

/-- The test accepts the record and does not fail on it. -/
def accepts {ε : Type} (test : Record → Except ε Bool) (record : Record) : Bool :=
  match test record with
  | .ok accepted => accepted
  | .error _ => false

/-- The error of the first record that the test fails on. -/
def firstError? {ε : Type} (test : Record → Except ε Bool) (records : List Record) : Option ε :=
  records.findSome? fun record =>
    match test record with
    | .error error => some error
    | .ok _ => none

/-- The value, unless the test fails on one of the records. -/
def scanned {ε α : Type} (test : Record → Except ε Bool) (records : List Record) (value : α) :
    Except ε α :=
  match firstError? test records with
  | some error => .error error
  | none => .ok value

theorem scanned_cons {ε α : Type} (test : Record → Except ε Bool) (record : Record)
    (records : List Record) (value : α) :
    scanned test (record :: records) value =
      (test record >>= fun _ => scanned test records value) := by
  unfold scanned firstError?
  rw [List.findSome?_cons]
  cases test record <;> rfl

theorem scanned_eq_ok {ε α : Type} {test : Record → Except ε Bool} {records : List Record}
    {value found : α} (hscanned : scanned test records value = .ok found) : value = found := by
  unfold scanned at hscanned
  cases hfirst : firstError? test records with
  | some error => simp [hfirst] at hscanned
  | none => simpa [hfirst] using hscanned

theorem partition_eq {ε : Type} (test : Record → Except ε Bool) (records : List Record) :
    partition test records = scanned test records
      (records.filter (accepts test), records.filter fun record => !accepts test record) := by
  induction records with
  | nil => rfl
  | cons record rest ih =>
      rw [partition, ih, scanned_cons]
      cases htest : test record with
      | error error => rfl
      | ok chosen =>
          have haccepts : accepts test record = chosen := by simp [accepts, htest]
          unfold scanned
          cases firstError? test rest with
          | some error => rfl
          | none => cases chosen <;> simp [haccepts, bind, Except.bind, pure, Except.pure]

theorem partition_eq_ok {ε : Type} {test : Record → Except ε Bool}
    {records inside outside : List Record}
    (hpartition : partition test records = .ok (inside, outside)) :
    inside = records.filter (accepts test) ∧
      outside = records.filter (fun record => !accepts test record) := by
  rw [partition_eq] at hpartition
  cases scanned_eq_ok hpartition
  exact ⟨rfl, rfl⟩

def updated {ε : Type} (test : Record → Except ε Bool) (changes : Keyed Value)
    (record : Record) : Record :=
  if accepts test record then record.merge changes else record

theorem mergeWhere_eq {ε : Type} (test : Record → Except ε Bool) (changes : Keyed Value)
    (records : List Record) :
    mergeWhere test changes records = scanned test records
      (records.countP (accepts test), records.map (updated test changes)) := by
  induction records with
  | nil => rfl
  | cons record rest ih =>
      rw [mergeWhere, ih, scanned_cons]
      cases htest : test record with
      | error error => rfl
      | ok chosen =>
          have haccepts : accepts test record = chosen := by simp [accepts, htest]
          unfold scanned
          cases firstError? test rest with
          | some error => rfl
          | none => cases chosen <;> simp [haccepts, updated, bind, Except.bind, pure, Except.pure]

theorem mergeWhere_eq_ok {ε : Type} {test : Record → Except ε Bool} {changes : Keyed Value}
    {records merged : List Record} {count : Nat}
    (hmerge : mergeWhere test changes records = .ok (count, merged)) :
    count = records.countP (accepts test) ∧ merged = records.map (updated test changes) := by
  rw [mergeWhere_eq] at hmerge
  cases scanned_eq_ok hmerge
  exact ⟨rfl, rfl⟩

/-! ## Removal and update -/

theorem removeWhere_eq_ok {ε : Type} {test : Record → Except ε Bool} {table kept : Table}
    {count : Nat} (hremove : table.removeWhere test = .ok (count, kept)) :
    let removed := table.records.filter (accepts test)
    count = removed.length ∧
      kept = { table with
        records := table.records.filter fun record => !accepts test record
        ids := table.ids.filter fun key => !(removed.filterMap Record.key?).contains key } := by
  simp only [removeWhere, bind_eq_ok_iff, pure_eq_ok_iff] at hremove
  obtain ⟨⟨inside, outside⟩, hpartition, heq⟩ := hremove
  obtain ⟨rfl, rfl⟩ := partition_eq_ok hpartition
  simp only [Prod.mk.injEq] at heq
  exact ⟨heq.1.symm, heq.2.symm⟩

theorem updateWhere_eq_ok {ε : Type} {test : Record → Except ε Bool} {changes : Keyed Value}
    {table merged : Table} {count : Nat}
    (hupdate : table.updateWhere test changes = .ok (count, merged)) :
    count = table.records.countP (accepts test) ∧
      merged = { table with records := table.records.map (updated test changes) } := by
  simp only [updateWhere, bind_eq_ok_iff, pure_eq_ok_iff] at hupdate
  obtain ⟨⟨restCount, records⟩, hmerge, heq⟩ := hupdate
  obtain ⟨rfl, rfl⟩ := mergeWhere_eq_ok hmerge
  simp only [Prod.mk.injEq] at heq
  exact ⟨heq.1.symm, heq.2.symm⟩

end Table

end DocumentStore
