import DocumentStore.Proofs.Database.NoTrace
import DocumentStore.Proofs.Table.Ids

/-!
# Appending records

Records are appended one after the other, so a list of them can be cut anywhere: the part that comes
later starts from the table that the earlier part has left.  What a success means for the table is
said once for the whole list.
-/

namespace DocumentStore

/-- The record has the given fields and its id, which is added if it is not among them. -/
def Record.Completes (record : Record) (fields : Value) : Prop :=
  ∃ entries, fields = .map entries ∧ record.fields =
    if Keyed.contains idField entries then entries else Keyed.insert idField record.id entries

theorem Table.prepare_completes {name : String} {fields : Value} {table prepared : Table}
    {record : Record} (hprepare : table.prepare name fields = .ok (record, prepared)) :
    record.Completes fields := by
  obtain ⟨entries, key, rfl, -, hkey, -, -, hfields⟩ := prepare_eq_ok hprepare
  have hid : key.toValue = record.id := Key.ofValue?_eq_some_iff.mp hkey
  refine ⟨entries, rfl, ?_⟩
  rcases hfields with hsame | ⟨hnone, -, hinserted⟩
  · have hfound : Keyed.contains idField entries = true := by
      rw [Keyed.contains]
      cases hfind : Keyed.find? idField entries with
      | some id => rfl
      | none =>
          rw [Record.id, Record.field, Record.get?, hsame, hfind] at hid
          cases key <;> cases hid
    rw [hfound, if_pos rfl, hsame]
  · rw [Keyed.contains, hnone, hinserted, hid]
    rfl

namespace Database

variable {name : String} {validator : Validator} {table later : Table}

theorem appendAll_append (name : String) (validator : Validator) (first rest : List Value)
    (table : Table) :
    appendAll name validator (first ++ rest) table =
      (appendAll name validator first table >>= fun done =>
        (appendAll name validator rest done.2).map fun more => (done.1 ++ more.1, more.2)) := by
  induction first generalizing table with
  | nil =>
      cases hrest : appendAll name validator rest table <;>
        simp [appendAll, hrest, bind, Except.bind, Except.map]
  | cons fields others ih =>
      simp only [List.cons_append, appendAll, ih]
      cases table.prepare name fields with
      | error error => rfl
      | ok made =>
          cases hvalidate : (validator made.1).mapError (Error.validationFailed name) with
          | error error => simp [hvalidate, bind, Except.bind]
          | ok =>
              cases hothers : appendAll name validator others (made.2.push made.1) with
              | error error => simp [hvalidate, hothers, bind, Except.bind]
              | ok done =>
                  cases hrest : appendAll name validator rest done.2 <;>
                    simp [hvalidate, hothers, hrest, bind, Except.bind, Except.map, pure,
                      Except.pure]

/-- A successful append cut before one of its records. -/
theorem appendAll_cut {before after : List Value} {fields : Value} {ids : List Value}
    (happend : appendAll name validator (before ++ fields :: after) table = .ok (ids, later)) :
    ∃ given middle record prepared others,
      appendAll name validator before table = .ok (given, middle) ∧
        middle.prepare name fields = .ok (record, prepared) ∧
        appendAll name validator after (prepared.push record) = .ok (others, later) ∧
        ids = given ++ record.id :: others := by
  rw [appendAll_append, bind_eq_ok_iff] at happend
  obtain ⟨⟨given, middle⟩, hbefore, hrest⟩ := happend
  obtain ⟨⟨more, last⟩, hmore, heq⟩ := map_eq_ok_iff.mp hrest
  cases heq
  obtain ⟨record, prepared, others, hprepare, -, hothers, rfl⟩ := appendAll_cons_eq_ok hmore
  exact ⟨given, middle, record, prepared, others, hbefore, hprepare, hothers, rfl⟩

/-- Records that are refused make the whole list refused, if the records before them are not. -/
theorem appendAll_refused {before given rest : List Value} {middle : Table} {error : Error}
    (hbefore : appendAll name validator before table = .ok (given, middle))
    (hrest : appendAll name validator rest middle = .error error) (after : List Value) :
    appendAll name validator (before ++ (rest ++ after)) table = .error error := by
  rw [appendAll_append, hbefore]
  simp [appendAll_append, hrest, bind, Except.bind, Except.map]

theorem appendAll_valid (hvalid : table.Valid) {records ids : List Value}
    (happend : appendAll name validator records table = .ok (ids, later)) : later.Valid := by
  induction records generalizing table ids with
  | nil =>
      cases happend
      exact hvalid
  | cons fields rest ih =>
      obtain ⟨record, prepared, others, hprepare, -, hrest, -⟩ := appendAll_cons_eq_ok happend
      exact ih (hvalid.push hprepare) hrest

/-- The records that are appended complete the given fields, and the validator accepts each. -/
theorem appendAll_eq_ok {records ids : List Value}
    (happend : appendAll name validator records table = .ok (ids, later)) :
    ∃ added, later.records = table.records ++ added ∧ ids = added.map Record.id ∧
      List.Forall₂ (fun fields record => Record.Completes record fields ∧
        validator record = .ok ()) records added := by
  induction records generalizing table ids with
  | nil =>
      cases happend
      exact ⟨[], by simp, rfl, .nil⟩
  | cons fields rest ih =>
      obtain ⟨record, prepared, others, hprepare, hvalidate, hrest, rfl⟩ :=
        appendAll_cons_eq_ok happend
      obtain ⟨added, hadded, rfl, hcompletes⟩ := ih hrest
      have hrecord := Table.prepare_completes hprepare
      have hkept : prepared.records = table.records := by
        obtain ⟨_, _, -, -, -, -, hprepared, -⟩ := Table.prepare_eq_ok hprepare
        rw [hprepared]
      refine ⟨record :: added, ?_, rfl, .cons ⟨hrecord, hvalidate⟩ hcompletes⟩
      rw [hadded, Table.push, hkept, List.append_assoc, List.singleton_append]

theorem appendAll_recordIds {records ids : List Value}
    (happend : appendAll name validator records table = .ok (ids, later)) :
    later.recordIds = table.recordIds ++ ids := by
  obtain ⟨added, hadded, rfl, -⟩ := appendAll_eq_ok happend
  rw [Table.recordIds, hadded, List.map_append, Table.recordIds]

/-! ## Calls -/

variable {database : Database}

theorem addAll_nil (hname : isTableName name = true) (validator : Validator) (disk : Disk) :
    database.addAll name [] validator disk = ⟨.ok [], database, disk⟩ := by
  rw [addAll, appended, checkName, if_pos hname]
  rfl

theorem addAll_eq (hname : isTableName name = true) (validator : Validator)
    {records : List Value} (hrecords : records ≠ []) (disk : Disk) :
    database.addAll name records validator disk =
      match appendAll name validator records
        ((Keyed.find? name database.tables).getD Table.empty) with
      | .error error => ⟨.error error, database, disk⟩
      | .ok (ids, last) => database.commit name last ids disk := by
  rw [addAll, appended, checkName, if_pos hname, List.isEmpty_eq_false_iff.mpr hrecords]
  rcases hdone : appendAll name validator records
    ((Keyed.find? name database.tables).getD Table.empty) with error | ⟨ids, last⟩ <;>
      simp [hdone, bind, Except.bind, pure, Except.pure, write]

/-- A batch is refused for its records, or its table is not written, or it is put in memory and into
its file. -/
theorem addAll_cases (hname : isTableName name = true) (validator : Validator)
    {records : List Value} (hrecords : records ≠ []) (database : Database) (disk : Disk) :
    let table := (Keyed.find? name database.tables).getD Table.empty
    let outcome := database.addAll name records validator disk
    (∃ error, appendAll name validator records table = .error error ∧
        outcome = ⟨.error error, database, disk⟩) ∨
      (∃ ids last refusal, appendAll name validator records table = .ok (ids, last) ∧
        (database.files.flush name last disk).1 = .error refusal ∧
        outcome.result = .error (.disk refusal)) ∨
      ∃ ids last later, appendAll name validator records table = .ok (ids, last) ∧
        database.files.flush name last disk = (.ok (), later) ∧
        outcome =
          ⟨.ok ids, { database with tables := Keyed.insert name last database.tables }, later⟩ := by
  dsimp only
  rw [addAll_eq hname validator hrecords]
  rcases appendAll name validator records
    ((Keyed.find? name database.tables).getD Table.empty) with error | ⟨ids, last⟩
  · exact Or.inl ⟨error, rfl, rfl⟩
  · simp only [commit]
    rcases hflush : database.files.flush name last disk with ⟨refusal | ⟨⟩, later⟩
    · exact Or.inr (Or.inl ⟨ids, last, refusal, rfl, by rw [hflush], rfl⟩)
    · exact Or.inr (Or.inr ⟨ids, last, later, rfl, hflush, rfl⟩)

theorem addAll_eq_ok (hname : isTableName name = true) {records ids : List Value}
    (hrecords : records ≠ []) {disk : Disk}
    (hadd : (database.addAll name records validator disk).result = .ok ids) :
    ∃ last, appendAll name validator records
      ((Keyed.find? name database.tables).getD Table.empty) = .ok (ids, last) := by
  rcases addAll_cases hname validator hrecords database disk with
    ⟨error, -, houtcome⟩ | ⟨_, _, refusal, -, -, hrefused⟩ |
      ⟨found, last, later, happend, -, houtcome⟩
  · rw [houtcome] at hadd
    cases hadd
  · cases hrefused.symm.trans hadd
  · rw [houtcome] at hadd
    cases hadd
    exact ⟨last, happend⟩

/-- A batch is refused with the error of the first of its records that is refused. -/
theorem addAll_refused (hname : isTableName name = true) {before given : List Value}
    {middle : Table} (hbefore : appendAll name validator before
      ((Keyed.find? name database.tables).getD Table.empty) = .ok (given, middle))
    {fields : Value} {error : Error} (hprepare : middle.prepare name fields = .error error)
    (after : List Value) (disk : Disk) :
    (database.addAll name (before ++ fields :: after) validator disk).result = .error error := by
  have hrest : appendAll name validator [fields] middle = .error error := by
    rw [appendAll, hprepare]
    rfl
  have hall : appendAll name validator (before ++ fields :: after)
      ((Keyed.find? name database.tables).getD Table.empty) = .error error :=
    appendAll_refused hbefore hrest after
  rw [addAll_eq hname validator (by simp), hall]

/-- Adding one record is adding a list of one, but for the form of the answer. -/
theorem add_eq (name : String) (fields : Value) (validator : Validator) (database : Database)
    (disk : Disk) :
    database.add name fields validator disk =
      (database.addAll name [fields] validator disk).map fun ids => ids.headD .null := by
  rw [add, addAll]
  rcases database.appended name [fields] validator with error | ⟨ids, _ | table⟩
  · rfl
  · rfl
  · simp only [Except.map, write, commit]
    rcases database.files.flush name table disk with ⟨refusal | ⟨⟩, later⟩ <;> rfl

end Database

end DocumentStore
