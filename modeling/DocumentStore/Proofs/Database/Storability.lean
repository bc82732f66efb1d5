import DocumentStore.Proofs.Database.AssignedIds
import DocumentStore.Proofs.Value.Storability

/-!
# Only values that may be stored get in

Values come into a table in two ways, with the records that are added and with the changes of an
update.  Both check all fields before anything else happens to the table, and refuse the call exactly
if a field may not be stored.  So a table that has started out empty never holds such a field, over
any run with reopenings.
-/

namespace DocumentStore

/-- The call is refused with this fault exactly if there is reason for it, and then it changes
nothing. -/
structure Outcome.RefusedFor {α : Type} (outcome : Outcome α) (database : Database) (disk : Disk)
    (fault : RecordFault) (reason : Prop) : Prop where
  result : outcome.result = .error (.invalidRecord fault) ↔ reason
  unchanged : reason → outcome.database = database ∧ outcome.disk = disk

namespace Table

/-- Of all faults of a record, these two come from the check of its values. -/
theorem prepare_eq_fault_iff {fault : RecordFault} (hfault : fault = .nonFinite ∨ fault = .tooDeep)
    (name : String) (fields : Value) (table : Table) :
    table.prepare name fields = .error (.invalidRecord fault) ↔
      ∃ entries, fields = .map entries ∧ checkStorable (entries.map Prod.snd) = .error fault := by
  have hform : ∀ kind, fault ≠ .notMap kind ∧ fault ≠ .idKind kind := by
    intro kind
    rcases hfault with rfl | rfl <;> simp
  cases fields with
  | null | boolean | integer | float | text | list =>
      simp only [prepare, Except.error.injEq, Error.invalidRecord.injEq, reduceCtorEq, false_and,
        exists_false, iff_false]
      exact (hform _).1.symm
  | map entries =>
      simp only [Value.map.injEq, exists_eq_left']
      cases hcheck : checkStorable (entries.map Prod.snd) with
      | error found => simp [prepare, hcheck]
      | ok =>
          simp only [reduceCtorEq, iff_false]
          cases hid : Keyed.find? idField entries with
          | none =>
              rw [prepare_of_find?_none name hid, hcheck]
              change (if _ then _ else _) ≠ _
              split_ifs <;> simp
          | some id =>
              cases hkey : Key.ofValue? id with
              | none =>
                  simp only [prepare, hcheck, hid, hkey, ne_eq, Except.error.injEq,
                    Error.invalidRecord.injEq]
                  exact (hform _).2.symm
              | some key =>
                  rw [← Key.ofValue?_eq_some_iff.mp hkey] at hid
                  rw [prepare_of_find?_some name hid, hcheck]
                  change (if _ then _ else _) ≠ _
                  split_ifs <;> simp

end Table

namespace Database

variable {database : Database} {disk : Disk} {name : String} {validator : Validator}
  {fault : RecordFault} {first last : Database × Disk}

/-! ## Refusals -/

/-- A list of records is refused for its first record that cannot be prepared or that the validator
rejects. -/
theorem appendAll_eq_error {records : List Value} {table : Table} {error : Error}
    (hrefused : appendAll name validator records table = .error error) :
    ∃ before fields after given middle, records = before ++ fields :: after ∧
      appendAll name validator before table = .ok (given, middle) ∧
      (middle.prepare name fields = .error error ∨
        ∃ reason, error = .validationFailed name reason) := by
  induction records generalizing table with
  | nil => cases hrefused
  | cons fields rest ih =>
      rw [appendAll] at hrefused
      cases hprepare : table.prepare name fields with
      | error found =>
          rw [hprepare] at hrefused
          cases hrefused
          exact ⟨[], fields, rest, [], table, rfl, rfl, Or.inl hprepare⟩
      | ok made =>
          obtain ⟨record, prepared⟩ := made
          rw [hprepare] at hrefused
          cases hvalidate : validator record with
          | error reason =>
              simp only [bind, Except.bind, hvalidate, Except.mapError] at hrefused
              cases hrefused
              exact ⟨[], fields, rest, [], table, rfl, rfl, Or.inr ⟨reason, rfl⟩⟩
          | ok =>
              cases hrest : appendAll name validator rest (prepared.push record) with
              | ok done => simp [bind, Except.bind, hvalidate, Except.mapError, hrest, pure,
                  Except.pure] at hrefused
              | error found =>
                  simp only [bind, Except.bind, hvalidate, Except.mapError, hrest] at hrefused
                  cases hrefused
                  obtain ⟨before, next, after, given, middle, rfl, hbefore, hnext⟩ := ih hrest
                  refine ⟨fields :: before, next, after, record.id :: given, middle, rfl, ?_, hnext⟩
                  simp [appendAll, hprepare, hvalidate, hbefore, bind, Except.bind, Except.mapError,
                    pure, Except.pure]

/-- After records that are appended there comes one with a field that may not be stored. -/
def MeetsOffence (name : String) (validator : Validator) (records : List Value) (table : Table)
    (fault : RecordFault) : Prop :=
  ∃ before fields after given middle, records = before ++ .map fields :: after ∧
    appendAll name validator before table = .ok (given, middle) ∧ FirstOffence fields fault

theorem appendAll_eq_fault_iff (hfault : fault = .nonFinite ∨ fault = .tooDeep) (name : String)
    (validator : Validator) {records : List Value} (hsorted : ∀ fields ∈ records, fields.Sorted)
    (table : Table) :
    appendAll name validator records table = .error (.invalidRecord fault) ↔
      MeetsOffence name validator records table fault := by
  constructor
  · intro hrefused
    obtain ⟨before, fields, after, given, middle, rfl, hbefore, hprepare | ⟨reason, heq⟩⟩ :=
      appendAll_eq_error hrefused
    · obtain ⟨entries, rfl, hcheck⟩ := (Table.prepare_eq_fault_iff hfault ..).mp hprepare
      have hentries : (Value.map entries).Sorted := hsorted _ (by simp)
      refine ⟨before, entries, after, given, middle, rfl, hbefore, ?_⟩
      exact (checkStorable_eq_error_iff ((Value.sorted_map_iff entries).mp hentries).1 fault).mp
        hcheck
    · cases heq
  · rintro ⟨before, fields, after, given, middle, rfl, hbefore, hoffence⟩
    have hentries : (Value.map fields).Sorted := hsorted _ (by simp)
    have hcheck := (checkStorable_eq_error_iff ((Value.sorted_map_iff fields).mp hentries).1
      fault).mpr hoffence
    have hrest : appendAll name validator [.map fields] middle = .error (.invalidRecord fault) := by
      rw [appendAll, (Table.prepare_eq_fault_iff hfault ..).mpr ⟨fields, rfl, hcheck⟩]
      rfl
    exact appendAll_refused hbefore hrest after

theorem addAll_refusedFor (hname : isTableName name = true)
    (hfault : fault = .nonFinite ∨ fault = .tooDeep) {records : List Value}
    (hsorted : ∀ fields ∈ records, fields.Sorted) :
    (database.addAll name records validator disk).RefusedFor database disk fault
      (MeetsOffence name validator records
        ((Keyed.find? name database.tables).getD Table.empty) fault) := by
  rw [← appendAll_eq_fault_iff hfault name validator hsorted]
  by_cases hempty : records = []
  · subst hempty
    rw [addAll_nil hname]
    exact ⟨by simp [appendAll], by simp [appendAll]⟩
  · rcases addAll_cases hname validator hempty database disk with
      ⟨error, happend, houtcome⟩ | ⟨ids, last, refusal, happend, -, hresult⟩ |
        ⟨ids, last, later, happend, -, houtcome⟩
    · rw [happend, houtcome]
      exact ⟨by simp, fun _ => ⟨rfl, rfl⟩⟩
    · rw [happend]
      exact ⟨by simp [hresult], by simp⟩
    · rw [happend, houtcome]
      exact ⟨by simp, by simp⟩

theorem meetsOffence_singleton_iff {fields : Keyed Value} {table : Table} :
    MeetsOffence name validator [.map fields] table fault ↔ FirstOffence fields fault := by
  constructor
  · rintro ⟨before, entries, after, given, middle, hrecords, -, hoffence⟩
    rw [List.singleton_eq_append_iff] at hrecords
    rcases hrecords with ⟨rfl, heq⟩ | ⟨-, heq⟩
    · cases heq
      exact hoffence
    · cases heq
  · intro hoffence
    exact ⟨[], fields, [], [], table, rfl, rfl, hoffence⟩

theorem add_refusedFor (hname : isTableName name = true)
    (hfault : fault = .nonFinite ∨ fault = .tooDeep) {fields : Keyed Value}
    (hsorted : (Value.map fields).Sorted) :
    (database.add name (.map fields) validator disk).RefusedFor database disk fault
      (FirstOffence fields fault) := by
  have hbatch : (database.addAll name [.map fields] validator disk).RefusedFor database disk fault
      (MeetsOffence name validator [.map fields]
        ((Keyed.find? name database.tables).getD Table.empty) fault) :=
    addAll_refusedFor hname hfault (by simpa using hsorted)
  rw [meetsOffence_singleton_iff] at hbatch
  rw [add_eq]
  constructor
  · rw [← hbatch.result]
    exact map_eq_error_iff
  · exact hbatch.unchanged

theorem table_ne_invalidRecord {error : Error} (htable : database.table name = .error error) :
    error ≠ .invalidRecord fault := by
  rw [Database.table, checkName] at htable
  split_ifs at htable
  · cases hfind : Keyed.find? name database.tables with
    | some table => simp [hfind, bind, Except.bind, pure, Except.pure] at htable
    | none =>
        rw [hfind] at htable
        cases htable
        simp
  · cases htable
    simp

/-- Writing a table does not find fault with records. -/
theorem write_ne_invalidRecord {α : Type} {change : Except Error (α × Option Table)}
    (hchange : ∀ error, change = .error error → error ≠ .invalidRecord fault) :
    (database.write name change disk).result ≠ .error (.invalidRecord fault) := by
  rcases change with error | ⟨result, _ | table⟩
  · intro hresult
    exact hchange error rfl (Except.error.inj hresult)
  · simp [write]
  · rw [write, commit]
    rcases database.files.flush name table disk with ⟨refusal | ⟨⟩, later⟩ <;> simp

/-- The changes are checked before the table is looked for, and even before its name is. -/
theorem update_refusedFor {changes : Keyed Value} (hsorted : Keyed.Sorted changes)
    (hid : Keyed.contains idField changes = false) (predicates : List Predicate) :
    (database.update name (.ok changes) (.ok predicates) disk).RefusedFor database disk fault
      (FirstOffence changes fault) := by
  rw [← checkStorable_eq_error_iff hsorted fault]
  have hupdated : database.updated name (.ok changes) (.ok predicates) =
      ((checkStorable (changes.map Prod.snd)).mapError Error.invalidRecord >>= fun _ =>
        database.table name >>= fun table =>
          (table.updateWhere (Predicate.matchesAll predicates) changes).mapError
            Error.evaluation >>= fun change => pure (changed change)) := by
    rw [updated]
    change (if Keyed.contains idField changes = true then _ else _) = _
    rw [hid, if_neg Bool.false_ne_true]
  cases hcheck : checkStorable (changes.map Prod.snd) with
  | error found =>
      have hrefused : database.update name (.ok changes) (.ok predicates) disk =
          ⟨.error (.invalidRecord found), database, disk⟩ := by
        rw [update, hupdated, hcheck]
        rfl
      rw [hrefused]
      exact ⟨by simp, fun _ => ⟨rfl, rfl⟩⟩
  | ok =>
      have hother : ∀ error, database.updated name (.ok changes) (.ok predicates) = .error error →
          error ≠ .invalidRecord fault := by
        intro error herror
        rw [hupdated, hcheck] at herror
        change (database.table name >>= _) = _ at herror
        cases htable : database.table name with
        | error found =>
            rw [htable] at herror
            cases herror
            exact table_ne_invalidRecord htable
        | ok table =>
            rw [htable] at herror
            change (Except.mapError Error.evaluation _ >>= _) = _ at herror
            cases hupdate : table.updateWhere (Predicate.matchesAll predicates) changes with
            | ok change => simp [hupdate, Except.mapError, bind, Except.bind, pure,
                Except.pure] at herror
            | error evaluation =>
                rw [hupdate] at herror
                cases herror
                simp
      constructor
      · simp only [reduceCtorEq, iff_false]
        exact write_ne_invalidRecord hother
      · simp

/-! ## Runs -/

/-- Over any run with reopenings a table keeps a property of its fields that all values have which
may be stored, also if it is dropped and comes back. -/
theorem holds_of_steps {property : Value → Prop}
    (hproperty : ∀ value : Value, value.Storable → property value) (hinStep : first.1.InStep first.2)
    (hsteps : Relation.ReflTransGen Step first last)
    (hfirst : ((Keyed.find? name first.1.tables).getD Table.empty).Holds property) :
    ((Keyed.find? name last.1.tables).getD Table.empty).Holds property := by
  induction hsteps with
  | refl => exact hfirst
  | tail hbefore hstep ih =>
      rename_i middle last
      cases hfind : Keyed.find? name last.1.tables with
      | none => exact Table.holds_empty
      | some table =>
          exact ih.reaches hproperty (hstep.reaches (hinStep.steps hbefore) hfind)

/-- The descent that stops at a limit finds the depth to exceed it exactly if it does.  An added
record, a record that a batch comes to and the changes of an update are refused for a field that may
not be stored exactly if there is one, with the fault of the first in name order, and then nothing
changes.  So no field of a table that was empty, or not there, at some time has a NaN or an infinity
inside or nests too deep at any later time. -/
theorem storable_values_alone_get_in :
    (∀ (value : Value) (limit : Nat), value.exceedsDepth limit = true ↔ limit < value.depth) ∧
      (∀ fields : Keyed Value, Keyed.Sorted fields →
        ((∃ fault, FirstOffence fields fault) ↔
          ∃ field ∈ fields, field.2.NonFinite ∨ maxNesting < field.2.depth)) ∧
      (∀ (database : Database) (disk : Disk) (name : String) (fault : RecordFault),
        fault = .nonFinite ∨ fault = .tooDeep →
          (isTableName name = true → ∀ validator : Validator,
            (∀ fields : Keyed Value, (Value.map fields).Sorted →
              (database.add name (.map fields) validator disk).RefusedFor database disk fault
                (FirstOffence fields fault)) ∧
            ∀ records : List Value, (∀ fields ∈ records, fields.Sorted) →
              (database.addAll name records validator disk).RefusedFor database disk fault
                (MeetsOffence name validator records
                  ((Keyed.find? name database.tables).getD Table.empty) fault)) ∧
          ∀ (changes : Keyed Value) (predicates : List Predicate), Keyed.Sorted changes →
            Keyed.contains idField changes = false →
              (database.update name (.ok changes) (.ok predicates) disk).RefusedFor database disk
                fault (FirstOffence changes fault)) ∧
      ∀ {options : Options} {held : List Nat} {disk start : Disk} {opened : Database}
        {first last : Database × Disk} {name : String}, disk.WellFormed →
          openFolder options held disk = (.ok opened, start) →
          Relation.ReflTransGen Step (opened, start) first →
          ((Keyed.find? name first.1.tables).getD Table.empty).records = [] →
          Relation.ReflTransGen Step first last →
          ∀ record ∈ ((Keyed.find? name last.1.tables).getD Table.empty).records,
            ∀ field ∈ record.fields, ¬ field.2.NonFinite ∧ field.2.depth ≤ maxNesting := by
  refine ⟨Value.exceedsDepth_iff, fun fields => exists_firstOffence_iff, ?_, ?_⟩
  · intro database disk name fault hfault
    constructor
    · intro hname validator
      constructor
      · intro fields hsorted
        exact add_refusedFor hname hfault hsorted
      · intro records hsorted
        exact addAll_refusedFor hname hfault hsorted
    · intro changes predicates hsorted hid
      exact update_refusedFor hsorted hid predicates
  · intro options held disk start opened first last name hdisk hopen hbefore hempty hsteps record
      hrecord field hfield
    have hinStep : first.1.InStep first.2 := (inStep_of_openFolder hdisk hopen).1.steps hbefore
    have hfirst : ((Keyed.find? name first.1.tables).getD Table.empty).Holds Value.Storable := by
      intro found hfound
      rw [hempty] at hfound
      cases hfound
    have hlast := holds_of_steps (fun _ hvalue => hvalue) hinStep hsteps hfirst
    have hstorable := (hlast record hrecord).fields field hfield
    constructor
    · rw [← Value.isFinite_eq_false_iff, hstorable.finite]
      simp
    · exact hstorable.depth

/-- The second field has a NaN inside, and the third one an infinity. -/
private def spoiledFields : Keyed Value :=
  [("age", .integer 30), ("marks", .list [.float ⟨0x7ff8000000000000⟩]),
    ("weight", .float ⟨0x7ff0000000000000⟩)]

private def soundAdd : Request :=
  ⟨.add "users" (.map [("marks", .list [.list []])]) Validator.none, fun _ => none⟩

theorem storable_values_alone_get_in_spoiled :
    (fresh.add "users" (.map spoiledFields) Validator.none freshDisk).result =
        .error (.invalidRecord .nonFinite) ∧
      (fresh.update "users" (.ok spoiledFields) (.ok []) freshDisk).result =
        .error (.invalidRecord .nonFinite) ∧
      ∀ record ∈ ((Keyed.find? "users"
        (soundAdd.serve fresh freshDisk).database.tables).getD Table.empty).records,
          ∀ field ∈ record.fields, field.2.depth ≤ maxNesting := by
  obtain ⟨-, -, hrefused, hruns⟩ := storable_values_alone_get_in
  obtain ⟨hadds, hupdates⟩ := hrefused fresh freshDisk "users" .nonFinite (Or.inl rfl)
  have hnames : Keyed.Sorted spoiledFields := by
    rw [Keyed.Sorted]
    decide +kernel
  have hsorted : (Value.map spoiledFields).Sorted := by
    rw [Value.sorted_map_iff]
    refine ⟨hnames, ?_⟩
    simp [spoiledFields, Value.Sorted, Value.AllSorted]
  have hoffence : FirstOffence spoiledFields .nonFinite := by
    rw [← checkStorable_eq_error_iff hnames]
    with_unfolding_all rfl
  refine ⟨?_, ?_, ?_⟩
  · exact ((hadds (by decide) Validator.none).1 spoiledFields hsorted).result.mpr hoffence
  · exact (hupdates spoiledFields [] hnames (by decide)).result.mpr hoffence
  · intro record hrecord field hfield
    have hstep : Step (fresh, freshDisk) ((soundAdd.serve fresh freshDisk).database,
        (soundAdd.serve fresh freshDisk).disk) := by
      refine .serve soundAdd ?_ (by rintro ⟨⟩)
      simp [soundAdd, Call.Sorted, Value.Sorted, Value.FieldsSorted, Value.AllSorted, Keyed.Sorted,
        Keyed.names]
    exact (hruns Disk.wellFormed_empty openFolder_fresh .refl rfl (.single hstep) record hrecord
      field hfield).2

end Database

end DocumentStore
