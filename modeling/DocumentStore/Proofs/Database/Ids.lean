import DocumentStore.Proofs.Database.Append
import DocumentStore.Proofs.Database.Reachable

/-!
# Ids of records over whole runs

Whatever requests a database serves, the ids of a table stay integers and texts that do not repeat,
the keys in use stay the ids of its records, and the counter stays above the integers among them.
So an explicit id is refused exactly if a record has it, and a missing one is given without a
refusal as long as the counter has not come to its end.
-/

namespace DocumentStore

/-- A table to start from: the empty one, one whose parts were accepted or one that was decoded. -/
inductive Table.Initial : Table → Prop
  | empty : Initial empty
  | ofParts {records : List Record} {nextId : Int64} {table : Table}
      (accepted : ofParts? records nextId = .ok table) : Initial table
  | decoded {format : Format} {name : String} {input : Bytes} {table : Table}
      (accepted : decode format name input = .ok table) : Initial table

theorem Table.Initial.valid {table : Table} (hinitial : table.Initial) : table.Valid := by
  cases hinitial with
  | empty => exact valid_empty
  | ofParts accepted => exact ((ofParts?_eq_ok_iff ..).mp accepted).1
  | decoded accepted => exact (readable_of_decode accepted).valid

namespace Table

variable {table : Table} {fields : Keyed Value}

/-- An explicit id is refused for a collision exactly if the record may be stored and the id is the
one of a record. -/
theorem Valid.prepare_eq_idCollision_iff (hvalid : table.Valid) (name : String) {key : Key}
    (hid : Keyed.find? idField fields = some key.toValue) :
    table.prepare name (.map fields) = .error (.idCollision name key.toValue) ↔
      checkStorable (fields.map Prod.snd) = .ok () ∧ key.toValue ∈ table.recordIds := by
  rw [prepare_of_find?_some name hid, hvalid.mem_recordIds_iff]
  cases checkStorable (fields.map Prod.snd) with
  | error fault => simp [Except.mapError, bind, Except.bind]
  | ok => by_cases hheld : key ∈ table.ids <;> simp [Except.mapError, bind, Except.bind, hheld]

/-- As long as the counter can move on, only a value that may not be stored makes a record without
an id refused. -/
theorem Valid.prepare_eq_error (hvalid : table.Valid) {name : String}
    (hid : Keyed.find? idField fields = none) (hcounter : table.nextId < Int64.maxValue)
    {error : Error} (hprepare : table.prepare name (.map fields) = .error error) :
    ∃ fault, checkStorable (fields.map Prod.snd) = .error fault ∧
      error = .invalidRecord fault := by
  have hfree : .integer table.nextId ∉ table.ids := by
    intro hheld
    rcases hvalid.below _ hheld with hlt | hmax
    · exact Int64.lt_irrefl hlt
    · rw [hmax] at hcounter
      exact Int64.lt_irrefl hcounter
  rw [prepare_of_find?_none name hid] at hprepare
  cases hstorable : checkStorable (fields.map Prod.snd) with
  | error fault =>
      rw [hstorable] at hprepare
      cases hprepare
      exact ⟨fault, rfl, rfl⟩
  | ok => simp [hstorable, hfree, Except.mapError, bind, Except.bind] at hprepare

end Table

namespace Database

/-- In every table that a run leaves, from tables that were accepted, the ids are as the records
have them.  So are they in the course of a batch that adds to the table, when the records before have
given the ids `given`: the record that comes next is prepared from the table `middle` that they
leave, where an explicit id is refused exactly if it is taken, and a missing one is the counter.
Adding a single record is adding a batch of one. -/
theorem ids_follow_records {start : Database} (hsorted : Keyed.Sorted start.tables)
    (hstart : ∀ entry ∈ start.tables, isTableName entry.1 = true ∧ entry.2.Initial)
    {requests : List Request} (hrequests : ∀ request ∈ requests, request.call.Sorted)
    (disk : Disk) {name : String} (hname : isTableName name = true) :
    let database := (serveAll requests start disk).1
    let table := (Keyed.find? name database.tables).getD Table.empty
    (∀ id ∈ table.recordIds, ∃ key : Key, id = key.toValue) ∧
      table.recordIds.Nodup ∧
      (∀ key : Key, key ∈ table.ids ↔ key.toValue ∈ table.recordIds) ∧
      (∀ n, .integer n ∈ table.recordIds →
        n < table.nextId ∨ table.nextId = Int64.maxValue) ∧
      (∀ id, table.containsId id = true ↔ id ∈ table.recordIds) ∧
      (∀ fields validator later, database.add name fields validator later =
        (database.addAll name [fields] validator later).map fun ids => ids.headD .null) ∧
      ∀ (validator : Validator) (before given : List Value) (middle : Table) (fields : Keyed Value),
        appendAll name validator before table = .ok (given, middle) →
          (∀ error, middle.prepare name (.map fields) = .error error → ∀ after later,
            (database.addAll name (before ++ .map fields :: after) validator later).result =
              .error error) ∧
          (∀ after later ids,
            (database.addAll name (before ++ .map fields :: after) validator later).result =
              .ok ids → ∃ record prepared others,
                middle.prepare name (.map fields) = .ok (record, prepared) ∧
                  ids = given ++ record.id :: others) ∧
          (∀ key : Key, Keyed.find? idField fields = some key.toValue →
            (middle.prepare name (.map fields) = .error (.idCollision name key.toValue) ↔
              checkStorable (fields.map Prod.snd) = .ok () ∧
                (key.toValue ∈ table.recordIds ∨ key.toValue ∈ given))) ∧
          (Keyed.find? idField fields = none → middle.nextId < Int64.maxValue →
            (∀ error, middle.prepare name (.map fields) = .error error →
              ∃ fault, checkStorable (fields.map Prod.snd) = .error fault ∧
                error = .invalidRecord fault) ∧
            ∀ record prepared, middle.prepare name (.map fields) = .ok (record, prepared) →
              record.id = .integer middle.nextId) := by
  have hsound : start.Sound := by
    refine ⟨hsorted, fun other hother => ?_, fun hfind => ?_⟩
    · obtain ⟨entry, hentry, rfl⟩ := List.mem_map.mp hother
      exact (hstart entry hentry).1
    · exact (hstart _ (Keyed.mem_of_find?_eq_some hfind)).2.valid
  have hlast : (serveAll requests start disk).1.Sound := hsound.serveAll hrequests
  have hvalid := hlast.valid_getD name
  dsimp only
  generalize (serveAll requests start disk).1 = database at hvalid ⊢
  refine ⟨fun id hid => ?_, hvalid.nodup_recordIds, fun key =>
    (hvalid.mem_recordIds_iff key).symm, fun n => hvalid.lt_nextId, hvalid.containsId_iff,
    fun fields validator later => add_eq name fields validator database later, ?_⟩
  · rw [hvalid.recordIds_eq, List.mem_map] at hid
    obtain ⟨key, -, rfl⟩ := hid
    exact ⟨key, rfl⟩
  · intro validator before given middle fields happend
    have hmiddle := appendAll_valid hvalid happend
    refine ⟨fun error hprepare => addAll_refused hname happend hprepare,
      fun after later ids hids => ?_, fun key hid => ?_,
      fun hid hcounter => ⟨fun error => ?_, fun record prepared => ?_⟩⟩
    · obtain ⟨last, hall⟩ := addAll_eq_ok hname (by simp) hids
      obtain ⟨_, _, record, prepared, others, hbefore, hprepare, -, rfl⟩ := appendAll_cut hall
      cases happend.symm.trans hbefore
      exact ⟨record, prepared, others, hprepare, rfl⟩
    · rw [hmiddle.prepare_eq_idCollision_iff name hid, appendAll_recordIds happend,
        List.mem_append]
    · exact hmiddle.prepare_eq_error hid hcounter
    · exact fun hprepare => (Table.prepare_assigns hid hprepare).1

private def loadedTable : Table :=
  ⟨[⟨[(idField, .integer 3)]⟩], [.integer 3], 4⟩

private def loaded : Database :=
  { fresh with tables := [("users", loadedTable)] }

private def plainAdd : Request :=
  ⟨.add "users" (.map []) Validator.none, fun _ => none⟩

private def grownTable : Table :=
  ⟨[⟨[(idField, .integer 3)]⟩, ⟨[(idField, .integer 4)]⟩], [.integer 3, .integer 4], 5⟩

theorem ids_follow_records_loaded :
    grownTable.containsId (.integer 3) = true ∧
      grownTable.prepare "users" (.map [(idField, .integer 4)]) =
        .error (.idCollision "users" (.integer 4)) := by
  have hinitial : loadedTable.Initial :=
    .ofParts (show Table.ofParts? loadedTable.records 4 = .ok loadedTable from rfl)
  have hstart : ∀ entry ∈ loaded.tables, isTableName entry.1 = true ∧ entry.2.Initial := by
    intro entry hentry
    obtain rfl := List.mem_singleton.mp hentry
    exact ⟨by decide, hinitial⟩
  have hsorted : Keyed.Sorted loaded.tables := List.pairwise_singleton ..
  have hrequests : ∀ request ∈ [plainAdd], request.call.Sorted := by
    simp [plainAdd, Call.Sorted, Value.Sorted, Value.FieldsSorted, Keyed.Sorted, Keyed.names]
  have hgrown : Keyed.find? "users" (serveAll [plainAdd] loaded freshDisk).1.tables =
      some grownTable := by
    with_unfolding_all rfl
  have hids : grownTable.recordIds = [.integer 3, .integer 4] := by
    with_unfolding_all rfl
  have hname : isTableName "users" = true := by decide
  obtain ⟨-, -, -, -, hcontains, -, happend⟩ :=
    ids_follow_records hsorted hstart hrequests freshDisk hname
  rw [hgrown, Option.getD_some, hids] at hcontains happend
  obtain ⟨-, -, hcollision, -⟩ :=
    happend Validator.none [] [] grownTable [(idField, .integer 4)] rfl
  exact ⟨(hcontains _).mpr (by simp),
    (hcollision (.integer 4) rfl).mpr ⟨rfl, Or.inl (by simp [Key.toValue])⟩⟩

end Database

end DocumentStore
