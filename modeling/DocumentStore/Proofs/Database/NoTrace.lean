import DocumentStore.Proofs.Database.Writes

/-!
# Writes that fail or change nothing

A write to one table that gives an error leaves the database and the tree of the disk as they were,
wherever it failed, and one that succeeds with nothing to do leaves the whole disk as it was.  All
later answers are those that would have been given without the write.
-/

namespace DocumentStore

def Call.isTableWrite : Call → Bool
  | .add .. | .addAll .. | .update .. | .delete .. | .truncate .. | .drop .. => true
  | .burn | .find .. | .count .. | .list => false

/-- A write that succeeds with this answer had nothing to do. -/
def Answer.isIdle : Answer → Bool
  | .ids values => values.isEmpty
  | .count n => n == 0
  | .id _ | .done | .names _ | .found _ => false

/-- The outcome leaves the database, and the disk but for the next serial number. -/
structure Outcome.Untouched {α : Type} (outcome : Outcome α) (database : Database)
    (disk : Disk) : Prop where
  database : outcome.database = database
  disk : ∃ serial, outcome.disk = { disk with nextSerial := serial }

theorem Outcome.Untouched.answers_eq {α : Type} {outcome : Outcome α} {database : Database}
    {disk : Disk} (huntouched : outcome.Untouched database disk) (requests : List Request) :
    answers requests outcome.database outcome.disk = answers requests database disk := by
  obtain ⟨hdatabase, serial, hdisk⟩ := huntouched
  have halike : outcome.disk.Alike disk := by
    rw [hdisk]
    rfl
  rw [hdatabase]
  exact answers_like (Database.Like.refl database) halike requests

namespace Database

variable {database : Database} {disk : Disk} {α : Type}

theorem write_failed (hdisk : disk.WellFormed) {name : String}
    {change : Except Error (α × Option Table)} {error : Error}
    (hfailed : (database.write name change disk).result = .error error) :
    (database.write name change disk).Untouched database disk := by
  rcases change with _ | ⟨result, _ | table⟩
  · exact ⟨rfl, disk.nextSerial, rfl⟩
  · cases hfailed
  · simp only [write, commit] at hfailed ⊢
    rcases hflush : database.files.flush name table disk with ⟨flushed, later⟩
    rw [hflush] at hfailed
    cases flushed with
    | ok => cases hfailed
    | error refusal =>
        have hrefused : (database.files.flush name table disk).1 = .error refusal := by rw [hflush]
        obtain ⟨serial, -, hserial⟩ := TableFiles.flush_refused hdisk hrefused
        rw [hflush] at hserial
        exact ⟨rfl, serial, hserial⟩

theorem write_eq_ok {name : String} {change : Except Error (α × Option Table)} {result : α}
    (hwrite : (database.write name change disk).result = .ok result) :
    ∃ table, change = .ok (result, table) := by
  rcases change with _ | ⟨found, _ | table⟩
  · cases hwrite
  · cases hwrite
    exact ⟨none, rfl⟩
  · simp only [write, commit] at hwrite
    rcases hflush : database.files.flush name table disk with ⟨_ | ⟨⟩, later⟩
    · simp [hflush] at hwrite
    · rw [hflush] at hwrite
      cases hwrite
      exact ⟨some table, rfl⟩

theorem appendAll_length {name : String} {validator : Validator} {records : List Value}
    {table later : Table} {ids : List Value}
    (happend : appendAll name validator records table = .ok (ids, later)) :
    ids.length = records.length := by
  induction records generalizing table ids with
  | nil =>
      cases happend
      rfl
  | cons fields rest ih =>
      obtain ⟨record, prepared, others, -, -, hrest, rfl⟩ := appendAll_cons_eq_ok happend
      rw [List.length_cons, List.length_cons, ih hrest]

/-- Only an empty batch gives no ids, and it changes no table. -/
theorem appended_idle {name : String} {records : List Value} {validator : Validator}
    {table : Option Table} (hids : database.appended name records validator = .ok ([], table)) :
    table = none := by
  simp only [appended, bind_eq_ok_iff] at hids
  obtain ⟨⟨⟩, -, hbody⟩ := hids
  split_ifs at hbody with hempty
  · cases hbody
    rfl
  · simp only [bind_eq_ok_iff] at hbody
    obtain ⟨⟨ids, later⟩, happend, heq⟩ := hbody
    cases heq
    have hnone : records = [] := List.length_eq_zero_iff.mp (appendAll_length happend).symm
    simp [hnone] at hempty

theorem changed_idle {change : Nat × Table} {table : Option Table}
    (hchange : changed change = (0, table)) : table = none := by
  simp only [changed, Prod.mk.injEq] at hchange
  rw [← hchange.2, if_pos hchange.1]

theorem updated_idle {name : String} {changes : Changes} {filters : Filters}
    {table : Option Table} (hupdated : database.updated name changes filters = .ok (0, table)) :
    table = none := by
  simp only [updated, bind_eq_ok_iff] at hupdated
  obtain ⟨fields, -, predicates, -, hbody⟩ := hupdated
  split_ifs at hbody
  · cases hbody
  · simp only [bind_eq_ok_iff] at hbody
    obtain ⟨_, -, _, -, change, -, heq⟩ := hbody
    exact changed_idle (Except.ok.inj heq)

theorem deleted_idle {name : String} {filters : Filters} {table : Option Table}
    (hdeleted : database.deleted name filters = .ok (0, table)) : table = none := by
  simp only [deleted, bind_eq_ok_iff] at hdeleted
  obtain ⟨_, -, _, -, change, -, heq⟩ := hdeleted
  exact changed_idle (Except.ok.inj heq)

theorem write_idle {α : Type} {name : String} {change : Except Error (α × Option Table)}
    {result : α} {table : Option Table} (hchange : change = .ok (result, table))
    (hnone : table = none) :
    (database.write name change disk).database = database ∧
      (database.write name change disk).disk = disk := by
  subst hnone
  rw [hchange]
  exact ⟨rfl, rfl⟩

theorem drop_failed {name : String} {error : Error}
    (hfailed : (database.drop name disk).result = .error error) :
    (database.drop name disk).Untouched database disk := by
  unfold drop at hfailed ⊢
  cases htable : database.table name with
  | error found => exact ⟨rfl, disk.nextSerial, rfl⟩
  | ok table =>
      rw [htable] at hfailed
      cases hremove : database.files.remove name disk with
      | error refusal => exact ⟨rfl, disk.nextSerial, rfl⟩
      | ok removed =>
          rw [hremove] at hfailed
          cases hfailed

end Database

theorem Outcome.Untouched.map {α β : Type} {outcome : Outcome α} {database : Database}
    {disk : Disk} (huntouched : outcome.Untouched database disk) (f : α → β) :
    (outcome.map f).Untouched database disk :=
  ⟨huntouched.database, huntouched.disk⟩

namespace Call

theorem untouched_of_failed {call : Call} {database : Database} {disk : Disk}
    (hdisk : disk.WellFormed) (hcall : call.isTableWrite = true) {error : Error}
    (hfailed : (call.perform database disk).result = .error error) :
    (call.perform database disk).Untouched database disk := by
  cases call with
  | burn | find | count | list => cases hcall
  | drop name => exact (Database.drop_failed (map_eq_error_iff.mp hfailed)).map _
  | add | addAll | update | delete | truncate =>
      exact (Database.write_failed hdisk (map_eq_error_iff.mp hfailed)).map _

theorem eq_of_idle {call : Call} {database : Database} {disk : Disk}
    (hcall : call.isTableWrite = true) {answer : Answer}
    (hanswer : (call.perform database disk).result = .ok answer) (hidle : answer.isIdle = true) :
    (call.perform database disk).database = database ∧
      (call.perform database disk).disk = disk := by
  cases call with
  | burn | find | count | list => cases hcall
  | add name fields validator =>
      obtain ⟨result, -, rfl⟩ := map_eq_ok_iff.mp hanswer
      cases hidle
  | drop name =>
      obtain ⟨result, -, rfl⟩ := map_eq_ok_iff.mp hanswer
      cases hidle
  | addAll name records validator =>
      obtain ⟨ids, hids, rfl⟩ := map_eq_ok_iff.mp hanswer
      obtain ⟨table, hchange⟩ := Database.write_eq_ok hids
      obtain rfl : ids = [] := List.isEmpty_iff.mp hidle
      exact Database.write_idle hchange (Database.appended_idle hchange)
  | update name changes filters =>
      obtain ⟨count, hcount, rfl⟩ := map_eq_ok_iff.mp hanswer
      obtain ⟨table, hchange⟩ := Database.write_eq_ok hcount
      obtain rfl : count = 0 := beq_iff_eq.mp hidle
      exact Database.write_idle hchange (Database.updated_idle hchange)
  | delete name filters =>
      obtain ⟨count, hcount, rfl⟩ := map_eq_ok_iff.mp hanswer
      obtain ⟨table, hchange⟩ := Database.write_eq_ok hcount
      obtain rfl : count = 0 := beq_iff_eq.mp hidle
      exact Database.write_idle hchange (Database.deleted_idle hchange)
  | truncate name =>
      obtain ⟨count, hcount, rfl⟩ := map_eq_ok_iff.mp hanswer
      obtain ⟨table, hchange⟩ := Database.write_eq_ok hcount
      obtain rfl : count = 0 := beq_iff_eq.mp hidle
      obtain ⟨found, -, hcleared⟩ := map_eq_ok_iff.mp hchange
      exact Database.write_idle hchange (Database.changed_idle hcleared)

/-- A write that fails leaves the tables and every entry of the disk as they were, with no temporary
file left, and one with nothing to do leaves the whole disk as it was.  Every later run gets the
answers that it would have got without the write. -/
theorem failed_or_idle_leaves_no_trace {call : Call} {database : Database} {disk : Disk}
    (hdisk : disk.WellFormed) (hcall : call.isTableWrite = true)
    (houtcome : (∃ error, (call.perform database disk).result = .error error) ∨
      ∃ answer, (call.perform database disk).result = .ok answer ∧ answer.isIdle = true) :
    let outcome := call.perform database disk
    outcome.database = database ∧ outcome.disk.entries = disk.entries ∧
      (outcome.result.toBool = true → outcome.disk = disk) ∧
      ∀ requests, answers requests outcome.database outcome.disk =
        answers requests database disk := by
  rcases houtcome with ⟨error, hfailed⟩ | ⟨answer, hanswer, hidle⟩
  · have huntouched := untouched_of_failed hdisk hcall hfailed
    obtain ⟨serial, hserial⟩ := huntouched.disk
    refine ⟨huntouched.database, by rw [hserial], ?_, huntouched.answers_eq⟩
    rw [hfailed]
    simp [Except.toBool]
  · obtain ⟨hdatabase, hsame⟩ := eq_of_idle hcall hanswer hidle
    refine ⟨hdatabase, by rw [hsame], fun _ => hsame, fun requests => ?_⟩
    rw [hdatabase, hsame]

/-- A disk on which the system denies the file of one table. -/
private def guardedDisk : Disk :=
  { Disk.empty with
    denied := fun location => if location = ⟨["users.json"]⟩ then some "read-only" else none }

private def emptyDatabase : Database :=
  ⟨⟨⟨[]⟩, .json, false⟩, .full, [], ⟨⟨[lockFile]⟩, 0⟩⟩

private def guardedAdd : Call :=
  .add "users" (.map []) Validator.none

theorem failed_or_idle_leaves_no_trace_guarded :
    (guardedAdd.perform emptyDatabase guardedDisk).result.toBool = false ∧
      (guardedAdd.perform emptyDatabase guardedDisk).disk.entries = [] ∧
      (perform emptyDatabase guardedDisk (.addAll "users" [] Validator.none)).disk =
        guardedDisk := by
  have hdisk : guardedDisk.WellFormed := Disk.wellFormed_empty
  have hrefused : (guardedAdd.perform emptyDatabase guardedDisk).result.toBool = false := by
    decide +kernel
  have hfailed : ∃ error,
      (guardedAdd.perform emptyDatabase guardedDisk).result = .error error := by
    cases hresult : (guardedAdd.perform emptyDatabase guardedDisk).result with
    | error error => exact ⟨error, rfl⟩
    | ok answer => simp [hresult, Except.toBool] at hrefused
  have hadd := failed_or_idle_leaves_no_trace hdisk rfl (Or.inl hfailed)
  have hnothing : ∃ answer, (perform emptyDatabase guardedDisk
      (.addAll "users" [] Validator.none)).result = .ok answer ∧ answer.isIdle = true :=
    ⟨.ids [], rfl, rfl⟩
  have hidle := failed_or_idle_leaves_no_trace hdisk rfl (Or.inr hnothing)
  exact ⟨hrefused, hadd.2.1, hidle.2.2.1 rfl⟩

end Call

end DocumentStore
