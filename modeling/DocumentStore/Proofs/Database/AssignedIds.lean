import DocumentStore.Proofs.Database.Append
import DocumentStore.Proofs.Database.Reachable

/-!
# Ids that are assigned

The counter of a table never goes back, so an id that is assigned exceeds all integer ids that the
records of the table have had before, even those of records that are gone.  The exception is the
greatest integer, which the counter cannot pass: when its record is removed, it is assigned again.
-/

namespace DocumentStore

namespace Table

variable {table old next middle : Table}

theorem nextId_le_push {name : String} {fields : Value} {record : Record} {prepared : Table}
    (hprepare : table.prepare name fields = .ok (record, prepared)) :
    table.nextId ≤ (prepared.push record).nextId := by
  obtain ⟨_, key, -, -, -, -, rfl, -⟩ := prepare_eq_ok hprepare
  exact key.le_reserve table.nextId

theorem Change.nextId_le (hchange : table.Change next) : table.nextId ≤ next.nextId := by
  cases hchange with
  | push sorted prepare => exact nextId_le_push prepare
  | update noId sorted storable update =>
      obtain ⟨-, rfl⟩ := updateWhere_eq_ok update
      exact Int64.le_refl _
  | remove remove =>
      obtain ⟨-, rfl⟩ := removeWhere_eq_ok remove
      exact Int64.le_refl _
  | clear => exact Int64.le_refl _

/-- The counter never goes back. -/
theorem Reaches.nextId_le (hreaches : old.Reaches table) : old.nextId ≤ table.nextId := by
  induction hreaches with
  | refl => exact Int64.le_refl _
  | tail _ hchange ih => exact Int64.le_trans ih hchange.nextId_le

/-- An id that the table had stays below the counter, unless it is the greatest integer. -/
theorem Valid.lt_of_nextId_le (hvalid : old.Valid) (hle : old.nextId ≤ table.nextId) {n : Int64}
    (hmem : .integer n ∈ old.recordIds) (hne : n ≠ Int64.maxValue) : n < table.nextId := by
  rcases hvalid.lt_nextId hmem with hlt | hmax
  · exact Int64.lt_of_lt_of_le hlt hle
  · rw [hmax] at hle
    exact Int64.lt_of_lt_of_le (Int64.lt_of_le_of_ne (Int64.le_maxValue n) hne) hle

/-- A counter that is not in use exceeds all integer ids of the table, the greatest one included. -/
theorem Valid.lt_of_free (hvalid : table.Valid) (hfree : .integer table.nextId ∉ table.ids)
    {n : Int64} (hmem : .integer n ∈ table.recordIds) : n < table.nextId := by
  rcases hvalid.lt_nextId hmem with hlt | hmax
  · exact hlt
  · rw [hmax] at hfree ⊢
    refine Int64.lt_of_le_of_ne (Int64.le_maxValue n) ?_
    rintro rfl
    exact hfree ((hvalid.mem_recordIds_iff (.integer Int64.maxValue)).mp hmem)

/-- While a record has the greatest integer as its id, the counter is in use. -/
theorem Valid.nextId_mem (hvalid : table.Valid)
    (hmem : .integer Int64.maxValue ∈ table.recordIds) :
    .integer table.nextId ∈ table.ids := by
  rcases hvalid.lt_nextId hmem with hlt | hmax
  · exact absurd (Int64.lt_of_lt_of_le hlt (Int64.le_maxValue _)) Int64.lt_irrefl
  · rw [hmax]
    exact (hvalid.mem_recordIds_iff (.integer Int64.maxValue)).mp hmem

end Table

namespace Database

theorem appendAll_nextId_le {name : String} {validator : Validator} {records ids : List Value}
    {table later : Table} (happend : appendAll name validator records table = .ok (ids, later)) :
    table.nextId ≤ later.nextId := by
  induction records generalizing table ids with
  | nil =>
      cases happend
      exact Int64.le_refl _
  | cons fields rest ih =>
      obtain ⟨record, prepared, others, hprepare, -, hrest, -⟩ := appendAll_cons_eq_ok happend
      exact Int64.le_trans (Table.nextId_le_push hprepare) (ih hrest)

/-! ## Runs with reopenings -/

/-- A request is served, or the database is closed and its folder opened again. -/
inductive Step : Database × Disk → Database × Disk → Prop
  | serve {database : Database} {disk : Disk} (request : Request) (sorted : request.call.Sorted)
      (fits : (request.serve database disk).database.Fits) :
      Step (database, disk)
        ((request.serve database disk).database, (request.serve database disk).disk)
  | reopen {database reopened : Database} {disk later : Disk} (indented : Bool) (sync : Sync)
      (held : List Nat) (free : database.lock.serial ∉ held)
      (opens : openFolder ⟨database.files.folder, database.files.format, indented, sync⟩ held disk =
        (.ok reopened, later)) : Step (database, disk) (reopened, later)

/-- A step after which the table is there. -/
def StepKeeping (name : String) (first last : Database × Disk) : Prop :=
  Step first last ∧ (Keyed.find? name last.1.tables).isSome = true

variable {first last earlier later : Database × Disk} {name : String}

theorem Step.inStep (hinStep : first.1.InStep first.2) (hstep : Step first last) :
    last.1.InStep last.2 := by
  cases hstep with
  | serve request sorted fits => exact hinStep.serve sorted fits
  | reopen indented sync held free opens =>
      obtain ⟨path, entries, hsettled, -⟩ := hinStep
      exact (inStep_of_openFolder hsettled.wellFormed opens).1

theorem InStep.steps (hinStep : first.1.InStep first.2)
    (hsteps : Relation.ReflTransGen Step first last) : last.1.InStep last.2 := by
  induction hsteps with
  | refl => exact hinStep
  | tail _ hstep ih => exact hstep.inStep ih

theorem Step.reaches (hinStep : first.1.InStep first.2) (hstep : Step first last) {table : Table}
    (hfind : Keyed.find? name last.1.tables = some table) :
    ((Keyed.find? name first.1.tables).getD Table.empty).Reaches table := by
  cases hstep with
  | serve request sorted fits =>
      exact (serve_effect hinStep.sound sorted).reaches hinStep.sound hfind
  | reopen indented sync held free opens =>
      rw [hinStep.openFolder_eq rfl rfl free] at opens
      cases opens
      rw [hfind]
      exact .refl

/-- As long as the table is there, all that happens to it are operations on tables. -/
theorem reaches_of_keeping (hinStep : earlier.1.InStep earlier.2)
    (hkeeps : Relation.ReflTransGen (StepKeeping name) earlier later) {old : Table}
    (hold : Keyed.find? name earlier.1.tables = some old) :
    later.1.InStep later.2 ∧
      ∃ table, Keyed.find? name later.1.tables = some table ∧ old.Reaches table := by
  induction hkeeps with
  | refl => exact ⟨hinStep, old, hold, .refl⟩
  | tail _ hstep ih =>
      obtain ⟨hmiddle, table, htable, hreaches⟩ := ih
      obtain ⟨next, hnext⟩ := Option.isSome_iff_exists.mp hstep.2
      have hlast := hstep.1.reaches hmiddle hnext
      rw [htable] at hlast
      exact ⟨hstep.1.inStep hmiddle, next, hnext, hreaches.trans hlast⟩

/-! ## Assigned ids -/

/-- A record without an id gets the counter that the records before it in the list have left. -/
theorem appendAll_assigns {validator : Validator} {before after ids : List Value}
    {fields : Keyed Value} {table last : Table} (hid : Keyed.find? idField fields = none)
    (happend : appendAll name validator (before ++ .map fields :: after) table = .ok (ids, last)) :
    ∃ given middle others, appendAll name validator before table = .ok (given, middle) ∧
      .integer middle.nextId ∉ middle.ids ∧ ids = given ++ .integer middle.nextId :: others := by
  obtain ⟨given, middle, record, prepared, others, hbefore, hprepare, -, rfl⟩ :=
    appendAll_cut happend
  obtain ⟨hrecord, hfree⟩ := Table.prepare_assigns hid hprepare
  rw [hrecord]
  exact ⟨given, middle, others, hbefore, hfree, rfl⟩

/-- As long as a record has the greatest integer, no record is added without an id. -/
theorem appendAll_exhausted {validator : Validator} {records : List Value} {fields : Keyed Value}
    {table : Table} (hvalid : table.Valid) (hmax : .integer Int64.maxValue ∈ table.recordIds)
    (hfields : .map fields ∈ records) (hid : Keyed.find? idField fields = none) :
    ∃ error, appendAll name validator records table = .error error := by
  cases happend : appendAll name validator records table with
  | error error => exact ⟨error, rfl⟩
  | ok done =>
      obtain ⟨before, after, rfl⟩ := List.append_of_mem hfields
      obtain ⟨given, middle, others, hbefore, hfree, -⟩ := appendAll_assigns hid happend
      have hmem : .integer Int64.maxValue ∈ middle.recordIds := by
        rw [appendAll_recordIds hbefore]
        exact List.mem_append_left given hmax
      exact absurd ((appendAll_valid hvalid hbefore).nextId_mem hmem) hfree

/-- From its creation or its loading on, while the table stays there, an id that is assigned to a
record exceeds every other integer id that the table has had at any time (`old` is the table at some
time before), but for the greatest integer.  As long as a record has the greatest integer, no record
is added without an id, and the attempt changes nothing. -/
theorem assigned_ids_exceed_earlier_ids {options : Options} {held : List Nat}
    {disk start : Disk} {opened : Database} (hdisk : disk.WellFormed)
    (hopen : openFolder options held disk = (.ok opened, start))
    (hbefore : Relation.ReflTransGen Step (opened, start) earlier)
    (hkeeps : Relation.ReflTransGen (StepKeeping name) earlier later) {old table : Table}
    (hold : Keyed.find? name earlier.1.tables = some old)
    (htable : Keyed.find? name later.1.tables = some table) (records : List Value)
    (validator : Validator) :
    let outcome := later.1.addAll name records validator later.2
    (∀ ids, outcome.result = .ok ids → ∀ before fields after,
      records = before ++ .map fields :: after → Keyed.find? idField fields = none →
        ∃ given m others, ids = given ++ .integer m :: others ∧ given.length = before.length ∧
          (∀ n, .integer n ∈ table.recordIds ++ given → n < m) ∧
          ∀ n, .integer n ∈ old.recordIds → n ≠ Int64.maxValue → n < m) ∧
      (.integer Int64.maxValue ∈ table.recordIds → ∀ fields, .map fields ∈ records →
        Keyed.find? idField fields = none →
          (∃ error, outcome.result = .error error) ∧ outcome.database = later.1 ∧
            outcome.disk = later.2) ∧
      ∀ fields, later.1.add name fields validator later.2 =
        (later.1.addAll name [fields] validator later.2).map fun ids => ids.headD .null := by
  have hearlier : earlier.1.InStep earlier.2 := (inStep_of_openFolder hdisk hopen).1.steps hbefore
  obtain ⟨hlater, found, hfound, hreaches⟩ := reaches_of_keeping hearlier hkeeps hold
  obtain rfl : found = table := Option.some.inj (hfound.symm.trans htable)
  have hname : isTableName name = true := hlater.sound.named name
    (Keyed.mem_names_of_mem (Keyed.mem_of_find?_eq_some htable))
  have hvalid : found.Valid := hlater.sound.valid htable
  refine ⟨?_, ?_, fun fields => add_eq name fields validator later.1 later.2⟩
  · rintro ids hids before fields after rfl hid
    obtain ⟨last, happend⟩ := addAll_eq_ok hname (by simp) hids
    rw [htable, Option.getD_some] at happend
    obtain ⟨given, middle, others, hmiddle, hfree, hgiven⟩ := appendAll_assigns hid happend
    refine ⟨given, middle.nextId, others, hgiven, appendAll_length hmiddle, fun n hn => ?_,
      fun n hn hne => ?_⟩
    · rw [← appendAll_recordIds hmiddle] at hn
      exact (appendAll_valid hvalid hmiddle).lt_of_free hfree hn
    · -- The counter was above the id then, and has not gone back since.
      exact (hearlier.sound.valid hold).lt_of_nextId_le
        (Int64.le_trans hreaches.nextId_le (appendAll_nextId_le hmiddle)) hn hne
  · intro hmax fields hfields hid
    obtain ⟨error, herror⟩ := appendAll_exhausted hvalid hmax hfields hid
    have hunchanged : later.1.addAll name records validator later.2 =
        ⟨.error error, later.1, later.2⟩ := by
      rw [addAll_eq hname validator (List.ne_nil_of_mem hfields), htable, Option.getD_some, herror]
    rw [hunchanged]
    exact ⟨⟨error, rfl⟩, rfl, rfl⟩

private def permitted (call : Call) : Request :=
  ⟨call, fun _ => none⟩

private def numberedAdd : Request :=
  permitted (.add "users" (.map [(idField, .integer 5)]) Validator.none)

private def numberedTable : Table :=
  ⟨[⟨[(idField, .integer 5)]⟩], [.integer 5], 6⟩

private def numbered : Database × Disk :=
  serveAll [numberedAdd] fresh freshDisk

private def emptied : Database × Disk :=
  serveAll [permitted (.truncate "users")] numbered.1 numbered.2

private def reopened : Database :=
  { emptied.1 with sync := .none }

theorem assigned_ids_exceed_earlier_ids_reopened :
    ∃ m : Int64, 5 < m ∧
      (reopened.addAll "users" [.map []] Validator.none emptied.2).result = .ok [.integer m] := by
  have hfresh : fresh.InStep freshDisk :=
    (inStep_of_openFolder Disk.wellFormed_empty openFolder_fresh).1
  have hadd : Step (fresh, freshDisk) numbered := by
    refine .serve numberedAdd ?_ (by rintro ⟨⟩)
    simp [numberedAdd, permitted, Call.Sorted, Value.Sorted, Value.FieldsSorted, Keyed.Sorted,
      Keyed.names]
  have htruncate : Step numbered emptied := .serve _ trivial (by rintro ⟨⟩)
  have hreopen : Step emptied (reopened, emptied.2) := by
    have hemptied : emptied.1.InStep emptied.2 := htruncate.inStep (hadd.inStep hfresh)
    refine .reopen false .none [] (by simp) ?_
    exact hemptied.openFolder_eq rfl rfl (by simp)
  have hold : Keyed.find? "users" numbered.1.tables = some numberedTable := by
    with_unfolding_all rfl
  have htable : Keyed.find? "users" emptied.1.tables = some numberedTable.clear := by
    with_unfolding_all rfl
  have hkeeps : Relation.ReflTransGen (StepKeeping "users") numbered (reopened, emptied.2) :=
    .tail (.single ⟨htruncate, by rw [htable]; rfl⟩) ⟨hreopen, by rw [reopened, htable]; rfl⟩
  have hids : (reopened.addAll "users" [.map []] Validator.none emptied.2).result =
      .ok [.integer 6] := by
    with_unfolding_all rfl
  obtain ⟨hexceeds, -⟩ := assigned_ids_exceed_earlier_ids Disk.wellFormed_empty openFolder_fresh
    (.single hadd) hkeeps hold htable [.map []] Validator.none
  obtain ⟨given, m, others, hgiven, hlength, -, hearlier⟩ :=
    hexceeds _ hids [] [] [] rfl rfl
  obtain rfl : given = [] := List.length_eq_zero_iff.mp hlength
  cases hgiven
  exact ⟨6, hearlier 5 (List.mem_singleton.mpr rfl) (by decide), hids⟩

/-- The greatest integer is given once more after its record has been removed. -/
theorem greatest_id_assigned_again :
    answers [permitted (.add "users" (.map [(idField, .integer Int64.maxValue)]) Validator.none),
        permitted (.truncate "users"), permitted (.add "users" (.map []) Validator.none)]
        fresh freshDisk =
      [.ok (.id (.integer Int64.maxValue)), .ok (.count 1),
        .ok (.id (.integer Int64.maxValue))] := by
  with_unfolding_all rfl

end Database

end DocumentStore
