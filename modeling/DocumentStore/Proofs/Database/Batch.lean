import DocumentStore.Proofs.Database.Append
import DocumentStore.Proofs.Database.Reachable

/-!
# Batches and single records

A batch does what adding its records one after the other would do, but it is written to disk once
and changes nothing if any of its records is refused.  Adding them one after the other writes the
table after each record, and keeps the records that come before the refused one.
-/

namespace DocumentStore

namespace Database

/-- Adds records one after the other until one is refused. -/
def addEach (name : String) (validator : Validator) :
    List Value → Database → Disk → Outcome (List Value)
  | [], database, disk => ⟨.ok [], database, disk⟩
  | fields :: rest, database, disk =>
    match database.add name fields validator disk with
    | ⟨.error error, database, disk⟩ => ⟨.error error, database, disk⟩
    | ⟨.ok id, database, disk⟩ => (addEach name validator rest database disk).map (id :: ·)

variable {database : Database} {disk : Disk} {name : String} {validator : Validator}

/-- A first record that is not refused is appended and written, and the others follow. -/
theorem addEach_cons_eq_ok (hname : isTableName name = true) {fields : Value}
    {rest ids : List Value}
    (hadded : (addEach name validator (fields :: rest) database disk).result = .ok ids) :
    ∃ id others made later,
      appendAll name validator [fields] ((Keyed.find? name database.tables).getD Table.empty) =
          .ok ([id], made) ∧
        database.files.flush name made disk = (.ok (), later) ∧ ids = id :: others ∧
        let next : Database :=
          { database with tables := Keyed.insert name made database.tables }
        addEach name validator (fields :: rest) database disk =
            (addEach name validator rest next later).map (id :: ·) ∧
          (addEach name validator rest next later).result = .ok others := by
  rw [addEach, add_eq] at hadded ⊢
  rcases addAll_cases hname validator (List.cons_ne_nil fields []) database disk with
    ⟨error, -, houtcome⟩ | ⟨found, made, refusal, -, -, hrefused⟩ |
      ⟨found, made, later, happend, hflush, houtcome⟩
  · rw [houtcome] at hadded
    cases hadded
  · rcases houtcome : database.addAll name [fields] validator disk with ⟨result, left, last⟩
    rw [houtcome] at hadded hrefused
    cases hrefused
    cases hadded
  · obtain ⟨id, rfl⟩ := List.length_eq_one_iff.mp (appendAll_length happend)
    rw [houtcome] at hadded ⊢
    obtain ⟨others, hothers, rfl⟩ := map_eq_ok_iff.mp hadded
    exact ⟨id, others, made, later, happend, hflush, rfl, rfl, hothers⟩

/-- If the table has been written once, no flush of it is refused, whatever it contains. -/
theorem flush_of_addEach (hname : isTableName name = true) {fields : Value}
    {rest ids : List Value}
    (hadded : (addEach name validator (fields :: rest) database disk).result = .ok ids)
    (table : Table) : (database.files.flush name table disk).1 = .ok () := by
  obtain ⟨_, _, made, later, -, hflush, -⟩ := addEach_cons_eq_ok hname hadded
  rw [(TableFiles.flush_alike ⟨rfl, rfl⟩ rfl name table made).1, hflush]

/-- Records that are all added one after the other leave the table that appending them gives, in
memory and in its file. -/
theorem addEach_eq_ok (hname : isTableName name = true) (hsorted : Keyed.Sorted database.tables)
    (hhoused : database.Housed disk) {fields : Value} {rest ids : List Value}
    (hadded : (addEach name validator (fields :: rest) database disk).result = .ok ids) :
    let each := addEach name validator (fields :: rest) database disk
    ∃ last, appendAll name validator (fields :: rest)
        ((Keyed.find? name database.tables).getD Table.empty) = .ok (ids, last) ∧
      each.database = { database with tables := Keyed.insert name last database.tables } ∧
      each.disk.read (database.files.path name) = .ok (database.files.encode name last) := by
  -- The first record makes sure that a file is written, so the induction is on the others.
  induction rest generalizing fields database disk ids with
  | nil =>
      obtain ⟨id, others, made, later, happend, hflush, rfl, heach, hothers⟩ :=
        addEach_cons_eq_ok hname hadded
      cases hothers
      dsimp only
      rw [heach]
      exact ⟨made, happend, rfl, (hhoused.flush hname hflush).2⟩
  | cons next rest ih =>
      obtain ⟨id, others, made, later, happend, hflush, rfl, heach, hothers⟩ :=
        addEach_cons_eq_ok hname hadded
      have hput : Keyed.Sorted (Keyed.insert name made database.tables) :=
        Keyed.sorted_insert hsorted
      have hkept :
          Housed { database with tables := Keyed.insert name made database.tables } later :=
        (hhoused.flush hname hflush).1
      obtain ⟨last, hrest, hdatabase, hread⟩ := ih hput hkept hothers
      rw [Keyed.find?_insert_self, Option.getD_some] at hrest
      dsimp only at hdatabase hread ⊢
      rw [heach]
      refine ⟨last, ?_, ?_, hread⟩
      · have happended := appendAll_append name validator [fields] (next :: rest)
          ((Keyed.find? name database.tables).getD Table.empty)
        rw [happend] at happended
        simpa [bind, Except.bind, hrest, Except.map] using happended
      · rw [Outcome.map, hdatabase, hsorted.insert_insert]

theorem addEach_appendAll (hname : isTableName name = true)
    (hsorted : Keyed.Sorted database.tables) (hhoused : database.Housed disk)
    {records ids : List Value}
    (hadded : (addEach name validator records database disk).result = .ok ids) :
    appendAll name validator records ((Keyed.find? name database.tables).getD Table.empty) =
      .ok (ids, (Keyed.find? name
        (addEach name validator records database disk).database.tables).getD Table.empty) := by
  cases records with
  | nil =>
      cases hadded
      rfl
  | cons fields rest =>
      obtain ⟨last, happend, hdatabase, -⟩ := addEach_eq_ok hname hsorted hhoused hadded
      rw [hdatabase, Keyed.find?_insert_self, Option.getD_some, happend]

/-- The first record that is refused leaves what the records before it have left. -/
theorem addEach_eq_error {records : List Value} {error : Error}
    (hfailed : (addEach name validator records database disk).result = .error error) :
    ∃ before fields after given, records = before ++ fields :: after ∧
      let kept := addEach name validator before database disk
      kept.result = .ok given ∧
        let refused := kept.database.add name fields validator kept.disk
        refused.result = .error error ∧
          (addEach name validator records database disk).database = refused.database ∧
          (addEach name validator records database disk).disk = refused.disk := by
  induction records generalizing database disk with
  | nil => cases hfailed
  | cons fields rest ih =>
      rcases hadd : database.add name fields validator disk with ⟨found | id, next, later⟩
      · simp only [addEach, hadd] at hfailed ⊢
        cases hfailed
        refine ⟨[], fields, rest, [], rfl, rfl, ?_⟩
        simp [addEach, hadd]
      · simp only [addEach, hadd] at hfailed ⊢
        obtain ⟨before, refused, after, given, rfl, hkept, hrefused⟩ :=
          ih (map_eq_error_iff.mp hfailed)
        refine ⟨fields :: before, refused, after, id :: given, rfl, ?_⟩
        simp only [addEach, hadd]
        exact ⟨by simp [Outcome.map, hkept, Except.map], hrefused⟩

/-- A record that the disk does not refuse is refused for what it is, and nothing changes. -/
theorem add_refused (hname : isTableName name = true) {fields : Value} {error : Error}
    (hrefused : (database.add name fields validator disk).result = .error error)
    (hdisk : ∀ refusal, error ≠ .disk refusal) :
    appendAll name validator [fields] ((Keyed.find? name database.tables).getD Table.empty) =
        .error error ∧
      (database.add name fields validator disk).database = database ∧
      (database.add name fields validator disk).disk = disk := by
  rw [add_eq] at hrefused ⊢
  have hfailed := map_eq_error_iff.mp hrefused
  rcases addAll_cases hname validator (List.cons_ne_nil fields []) database disk with
    ⟨found, happend, houtcome⟩ | ⟨_, _, refusal, -, -, hflush⟩ | ⟨_, _, later, -, -, houtcome⟩
  · rw [houtcome] at hfailed ⊢
    cases hfailed
    exact ⟨happend, rfl, rfl⟩
  · cases hflush.symm.trans hfailed
    exact absurd rfl (hdisk refusal)
  · rw [houtcome] at hfailed
    cases hfailed

/-- A batch gives the answer that adding its records one after the other gives, if the disk refuses
none of these.  A success leaves the same tables and the same file, where each new record completes
the given fields and has been accepted as it is.  A failure changes nothing, whereas one record
after the other keeps what comes before the first one that is refused. -/
theorem addAll_agrees_with_addEach (hreachable : database.Reachable disk)
    (hname : isTableName name = true) {records : List Value}
    (hdisk : ∀ refusal, (addEach name validator records database disk).result ≠
      .error (.disk refusal)) :
    let batch := database.addAll name records validator disk
    let each := addEach name validator records database disk
    batch.result = each.result ∧
      (∀ ids, batch.result = .ok ids → batch.database = each.database ∧
        batch.disk.read (database.files.path name) = each.disk.read (database.files.path name) ∧
        ∃ added, ((Keyed.find? name batch.database.tables).getD Table.empty).records =
            ((Keyed.find? name database.tables).getD Table.empty).records ++ added ∧
          ids = added.map Record.id ∧
          List.Forall₂ (fun fields record => Record.Completes record fields ∧
            validator record = .ok ()) records added) ∧
      ∀ error, batch.result = .error error → batch.database = database ∧ batch.disk = disk ∧
        ∃ before fields after given, records = before ++ fields :: after ∧
          let kept := addEach name validator before database disk
          kept.result = .ok given ∧
            (kept.database.add name fields validator kept.disk).result = .error error ∧
            each.database = kept.database ∧ each.disk = kept.disk := by
  have hsorted := hreachable.sound.sorted
  have hhoused := hreachable.housed
  by_cases hrecords : records = []
  · subst hrecords
    rw [addAll_nil hname]
    refine ⟨rfl, ?_, ?_⟩
    · rintro ids ⟨⟩
      exact ⟨rfl, rfl, [], by simp, rfl, .nil⟩
    · rintro error ⟨⟩
  cases heach : (addEach name validator records database disk).result with
  | ok ids =>
      obtain ⟨fields, rest, rfl⟩ := List.exists_cons_of_ne_nil hrecords
      obtain ⟨last, happend, hdatabase, hread⟩ := addEach_eq_ok hname hsorted hhoused heach
      rcases addAll_cases hname validator hrecords database disk with
        ⟨error, hfailed, -⟩ | ⟨_, table, refusal, -, hrefused, -⟩ |
          ⟨found, made, later, hall, hwritten, houtcome⟩
      · cases hfailed.symm.trans happend
      · cases (flush_of_addEach hname heach table).symm.trans hrefused
      · cases hall.symm.trans happend
        obtain ⟨added, hadded, hids, hcompleted⟩ := appendAll_eq_ok happend
        rw [houtcome]
        refine ⟨heach.symm, ?_, ?_⟩
        · rintro _ ⟨⟩
          refine ⟨hdatabase.symm, ?_, added, ?_, hids, hcompleted⟩
          · rw [hread]
            exact (hhoused.flush hname hwritten).2
          · rw [Keyed.find?_insert_self, Option.getD_some]
            exact hadded
        · rintro error ⟨⟩
  | error error =>
      obtain ⟨before, fields, after, given, rfl, hkept, hrefused, hdatabase, hleft⟩ :=
        addEach_eq_error heach
      -- The refused record meets the same table in the batch as on its own.
      have hbefore := addEach_appendAll hname hsorted hhoused hkept
      obtain ⟨hrest, hsame, hunchanged⟩ := add_refused hname hrefused fun refusal heq =>
        hdisk refusal (heach.trans (congrArg Except.error heq))
      have hall : appendAll name validator (before ++ fields :: after)
          ((Keyed.find? name database.tables).getD Table.empty) = .error error :=
        appendAll_refused hbefore hrest after
      rw [addAll_eq hname validator hrecords, hall]
      refine ⟨heach.symm, ?_, ?_⟩
      · rintro ids ⟨⟩
      · rintro _ ⟨⟩
        exact ⟨rfl, rfl, before, fields, after, given, rfl, hkept, hrefused,
          hdatabase.trans hsame, hleft.trans hunchanged⟩

private def accepted : List Value :=
  [.map [], .map [(idField, .text "x")]]

/-- The second record has the id that the first one is given. -/
private def colliding : List Value :=
  [.map [], .map [(idField, .integer 1)]]

theorem addAll_agrees_with_addEach_fresh :
    (fresh.addAll "users" accepted Validator.none freshDisk).result =
        .ok [.integer 1, .text "x"] ∧
      (fresh.addAll "users" colliding Validator.none freshDisk).database.list = [] ∧
      (addEach "users" Validator.none colliding fresh freshDisk).database.list = ["users"] := by
  have hname : isTableName "users" = true := by decide
  have haccepted : (addEach "users" Validator.none accepted fresh freshDisk).result =
      .ok [.integer 1, .text "x"] := by
    with_unfolding_all rfl
  have hcolliding : (addEach "users" Validator.none colliding fresh freshDisk).result =
      .error (.idCollision "users" (.integer 1)) := by
    with_unfolding_all rfl
  obtain ⟨hresult, -⟩ := addAll_agrees_with_addEach reachable_fresh hname fun refusal hrefused => by
    cases haccepted.symm.trans hrefused
  obtain ⟨hfailed, -, hunchanged⟩ :=
    addAll_agrees_with_addEach reachable_fresh hname fun refusal hrefused => by
      cases hcolliding.symm.trans hrefused
  refine ⟨hresult.trans haccepted, ?_, ?_⟩
  · rw [(hunchanged _ (hfailed.trans hcolliding)).1]
    rfl
  · with_unfolding_all rfl

end Database

end DocumentStore
