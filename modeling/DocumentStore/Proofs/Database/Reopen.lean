import DocumentStore.Proofs.Database.InStep

/-!
# Runs and reopened databases

Opening a folder gives a database in step with its disk, and no run of requests takes it out of step.
So what is on disk determines the tables at any time: when the database is closed and its folder is
opened again, the new database has the same tables and gives the same answers.
-/

namespace DocumentStore

/-! ## What stays the same -/

theorem Database.burnAll_database (burned names : List String) (database : Database)
    (disk : Disk) : ∃ tables,
      (burnAll burned names database disk).database = { database with tables } := by
  induction names generalizing burned database disk with
  | nil => exact ⟨database.tables, rfl⟩
  | cons name rest ih =>
      unfold burnAll
      cases database.files.remove name disk with
      | error refusal => exact ⟨database.tables, rfl⟩
      | ok left => exact ih ..

theorem Database.write_database {α : Type} (name : String)
    (change : Except Error (α × Option Table)) (database : Database) (disk : Disk) :
    ∃ tables, (database.write name change disk).database = { database with tables } := by
  rcases change with error | ⟨result, _ | table⟩
  · exact ⟨database.tables, rfl⟩
  · exact ⟨database.tables, rfl⟩
  · rw [write, commit]
    rcases database.files.flush name table disk with ⟨_ | ⟨⟩, left⟩
    · exact ⟨database.tables, rfl⟩
    · exact ⟨_, rfl⟩

/-- A call changes nothing of a database but its tables. -/
theorem Call.perform_database (call : Call) (database : Database) (disk : Disk) : ∃ tables,
    (call.perform database disk).database = { database with tables } := by
  cases call with
  | add | addAll | update | delete | truncate =>
      simp only [perform, Outcome.map, Database.add, Database.addAll, Database.update,
        Database.delete, Database.truncate]
      exact Database.write_database ..
  | drop name =>
      simp only [perform, Outcome.map, Database.drop]
      cases database.table name with
      | error error => exact ⟨database.tables, rfl⟩
      | ok table =>
          cases database.files.remove name disk with
          | error refusal => exact ⟨database.tables, rfl⟩
          | ok left => exact ⟨_, rfl⟩
  | burn =>
      simp only [perform, Outcome.map, Database.burn]
      cases database.allNames disk with
      | error refusal => exact ⟨database.tables, rfl⟩
      | ok names =>
          obtain ⟨tables, htables⟩ := Database.burnAll_database [] names database disk
          dsimp only
          rcases hburned : Database.burnAll [] names database disk with ⟨_ | burned, left, rest⟩
          · exact ⟨tables, by rw [← htables, hburned]⟩
          · exact ⟨tables, by rw [← htables, hburned]⟩
  | find | count | list => exact ⟨database.tables, rfl⟩

theorem serveAll_database (requests : List Request) (database : Database) (disk : Disk) :
    ∃ tables, (serveAll requests database disk).1 = { database with tables } := by
  induction requests generalizing database disk with
  | nil => exact ⟨database.tables, rfl⟩
  | cons request rest ih =>
      obtain ⟨tables, htables⟩ :=
        request.call.perform_database database { disk with denied := request.denied }
      obtain ⟨last, hlast⟩ := ih (request.serve database disk).database
        (request.serve database disk).disk
      refine ⟨last, ?_⟩
      rw [serveAll, hlast, Request.serve, htables]

namespace Database

/-! ## Runs -/

theorem InStep.serve {database : Database} {disk : Disk} (hstep : database.InStep disk)
    {request : Request} (hsorted : request.call.Sorted)
    (hfits : (request.serve database disk).database.Fits) :
    (request.serve database disk).database.InStep (request.serve database disk).disk := by
  have hdenied : database.InStep { disk with denied := request.denied } := hstep.congr rfl
  exact hdenied.perform hsorted hfits

theorem InStep.serveAll {database : Database} {disk : Disk} (hstep : database.InStep disk)
    {requests : List Request} (hsorted : ∀ request ∈ requests, request.call.Sorted)
    (hfits : ∀ served, served <+: requests → (serveAll served database disk).1.Fits) :
    (serveAll requests database disk).1.InStep (serveAll requests database disk).2 := by
  induction requests generalizing database disk with
  | nil => exact hstep
  | cons request rest ih =>
      rw [List.forall_mem_cons] at hsorted
      have hfirst : (request.serve database disk).database.Fits :=
        hfits [request] (by simp)
      apply ih (hstep.serve hsorted.1 hfirst) hsorted.2
      intro served hserved
      exact hfits (request :: served) (by simpa using hserved)

/-! ## Opening -/

theorem inStep_of_openFolder {options : Options} {held : List Nat} {disk opened : Disk}
    {database : Database} (hdisk : disk.WellFormed)
    (hopen : openFolder options held disk = (.ok database, opened)) :
    database.InStep opened ∧
      database.files = ⟨options.folder, options.format, options.indented⟩ := by
  unfold openFolder at hopen
  cases hmake : disk.makeFolders options.folder with
  | error refusal => simp [hmake] at hopen
  | ok made =>
      obtain ⟨hmade, hway⟩ := Disk.makeFolders_eq_ok hdisk hmake
      obtain ⟨path, entries, hfolder⟩ := hway.isFolderAt
      simp only [hmake] at hopen
      rcases hacquire : Lock.acquire (options.folder.join lockFile) held made with
        ⟨error | lock, locked⟩
      · simp [hacquire] at hopen
      · obtain ⟨hlocked, hkept, inner, content, hinner, -, hfile⟩ :=
          Lock.acquire_eq_ok hmade hfolder isSimpleName_lockFile hacquire
        simp only [hacquire, load] at hopen
        generalize hfiles : (⟨options.folder, options.format, options.indented⟩ : TableFiles) =
          files at hopen ⊢
        have hat : locked.FolderAt files.folder path inner := by
          rw [← hfiles]
          exact hinner
        rcases hsweep : files.sweep locked with ⟨refusal | count, swept⟩
        · simp [hsweep] at hopen
        · obtain ⟨hswept, hkeeps, last, hlast, hclean, hothers⟩ :=
            TableFiles.sweep_eq_ok hlocked hat hsweep
          have hsorted := (hswept.find hlast.find).sorted
          simp only [hsweep, TableFiles.discover_of_list hlast.list_eq] at hopen
          cases hload : loadTables files swept (files.tablesOf last).mergeSort with
          | error error => simp [hload, Except.map] at hopen
          | ok tables =>
              rw [hload] at hopen
              cases hopen
              refine ⟨⟨path, last, ⟨hswept, hlast, ?_, hclean, content, ?_⟩,
                agrees_of_loadTables hsorted hlast hload⟩, rfl⟩
              · rw [← hfiles]
                exact hkeeps.isWayOfFolders (hkept.isWayOfFolders hway)
              · exact (hothers lockFile isTemporary_lockFile).trans hfile

/-- The folder of a database in step can be opened again as soon as its lock is free.  This changes
nothing on disk and loads the same tables. -/
theorem InStep.openFolder_eq {database : Database} {disk : Disk} (hstep : database.InStep disk)
    {options : Options} (hfolder : options.folder = database.files.folder)
    (hformat : options.format = database.files.format) {held : List Nat}
    (hfree : database.lock.serial ∉ held) :
    openFolder options held disk =
      (.ok ⟨⟨options.folder, options.format, options.indented⟩, options.sync, database.tables,
        ⟨options.folder.join lockFile, database.lock.serial⟩⟩, disk) := by
  obtain ⟨path, entries, hsettled, hagrees⟩ := hstep
  obtain ⟨content, hlocked⟩ := hsettled.locked
  have hsorted := hsettled.entries_wellFormed.sorted
  rw [← hfolder] at hsettled
  rw [← hformat] at hagrees
  rw [openFolder, Disk.makeFolders_of_isWayOfFolders hsettled.way]
  simp only [Lock.acquire_of_file hsettled.folder isSimpleName_lockFile (by decide) hlocked hfree,
    load]
  generalize hfiles : (⟨options.folder, options.format, options.indented⟩ : TableFiles) = files
  have hat : disk.FolderAt files.folder path entries := by
    rw [← hfiles]
    exact hsettled.folder
  have hagree : Agrees files.format entries database.tables := by
    rw [← hfiles]
    exact hagrees
  have hload : loadTables files disk (Keyed.names database.tables) = .ok database.tables := by
    rw [loadTables_eq_ok_iff]
    refine ⟨rfl, fun entry hentry => ?_⟩
    have hname := hagree.named _ (Keyed.mem_names_of_mem hentry)
    rw [TableFiles.load_eq_ok_iff hat hname, ← hagree.find?_eq_some_iff hname]
    exact hagree.sorted.find?_eq_some_iff.mpr hentry
  rw [TableFiles.sweep_of_staleNames_nil hat hsettled.clean]
  simp only [TableFiles.discover_of_list hat.list_eq, hagree.names_eq hsorted, hload, Except.map]

/-! ## Agreement over runs -/

/-- After any run on an opened database whose tables never outgrow the sizes that its format can
write, the tables in memory are those that have a file, each as it is decoded from its file.  Closing
the database, which frees its lock, and opening its folder again with any settings changes nothing on
disk, gives the same tables, and later runs get the answers that they would have got before. -/
theorem memory_and_disk_agree {options : Options} {held : List Nat} {disk opened : Disk}
    {database : Database} (hdisk : disk.WellFormed)
    (hopen : openFolder options held disk = (.ok database, opened)) {requests : List Request}
    (hsorted : ∀ request ∈ requests, request.call.Sorted)
    (hfits : ∀ served, served <+: requests → (serveAll served database opened).1.Fits) :
    let state := serveAll requests database opened
    state.1.files.discover state.2 = .ok state.1.list ∧
      (∀ name table, isTableName name = true →
        (Keyed.find? name state.1.tables = some table ↔
          ∃ content, state.2.read (options.folder.join (options.format.tableFile name)) =
              .ok content ∧
            Table.decode options.format name content = .ok table)) ∧
      ∀ (indented : Bool) (sync : Sync) (held : List Nat), database.lock.serial ∉ held →
        ∃ reopened, openFolder ⟨options.folder, options.format, indented, sync⟩ held state.2 =
            (.ok reopened, state.2) ∧
          reopened.tables = state.1.tables ∧
          ∀ later, answers later reopened state.2 = answers later state.1 state.2 := by
  obtain ⟨hopened, hfiles⟩ := inStep_of_openFolder hdisk hopen
  have hstep := hopened.serveAll hsorted hfits
  obtain ⟨tables, hsame⟩ := serveAll_database requests database opened
  dsimp only
  generalize serveAll requests database opened = state at hstep hsame ⊢
  obtain ⟨later, left⟩ := state
  dsimp only at hstep hsame ⊢
  have hlater : later.files = ⟨options.folder, options.format, options.indented⟩ := by
    rw [hsame, ← hfiles]
  have hlock : later.lock = database.lock := by rw [hsame]
  refine ⟨hstep.discover_eq, fun name table hname => ?_, fun indented sync held hfree => ?_⟩
  · obtain ⟨path, entries, hsettled, hagrees⟩ := hstep
    have hfolder := hsettled.folder
    rw [hlater] at hagrees hfolder
    rw [hagrees.find?_eq_some_iff hname, Format.stored_eq_some_iff]
    simp only [hfolder.read_join_eq_ok_iff (isSimpleName_tableFile hname options.format),
      checkEntryName_tableFile hname, true_and]
    constructor
    · rintro ⟨serial, content, hfile, hdecode⟩
      exact ⟨content, ⟨serial, hfile⟩, hdecode⟩
    · rintro ⟨content, ⟨serial, hfile⟩, hdecode⟩
      exact ⟨serial, content, hfile, hdecode⟩
  · rw [← hlock] at hfree
    refine ⟨_, hstep.openFolder_eq (by rw [hlater]) (by rw [hlater]) hfree, rfl, fun calls => ?_⟩
    have hlike : Like ⟨⟨options.folder, options.format, indented⟩, sync, later.tables,
        ⟨options.folder.join lockFile, later.lock.serial⟩⟩ later := by
      refine ⟨rfl, ?_, ?_⟩ <;> rw [hlater]
    exact answers_like hlike rfl calls

private def shelf : Options :=
  { folder := ⟨["shelf"]⟩ }

private def newDatabase : Database :=
  ⟨⟨⟨["shelf"]⟩, .json, false⟩, .full, [], ⟨⟨["shelf", lockFile]⟩, 0⟩⟩

private def newDisk : Disk :=
  { Disk.empty with entries := [("shelf", .folder [(lockFile, .file 0 [])])], nextSerial := 1 }

/-- One record is added, and then the file of its table cannot be written any more. -/
private def guardedRequests : List Request :=
  [⟨.add "users" (.map [("name", .text "a")]) Validator.none, fun _ => none⟩,
    ⟨.add "users" (.map []) Validator.none, fun location =>
      if location = ⟨["shelf", "users.json"]⟩ then some "read-only" else none⟩]

private def guardedState : Database × Disk :=
  serveAll guardedRequests newDatabase newDisk

theorem memory_and_disk_agree_guarded :
    openFolder shelf [] Disk.empty = (.ok newDatabase, newDisk) ∧
      guardedState.1.files.discover guardedState.2 = .ok ["users"] ∧
      ∃ reopened, openFolder shelf [] guardedState.2 = (.ok reopened, guardedState.2) ∧
        reopened.list = ["users"] := by
  have hopen : openFolder shelf [] Disk.empty = (.ok newDatabase, newDisk) := by
    with_unfolding_all rfl
  have hsorted : ∀ request ∈ guardedRequests, request.call.Sorted := by
    simp [guardedRequests, Call.Sorted, Keyed.Sorted, Keyed.names, Value.Sorted,
      Value.FieldsSorted]
  have hfits : ∀ served, served <+: guardedRequests →
      (serveAll served newDatabase newDisk).1.Fits := by
    intro served _ hformat
    obtain ⟨tables, htables⟩ := serveAll_database served newDatabase newDisk
    rw [htables] at hformat
    cases hformat
  have hlist : guardedState.1.list = ["users"] := by
    decide +kernel
  obtain ⟨hdiscover, -, hreopen⟩ :=
    memory_and_disk_agree Disk.wellFormed_empty hopen hsorted hfits
  obtain ⟨reopened, hreopened, htables, -⟩ := hreopen false .full [] (by simp)
  refine ⟨hopen, ?_, reopened, hreopened, ?_⟩
  · rw [← hlist]
    exact hdiscover
  · rw [← hlist, list, list, htables]
    rfl

end Database

end DocumentStore
