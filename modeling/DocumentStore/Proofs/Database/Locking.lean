import DocumentStore.Proofs.Database.Reachable
import DocumentStore.Proofs.Disk.LockFiles

/-!
# Opening and locks

Opening a folder is refused with `directoryLocked` exactly if the lock of the folder is held when its
folders have been made.  In every case the lock files stay, and a database that is opened holds a lock
that nobody has held before.  Serving a request keeps the lock files too.
-/

namespace DocumentStore

theorem Disk.FolderAt.lockAt {disk : Disk} {location : Location} {path : List String}
    {entries : Keyed Entry} (hfolder : disk.FolderAt location path entries) {serial : Nat}
    {content : Bytes} (hfile : Keyed.find? lockFile entries = some (.file serial content)) :
    disk.LockAt path serial := by
  have hcheck : checkEntryName lockFile = .ok () := by decide
  refine ⟨content, ?_⟩
  rw [FileAt, Entry.HasFile, Entry.find_append, ← Disk.find, hfolder.find]
  exact Entry.find_cons_eq_ok_iff.mpr ⟨hcheck, _, hfile, rfl⟩

namespace Database

variable {options : Options} {lock : Lock} {held : List Nat} {disk made : Disk}

/-! ## Loading -/

/-- Loading sweeps the folder, and then it fails on the disk or loads tables. -/
theorem load_cases (options : Options) (lock : Lock) (disk : Disk) :
    ∃ files : TableFiles, (load options lock disk).2 = (files.sweep disk).2 ∧
      ((∃ refusal, (load options lock disk).1 = .error (.disk refusal)) ∨
        ∃ names, (load options lock disk).1 =
          (loadTables files (files.sweep disk).2 names).map
            fun tables => ⟨files, options.sync, tables, lock⟩) := by
  refine ⟨⟨options.folder, options.format, options.indented⟩, ?_⟩
  unfold load
  generalize (⟨options.folder, options.format, options.indented⟩ : TableFiles) = files
  dsimp only
  rcases hswept : files.sweep disk with ⟨refusal | count, swept⟩
  · exact ⟨rfl, Or.inl ⟨refusal, rfl⟩⟩
  · dsimp only
    cases files.discover swept with
    | error refusal => exact ⟨rfl, Or.inl ⟨refusal, rfl⟩⟩
    | ok names => exact ⟨rfl, Or.inr ⟨names, rfl⟩⟩

theorem keepsLocks_load (options : Options) (lock : Lock) (hdisk : disk.Sound) :
    disk.KeepsLocks (load options lock disk).2 := by
  obtain ⟨files, hswept, -⟩ := load_cases options lock disk
  rw [hswept]
  exact Disk.keepsLocks_sweep files hdisk

/-- A folder that cannot be loaded is not reported as locked. -/
theorem load_ne_directoryLocked (options : Options) (lock : Lock) (disk : Disk)
    (text : String) : (load options lock disk).1 ≠ .error (.directoryLocked text) := by
  have htable : ∀ (files : TableFiles) (name : String) (disk : Disk),
      files.load name disk ≠ .error (.directoryLocked text) := by
    intro files name disk
    unfold TableFiles.load TableFiles.decode
    split
    next => cases Table.decode files.format name _ <;> simp [Except.mapError]
    next => simp
    next => simp
  obtain ⟨files, -, ⟨refusal, hload⟩ | ⟨names, hload⟩⟩ := load_cases options lock disk
  · simp [hload]
  · rw [hload]
    intro herror
    obtain ⟨-, name, -, -, -, hname⟩ := loadTables_eq_error (map_eq_error_iff.mp herror)
    exact htable _ _ _ hname

theorem lock_of_load {database : Database}
    (hload : (load options lock disk).1 = .ok database) : database.lock = lock := by
  obtain ⟨files, -, ⟨refusal, hfailed⟩ | ⟨names, hloaded⟩⟩ := load_cases options lock disk
  · rw [hfailed] at hload
    cases hload
  · rw [hloaded] at hload
    obtain ⟨tables, -, rfl⟩ := map_eq_ok_iff.mp hload
    rfl

/-! ## Opening -/

/-- The folder that opening makes, or finds, has a lock file that is held. -/
def IsLocked (options : Options) (held : List Nat) (disk : Disk) : Prop :=
  ∃ made, disk.makeFolders options.folder = .ok made ∧ Lock.IsHeld options.folder held made

theorem openFolder_of_isHeld (hmake : disk.makeFolders options.folder = .ok made)
    (hlocked : Lock.IsHeld options.folder held made) :
    openFolder options held disk =
      (.error (.directoryLocked (options.folder.join lockFile).text), made) := by
  rw [openFolder, hmake]
  dsimp only
  rw [Lock.acquire_of_isHeld hlocked]

/-- An attempt to open a folder that is not locked keeps all lock files.  It gives a database with a
new lock or fails for another reason. -/
theorem openFolder_of_not_isLocked (hdisk : disk.Sound)
    (hheld : ∀ serial ∈ held, serial < disk.nextSerial) (hfree : ¬ IsLocked options held disk) :
    disk.KeepsLocks (openFolder options held disk).2 ∧
      (∀ text, (openFolder options held disk).1 ≠ .error (.directoryLocked text)) ∧
      ∀ database, (openFolder options held disk).1 = .ok database →
        database.lock.serial ∉ held := by
  unfold openFolder
  cases hmake : disk.makeFolders options.folder with
  | error refusal => exact ⟨Disk.KeepsLocks.refl hdisk, by simp, by simp⟩
  | ok made =>
      have hmade := Disk.keepsLocks_makeFolders hdisk hmake
      have hbelow : ∀ serial ∈ held, serial < made.nextSerial := fun serial hserial =>
        (hheld serial hserial).trans_le hmade.nextSerial
      dsimp only
      rcases Lock.acquire_of_not_isHeld hmade.sound hbelow
          (fun hlocked => hfree ⟨made, hmake, hlocked⟩) with
        ⟨refusal, hacquire⟩ | ⟨lock, later, hacquire, hkeeps, hnew, -⟩
      · rw [hacquire]
        exact ⟨hmade, by simp, by simp⟩
      · rw [hacquire]
        refine ⟨(hmade.trans hkeeps).trans (keepsLocks_load options lock hkeeps.sound),
          load_ne_directoryLocked options lock later, fun database hload => ?_⟩
        rw [lock_of_load hload]
        exact hnew

theorem openFolder_eq_directoryLocked_iff (hdisk : disk.Sound)
    (hheld : ∀ serial ∈ held, serial < disk.nextSerial) :
    (∃ text, (openFolder options held disk).1 = .error (.directoryLocked text)) ↔
      IsLocked options held disk := by
  constructor
  · rintro ⟨text, hrefused⟩
    by_contra hfree
    exact (openFolder_of_not_isLocked hdisk hheld hfree).2.1 text hrefused
  · rintro ⟨made, hmake, hlocked⟩
    rw [openFolder_of_isHeld hmake hlocked]
    exact ⟨_, rfl⟩

theorem keepsLocks_openFolder (hdisk : disk.Sound)
    (hheld : ∀ serial ∈ held, serial < disk.nextSerial) :
    disk.KeepsLocks (openFolder options held disk).2 := by
  by_cases hfree : IsLocked options held disk
  · obtain ⟨made, hmake, hlocked⟩ := hfree
    rw [openFolder_of_isHeld hmake hlocked]
    exact Disk.keepsLocks_makeFolders hdisk hmake
  · exact (openFolder_of_not_isLocked hdisk hheld hfree).1

/-- The lock of a database that has been opened was not held before. -/
theorem notMem_of_openFolder (hdisk : disk.Sound)
    (hheld : ∀ serial ∈ held, serial < disk.nextSerial) {database : Database}
    (hopen : (openFolder options held disk).1 = .ok database) :
    ¬ IsLocked options held disk ∧ database.lock.serial ∉ held := by
  have hfree : ¬ IsLocked options held disk := by
    intro hlocked
    obtain ⟨text, hrefused⟩ := (openFolder_eq_directoryLocked_iff hdisk hheld).mpr hlocked
    rw [hopen] at hrefused
    cases hrefused
  exact ⟨hfree, (openFolder_of_not_isLocked hdisk hheld hfree).2.2 database hopen⟩

/-- The folder of a database that has been opened has the lock file that its lock is on. -/
theorem lockAt_of_openFolder {opened : Disk} {database : Database} (hdisk : disk.WellFormed)
    (hopen : openFolder options held disk = (.ok database, opened)) :
    ∃ dir entries, opened.FolderAt options.folder dir entries ∧
      opened.LockAt dir database.lock.serial := by
  obtain ⟨⟨dir, entries, hsettled, -⟩, hfiles⟩ := inStep_of_openFolder hdisk hopen
  obtain ⟨content, hfile⟩ := hsettled.locked
  have hfolder := hsettled.folder
  rw [hfiles] at hfolder
  exact ⟨dir, entries, hfolder, hfolder.lockAt hfile⟩

/-! ## Serving -/

variable {database after : Database} {later : Disk}

theorem Removal.keepsLocks {first last : Database × Disk} (hremoval : Removal first last)
    (hdisk : first.2.Sound) : first.2.KeepsLocks last.2 := by
  cases hremoval with
  | take named remove => exact Disk.keepsLocks_remove _ hdisk named remove

theorem Removal.keepsLocks_of_many {first last : Database × Disk}
    (hremovals : Relation.ReflTransGen Removal first last) (hdisk : first.2.Sound) :
    first.2.KeepsLocks last.2 := by
  induction hremovals with
  | refl => exact .refl hdisk
  | tail _ hremoval ih => exact ih.trans (hremoval.keepsLocks ih.sound)

theorem Effect.keepsLocks (heffect : database.Effect disk after later) (hdisk : disk.Sound) :
    disk.KeepsLocks later := by
  cases heffect with
  | refused flush => exact Disk.keepsLocks_flush_refused _ hdisk flush
  | put makes flush => exact Disk.keepsLocks_flush _ hdisk makes.isName flush
  | removed removals => exact Removal.keepsLocks_of_many removals hdisk
  | swept removals =>
      have hremoved := Removal.keepsLocks_of_many removals hdisk
      exact hremoved.trans (Disk.keepsLocks_sweep _ hremoved.sound)

/-- Serving a request touches no lock file, and the database keeps its lock. -/
theorem keepsLocks_serve (hdatabase : database.Sound) (hdisk : disk.Sound) {request : Request}
    (hsorted : request.call.Sorted) :
    disk.KeepsLocks (request.serve database disk).disk ∧
      (request.serve database disk).database.lock = database.lock := by
  have hdenied : Disk.Sound { disk with denied := request.denied } :=
    ⟨hdisk.wellFormed, hdisk.numbered⟩
  have hkeeps := (serve_effect hdatabase hsorted).keepsLocks hdenied
  obtain ⟨tables, htables⟩ :=
    request.call.perform_database database { disk with denied := request.denied }
  exact ⟨⟨hkeeps.sound, hkeeps.nextSerial, hkeeps.locks⟩, by rw [Request.serve, htables]⟩

end Database

end DocumentStore
