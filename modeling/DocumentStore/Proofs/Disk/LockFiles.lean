import DocumentStore.Proofs.Disk.Files
import DocumentStore.Proofs.Table.Files

/-!
# Lock files

A lock is held by the serial number of a file, so it stays on the lock file of a folder as long as the
file is neither removed nor replaced.  Opening a database keeps all lock files, whether it succeeds
or fails: it makes folders, creates a lock file where there is none, and removes temporary files.
-/

namespace DocumentStore

namespace Disk

/-- The lock file of the folder has this serial number. -/
def LockAt (disk : Disk) (dir : List String) (serial : Nat) : Prop :=
  ∃ content, disk.FileAt (dir ++ [lockFile]) serial content

/-- The tree is well-formed, and the serial numbers that are still to come are not in use. -/
structure Sound (disk : Disk) : Prop where
  wellFormed : disk.WellFormed
  numbered : ∀ path serial content, disk.FileAt path serial content → serial < disk.nextSerial

/-- No lock file is removed, replaced or moved. -/
structure KeepsLocks (disk later : Disk) : Prop where
  sound : later.Sound
  nextSerial : disk.nextSerial ≤ later.nextSerial
  locks : ∀ dir serial, serial < disk.nextSerial →
    (later.LockAt dir serial ↔ disk.LockAt dir serial)

variable {disk later : Disk} {location : Location} {name : String}

theorem LockAt.unique {dir : List String} {serial other : Nat} (hserial : disk.LockAt dir serial)
    (hother : disk.LockAt dir other) : serial = other := by
  obtain ⟨content, hfile⟩ := hserial
  obtain ⟨bytes, hfound⟩ := hother
  cases hfile.symm.trans hfound
  rfl

theorem Sound.lt_nextSerial (hdisk : disk.Sound) {dir : List String} {serial : Nat}
    (hlock : disk.LockAt dir serial) : serial < disk.nextSerial := by
  obtain ⟨content, hfile⟩ := hlock
  exact hdisk.numbered _ _ _ hfile

theorem KeepsLocks.lockAt (hkeeps : disk.KeepsLocks later) (hdisk : disk.Sound)
    {dir : List String} {serial : Nat} (hlock : disk.LockAt dir serial) :
    later.LockAt dir serial :=
  (hkeeps.locks dir serial (hdisk.lt_nextSerial hlock)).mpr hlock

theorem KeepsLocks.refl (hdisk : disk.Sound) : disk.KeepsLocks disk :=
  ⟨hdisk, le_rfl, fun _ _ _ => Iff.rfl⟩

theorem KeepsLocks.trans {first second third : Disk} (hfirst : first.KeepsLocks second)
    (hsecond : second.KeepsLocks third) : first.KeepsLocks third := by
  refine ⟨hsecond.sound, hfirst.nextSerial.trans hsecond.nextSerial, fun dir serial hserial => ?_⟩
  rw [hsecond.locks dir serial (hserial.trans_le hfirst.nextSerial),
    hfirst.locks dir serial hserial]

/-! ## Operations -/

theorem SameFiles.keepsLocks (hsame : disk.SameFiles later) (hdisk : disk.Sound)
    (hformed : later.WellFormed) : disk.KeepsLocks later := by
  refine ⟨⟨hformed, fun path serial content hfile => ?_⟩, hsame.nextSerial.ge, fun dir serial _ => ?_⟩
  · rw [hsame.nextSerial]
    exact hdisk.numbered path serial content ((hsame.files path serial content).mp hfile)
  · simp only [LockAt, hsame.files]

theorem keepsLocks_makeFolders (hdisk : disk.Sound)
    (hmake : disk.makeFolders location = .ok later) : disk.KeepsLocks later :=
  (sameFiles_makeFolders hdisk.wellFormed hmake).keepsLocks hdisk
    (makeFolders_eq_ok hdisk.wellFormed hmake).1

theorem wellFormed_create_join (hdisk : disk.WellFormed) (hname : IsSimpleName name)
    {content : Bytes} (hcreate : disk.create (location.join name) content = .ok later) :
    later.WellFormed := by
  obtain ⟨dir, last, inner, -, hresolve, hfind, -, -, rfl⟩ := create_eq_ok hcreate
  obtain ⟨rfl, -⟩ := folderAt_of_resolve_join hname hresolve hfind
  have hfile : (Entry.file disk.nextSerial content).WellFormed := trivial
  exact hdisk.refill ((hdisk.find hfind).insert hfile fun _ => hname) dir

/-- A file that is created has a new serial number, so no lock is on it. -/
theorem keepsLocks_create_join (hdisk : disk.Sound) (hname : IsSimpleName name) {content : Bytes}
    (hcreate : disk.create (location.join name) content = .ok later) :
    disk.KeepsLocks later := by
  have hnext : later.nextSerial = disk.nextSerial + 1 := by
    obtain ⟨dir, last, inner, -, -, -, -, -, rfl⟩ := create_eq_ok hcreate
    rfl
  obtain ⟨target, -, hfiles⟩ := fileAt_create hdisk.wellFormed hcreate
  refine ⟨⟨wellFormed_create_join hdisk.wellFormed hname hcreate, ?_⟩, by omega, ?_⟩
  · intro path serial bytes hfile
    rw [hnext]
    rcases (hfiles path serial bytes).mp hfile with ⟨-, rfl, -⟩ | hold
    · exact Nat.lt_succ_self _
    · exact (hdisk.numbered path serial bytes hold).trans (Nat.lt_succ_self _)
  · intro dir serial hserial
    simp only [LockAt, hfiles, hserial.ne, false_and, and_false, false_or]

theorem append_lockFile_ne {dir base : List String} (hne : name ≠ lockFile) :
    dir ++ [lockFile] ≠ base ++ [name] := by
  intro hsame
  obtain ⟨-, hlast⟩ := List.append_inj' hsame rfl
  exact hne (by simpa using hlast.symm)

/-- An entry that is put in place of a file or of nothing, away from the lock file, keeps the lock
files if it is a file that was there before or nothing. -/
theorem keepsLocks_refill_put (hdisk : disk.Sound) {dir : List String} {inner : Keyed Entry}
    (hfind : disk.find dir = .ok (.folder inner)) (hcheck : checkEntryName name = .ok ())
    (hname : IsSimpleName name) (hne : name ≠ lockFile)
    (hold : ∀ found, Keyed.find? name inner ≠ some (.folder found)) {new : Option Entry}
    (hnew : ∀ entry, new = some entry → ∃ path serial content,
      entry = .file serial content ∧ disk.FileAt path serial content) :
    disk.KeepsLocks (disk.refill (put name new inner) dir) := by
  have hbare : Entry.IsBare new := by
    intro found heq
    obtain ⟨path, serial, content, hentry, -⟩ := hnew _ heq
    cases hentry
  obtain ⟨htarget, hothers⟩ := fileAt_refill_put hdisk.wellFormed hfind hcheck
    (fun found heq => absurd heq (hold found)) hbare
  have hinner : (Entry.folder (put name new inner)).WellFormed := by
    apply (hdisk.wellFormed.find hfind).put hname
    intro entry heq
    obtain ⟨path, serial, content, rfl, -⟩ := hnew entry heq
    trivial
  refine ⟨⟨hdisk.wellFormed.refill hinner dir, fun path serial content hfile => ?_⟩, le_rfl,
    fun other serial _ => ?_⟩
  · by_cases hpath : path = dir ++ [name]
    · subst hpath
      obtain ⟨source, number, bytes, hentry, hthere⟩ := hnew _ ((htarget serial content).mp hfile)
      cases hentry
      exact hdisk.numbered source serial content hthere
    · exact hdisk.numbered path serial content ((hothers path hpath serial content).mp hfile)
  · simp only [LockAt, hothers _ (append_lockFile_ne hne)]

theorem keepsLocks_remove_join (hdisk : disk.Sound) (hname : IsSimpleName name)
    (hne : name ≠ lockFile) (hremove : disk.remove (location.join name) = .ok later) :
    disk.KeepsLocks later := by
  obtain ⟨dir, last, inner, present, -, hresolve, hfind, hcheck, hpresent, rfl⟩ :=
    change_eq_ok hremove
  obtain ⟨rfl, -⟩ := folderAt_of_resolve_join hname hresolve hfind
  split at hpresent <;> cases hpresent
  next hfile => exact keepsLocks_refill_put hdisk hfind hcheck hname hne (by simp [hfile]) (by simp)

theorem keepsLocks_rename_join {path : List String} {entries : Keyed Entry} (hdisk : disk.Sound)
    (hfolder : disk.FolderAt location path entries) {source target : String}
    (hsource : IsSimpleName source) (htarget : IsSimpleName target) (hne : source ≠ target)
    (hsourceLock : source ≠ lockFile) (htargetLock : target ≠ lockFile) {serial : Nat}
    {content : Bytes} (hcheck : checkEntryName source = .ok ())
    (hfile : Keyed.find? source entries = some (.file serial content))
    (hrename : disk.rename (location.join source) (location.join target) = .ok later) :
    disk.KeepsLocks later := by
  obtain ⟨htargetCheck, hfree, rfl⟩ := hfolder.rename_join_eq_ok hdisk.wellFormed hsource htarget
    hne hcheck hfile hrename
  have hthere := (fileAt_append_singleton hfolder.find hcheck serial content).mpr hfile
  -- The file is there twice before it is taken away under its old name.
  generalize hcopies : put target (some (Entry.file serial content)) entries = copies
  have hcopied : disk.KeepsLocks (disk.refill copies path) := by
    rw [← hcopies]
    refine keepsLocks_refill_put hdisk hfolder.find htargetCheck htarget htargetLock hfree ?_
    rintro entry ⟨⟩
    exact ⟨_, _, _, rfl, hthere⟩
  have hmiddle : (disk.refill copies path).find path = .ok (.folder copies) :=
    Entry.find_refill hfolder.find copies
  have hkept : Keyed.find? source copies = some (.file serial content) := by
    rw [← hcopies, put, Keyed.find?_insert, if_neg hne, hfile]
  have hmoved : (disk.refill copies path).KeepsLocks
      ((disk.refill copies path).refill (put source none copies) path) :=
    keepsLocks_refill_put hcopied.sound hmiddle hcheck hsource hsourceLock (by simp [hkept])
      (by simp)
  have htwice := Entry.refill_refill hdisk.wellFormed hfolder.find copies (put source none copies)
  rw [refill, refill, htwice, ← hcopies] at hmoved
  rw [← hcopies] at hcopied
  exact hcopied.trans hmoved

/-! ## Table files -/

theorem keepsLocks_flush_refused (files : TableFiles) (hdisk : disk.Sound) {name : String}
    {table : Table} {refusal : Refusal}
    (hflush : files.flush name table disk = (.error refusal, later)) : disk.KeepsLocks later := by
  obtain ⟨serial, hserial, hlater⟩ :=
    TableFiles.flush_refused hdisk.wellFormed (congrArg Prod.fst hflush)
  obtain rfl : later = { disk with nextSerial := serial } := by rw [← hlater, hflush]
  exact ⟨⟨hdisk.wellFormed, fun path number content hfile =>
    (hdisk.numbered path number content hfile).trans_le hserial⟩, hserial, fun _ _ _ => Iff.rfl⟩

theorem keepsLocks_flush (files : TableFiles) (hdisk : disk.Sound) {name : String}
    (hname : isTableName name = true) {table : Table}
    (hflush : files.flush name table disk = (.ok (), later)) : disk.KeepsLocks later := by
  obtain ⟨tag, htag⟩ : ∃ tag, files.freshTemporary name disk =
      files.folder.join (temporaryFile name tag) := ⟨_, rfl⟩
  have hsource := isSimpleName_temporaryFile hname tag
  simp only [TableFiles.flush, htag, TableFiles.path_eq] at hflush
  cases hcreate : disk.create (files.folder.join (temporaryFile name tag))
      (files.encode name table) with
  | error refusal => simp [hcreate] at hflush
  | ok written =>
      simp only [hcreate] at hflush
      cases hrename : written.rename (files.folder.join (temporaryFile name tag))
          (files.folder.join (files.format.tableFile name)) with
      | error refusal => simp [hrename] at hflush
      | ok renamed =>
          rw [hrename] at hflush
          cases hflush
          have hwritten := keepsLocks_create_join hdisk hsource hcreate
          obtain ⟨dir, last, inner, -, hresolve, hfind, hcheck, -, -⟩ := create_eq_ok hcreate
          obtain ⟨rfl, hfolder⟩ := folderAt_of_resolve_join hsource hresolve hfind
          exact hwritten.trans (keepsLocks_rename_join hwritten.sound
            (hfolder.create_join hdisk.wellFormed hsource hcreate).2 hsource
            (isSimpleName_tableFile hname files.format)
            (temporaryFile_ne_tableFile hname name tag files.format)
            (temporaryFile_ne_lockFile name tag)
            (tableFile_ne_lockFile hname files.format) hcheck (Keyed.find?_insert_self ..) hrename)

theorem keepsLocks_remove (files : TableFiles) (hdisk : disk.Sound) {name : String}
    (hname : isTableName name = true) {removed : Bool}
    (hremove : files.remove name disk = .ok (removed, later)) : disk.KeepsLocks later := by
  rw [TableFiles.remove, TableFiles.path_eq] at hremove
  cases hresult : disk.remove (files.folder.join (files.format.tableFile name)) with
  | ok left =>
      rw [hresult] at hremove
      cases hremove
      exact keepsLocks_remove_join hdisk (isSimpleName_tableFile hname files.format)
        (tableFile_ne_lockFile hname files.format) hresult
  | error refusal =>
      rw [hresult] at hremove
      cases refusal <;> cases hremove
      exact KeepsLocks.refl hdisk

/-! ## Temporary files -/

theorem keepsLocks_removeAll (files : TableFiles) {names : List String}
    (hnames : ∀ name ∈ names, IsSimpleName name ∧ name ≠ lockFile) (hdisk : disk.Sound) :
    disk.KeepsLocks (files.removeAll names disk).2 := by
  induction names generalizing disk with
  | nil => exact KeepsLocks.refl hdisk
  | cons name rest ih =>
      rw [List.forall_mem_cons] at hnames
      unfold TableFiles.removeAll
      cases hremove : disk.remove (files.folder.join name) with
      | error refusal => exact KeepsLocks.refl hdisk
      | ok left =>
          have hfirst := keepsLocks_remove_join hdisk hnames.1.1 hnames.1.2 hremove
          exact hfirst.trans (ih hnames.2 hfirst.sound)

theorem wellFormed_of_list (hdisk : disk.WellFormed) {entries : Keyed Entry}
    (hlist : disk.list location = .ok entries) : (Entry.folder entries).WellFormed := by
  rw [list, bind_eq_ok_iff] at hlist
  obtain ⟨entry, hlookup, hentries⟩ := hlist
  rw [lookup, bind_eq_ok_iff] at hlookup
  obtain ⟨path, -, hfind⟩ := hlookup
  cases entry with
  | file serial content => cases hentries
  | folder inner =>
      cases hentries
      exact hdisk.find hfind

theorem keepsLocks_sweep (files : TableFiles) (hdisk : disk.Sound) :
    disk.KeepsLocks (files.sweep disk).2 := by
  cases hlist : disk.list files.folder with
  | error refusal =>
      rw [TableFiles.sweep, hlist]
      exact KeepsLocks.refl hdisk
  | ok entries =>
      have hentries := wellFormed_of_list hdisk.wellFormed hlist
      rw [TableFiles.sweep_snd hlist]
      refine keepsLocks_removeAll files (fun name hmem => ?_) hdisk
      obtain ⟨htemporary, serial, content, hfile⟩ :=
        (TableFiles.mem_staleNames hentries.sorted).mp hmem
      refine ⟨hentries.simpleName hfile, ?_⟩
      rintro rfl
      rw [isTemporary_lockFile] at htemporary
      cases htemporary

end Disk

/-! ## Acquiring a lock -/

namespace Lock

variable {disk later : Disk} {location : Location} {held : List Nat}

/-- The location leads to a folder whose lock file is held. -/
def IsHeld (location : Location) (held : List Nat) (disk : Disk) : Prop :=
  ∃ dir serial, disk.resolve location = .ok dir ∧ disk.LockAt dir serial ∧ serial ∈ held

theorem acquire_of_isHeld (hlocked : IsHeld location held disk) :
    acquire (location.join lockFile) held disk =
      (.error (.directoryLocked (location.join lockFile).text), disk) := by
  obtain ⟨dir, serial, hdir, ⟨content, hfile⟩, hserial⟩ := hlocked
  have hlookup := (Disk.lookup_join_eq_file_iff isSimpleName_lockFile).mpr ⟨dir, hdir, hfile⟩
  rw [acquire, openFile, hlookup]
  simp [hserial]

/-- The file that is opened is the lock file that was there, or a new one. -/
theorem openFile_eq_ok (hdisk : disk.Sound) {serial : Nat}
    (hopen : openFile (location.join lockFile) disk = .ok (serial, later)) :
    disk.KeepsLocks later ∧ (later = disk ∨ serial = disk.nextSerial) ∧
      ∃ dir, later.resolve location = .ok dir ∧ later.LockAt dir serial := by
  unfold openFile at hopen
  split at hopen
  next number content hlookup =>
      cases hopen
      obtain ⟨dir, hdir, hfile⟩ := (Disk.lookup_join_eq_file_iff isSimpleName_lockFile).mp hlookup
      exact ⟨Disk.KeepsLocks.refl hdisk, Or.inl rfl, dir, hdir, content, hfile⟩
  next => cases hopen
  next =>
      obtain ⟨created, hcreate, heq⟩ := bind_eq_ok_iff.mp hopen
      cases heq
      obtain ⟨target, hresolve, hfiles⟩ := Disk.fileAt_create hdisk.wellFormed hcreate
      have hcreated : later.lookup (location.join lockFile) =
          .ok (.file disk.nextSerial []) := by
        rw [Disk.lookup, (Disk.keepsFolders_create hcreate).resolve_eq hresolve]
        exact (hfiles target disk.nextSerial []).mpr (Or.inl ⟨rfl, rfl, rfl⟩)
      obtain ⟨dir, hdir, hfile⟩ := (Disk.lookup_join_eq_file_iff isSimpleName_lockFile).mp hcreated
      exact ⟨Disk.keepsLocks_create_join hdisk isSimpleName_lockFile hcreate, Or.inr rfl, dir, hdir,
        [], hfile⟩

/-- A lock that is not held is acquired unless the disk refuses its file. -/
theorem acquire_of_not_isHeld (hdisk : disk.Sound)
    (hheld : ∀ serial ∈ held, serial < disk.nextSerial) (hfree : ¬ IsHeld location held disk) :
    (∃ refusal, acquire (location.join lockFile) held disk = (.error (.disk refusal), disk)) ∨
      ∃ lock later, acquire (location.join lockFile) held disk = (.ok lock, later) ∧
        disk.KeepsLocks later ∧ lock.serial ∉ held ∧
        ∃ dir, later.resolve location = .ok dir ∧ later.LockAt dir lock.serial := by
  cases hopen : openFile (location.join lockFile) disk with
  | error refusal =>
      rw [acquire, hopen]
      exact Or.inl ⟨refusal, rfl⟩
  | ok opened =>
      obtain ⟨serial, later⟩ := opened
      obtain ⟨hkeeps, horigin, dir, hdir, hlock⟩ := openFile_eq_ok hdisk hopen
      have hnew : serial ∉ held := by
        intro hserial
        rcases horigin with rfl | rfl
        · exact hfree ⟨dir, serial, hdir, hlock, hserial⟩
        · exact absurd (hheld _ hserial) (lt_irrefl _)
      refine Or.inr ⟨⟨location.join lockFile, serial⟩, later, ?_, hkeeps, hnew, dir, hdir, hlock⟩
      rw [acquire, hopen]
      simp [hnew]

end Lock

end DocumentStore
