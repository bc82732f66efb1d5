import DocumentStore.Proofs.Database.Reopen
import DocumentStore.Proofs.Table.Refusals

/-!
# What opening loads

Opening a folder that can be read and is not locked loads every table that has a file there, or fails
with the first that cannot be decoded.  Either way it leaves a lock file behind, takes the temporary
files out, and spares everything else.

So the whole effect on the folder is known before any table is decoded (`tidied`), and repairing the
files that cannot be decoded is enough to open the folder later.
-/

namespace DocumentStore

def Options.files (options : Options) : TableFiles :=
  ⟨options.folder, options.format, options.indented⟩

namespace Database

open TableFiles

variable {options : Options} {held : List Nat} {disk : Disk} {path : List String}
  {entries : Keyed Entry}

/-! ## The folder that is left -/

/-- The lock of the folder is free, and the system allows to make the lock file and to remove the
temporary files. -/
structure Openable (options : Options) (held : List Nat) (disk : Disk) (entries : Keyed Entry) :
    Prop where
  unlocked : match Keyed.find? lockFile entries with
    | some (.file serial _) => serial ∉ held
    | some (.folder _) => False
    | none => disk.nextSerial ∉ held ∧ disk.permit (options.folder.join lockFile) = .ok ()
  sweepable : ∀ file ∈ staleNames entries, checkEntryName file = .ok () ∧
    disk.permit (options.folder.join file) = .ok ()

/-- The entries with a lock file, which is new unless it was there. -/
def withLockFile (disk : Disk) (entries : Keyed Entry) : Keyed Entry :=
  Keyed.insert lockFile ((Keyed.find? lockFile entries).getD (.file disk.nextSerial [])) entries

/-- The entries with a lock file and without temporary files. -/
def tidied (disk : Disk) (entries : Keyed Entry) : Keyed Entry :=
  Keyed.eraseAll (staleNames entries) (withLockFile disk entries)

theorem find?_withLockFile_of_ne {file : String} (hfile : file ≠ lockFile) :
    Keyed.find? file (withLockFile disk entries) = Keyed.find? file entries := by
  rw [withLockFile, Keyed.find?_insert, if_neg hfile]

theorem find?_tidied (hentries : Keyed.Sorted entries) (file : String) :
    Keyed.find? file (tidied disk entries) =
      if file = lockFile then
        some ((Keyed.find? lockFile entries).getD (.file disk.nextSerial []))
      else if file ∈ staleNames entries then none
      else Keyed.find? file entries := by
  have hlocked : Keyed.Sorted (withLockFile disk entries) := Keyed.sorted_insert hentries
  rw [tidied, hlocked.find?_eraseAll]
  by_cases hfile : file = lockFile
  · have hregular := notMem_staleNames hentries isTemporary_lockFile
    rw [hfile, if_neg hregular, if_pos rfl, withLockFile, Keyed.find?_insert_self]
  · rw [if_neg hfile, find?_withLockFile_of_ne hfile]

theorem sorted_tidied (hentries : Keyed.Sorted entries) : Keyed.Sorted (tidied disk entries) :=
  Keyed.sorted_eraseAll (Keyed.sorted_insert hentries)

theorem staleNames_withLockFile (hentries : Keyed.Sorted entries) :
    staleNames (withLockFile disk entries) = staleNames entries := by
  apply staleNames_congr hentries (Keyed.sorted_insert hentries)
  intro file hfile
  exact find?_withLockFile_of_ne (ne_of_isTemporary hfile isTemporary_lockFile)

theorem staleNames_tidied (hentries : Keyed.Sorted entries) :
    staleNames (tidied disk entries) = [] := by
  have hlocked : Keyed.Sorted (withLockFile disk entries) := Keyed.sorted_insert hentries
  have hstale : staleNames (withLockFile disk entries) = staleNames entries :=
    staleNames_withLockFile hentries
  rw [tidied, ← hstale]
  exact staleNames_eraseAll hlocked

/-- The files of tables are left as they are. -/
theorem stored_tidied (hentries : Keyed.Sorted entries) (format : Format) {name : String}
    (hname : isTableName name = true) :
    format.stored name (tidied disk entries) = format.stored name entries := by
  have hlock := tableFile_ne_lockFile hname format
  have hstale := notMem_staleNames hentries (isTemporary_tableFile hname format)
  rw [Format.stored, find?_tidied hentries, if_neg hlock, if_neg hstale, ← Format.stored]

/-! ## What is loaded -/

theorem load_of_sweep {lock : Lock} {swept : Disk} {count : Nat} {names : List String}
    (hsweep : options.files.sweep disk = (.ok count, swept))
    (hdiscover : options.files.discover swept = .ok names) :
    load options lock disk = ((loadTables options.files swept names).map
      fun tables => ⟨options.files, options.sync, tables, lock⟩, swept) := by
  unfold Options.files at hsweep hdiscover ⊢
  simp only [load, hsweep, hdiscover]

/-- Opening makes the lock file and removes the temporary files, and then it loads the tables. -/
theorem openFolder_eq_load (hdisk : disk.WellFormed)
    (hfolder : disk.FolderAt options.folder path entries)
    (hopenable : Openable options held disk entries) :
    ∃ lock opened, opened.WellFormed ∧
      opened.entries = Entry.refill (tidied disk entries) path disk.entries ∧
      opened.FolderAt options.folder path (tidied disk entries) ∧
      openFolder options held disk =
        ((loadTables options.files opened
            (options.files.tablesOf (tidied disk entries)).mergeSort).map
          fun tables => ⟨options.files, options.sync, tables, lock⟩, opened) := by
  have hentries := (hdisk.find hfolder.find).sorted
  obtain ⟨lock, locked, hacquire, hformed, hdenied, hlocked, hat⟩ :=
    Lock.acquire_of_free hdisk hfolder isSimpleName_lockFile (by decide) hopenable.unlocked
  rw [← withLockFile] at hlocked hat
  have hleft : locked.FolderAt options.files.folder path (withLockFile disk entries) := hat
  -- The lock file is not a temporary file, so the sweep finds what was there before.
  have hstale : staleNames (withLockFile disk entries) = staleNames entries :=
    staleNames_withLockFile hentries
  have hpermitted : ∀ file ∈ staleNames (withLockFile disk entries),
      checkEntryName file = .ok () ∧ locked.permit (options.files.folder.join file) = .ok () := by
    intro file hfile
    rw [hstale] at hfile
    rw [Disk.permit_congr hdenied]
    exact hopenable.sweepable file hfile
  have hcount := sweep_of_permitted hformed hleft hpermitted
  obtain ⟨removed, -, hswept, hall⟩ := sweep_spec hformed hleft
  obtain ⟨hremoved, -⟩ := hall _ hcount
  obtain ⟨hclean, -, hlast⟩ := folderAt_sweep hformed hleft List.prefix_rfl
  rw [hremoved] at hswept
  rw [hstale, ← tidied] at hswept hclean hlast
  refine ⟨lock, _, hclean, ?_, hlast, ?_⟩
  · rw [Disk.refill, hlocked]
    exact Entry.refill_refill hdisk hfolder.find _ _
  · rw [openFolder, Disk.makeFolders_of_isWayOfFolders hfolder.isWayOfFolders]
    dsimp only
    rw [hacquire]
    exact load_of_sweep (Prod.ext hcount hswept) (discover_of_list hlast.list_eq)

/-- Every file of a table can be decoded. -/
def AllDecode (format : Format) (entries : Keyed Entry) : Prop :=
  ∀ name fault, isTableName name = true → format.stored name entries ≠ some (.error fault)

/-- The first table of a folder, in the order of the names, whose file cannot be decoded. -/
structure FirstFault (format : Format) (entries : Keyed Entry) (name : String)
    (fault : FileFault) : Prop where
  isTableName : isTableName name = true
  stored : format.stored name entries = some (.error fault)
  first : ∀ earlier < name, DocumentStore.isTableName earlier = true →
    ∀ other, format.stored earlier entries ≠ some (.error other)

/-- Loading the tables of a folder fails at the first that cannot be decoded. -/
theorem firstFault_of_loadTables {files : TableFiles} (hentries : Keyed.Sorted entries)
    (hfolder : disk.FolderAt files.folder path entries) {error : Error}
    (hload : loadTables files disk (files.tablesOf entries).mergeSort = .error error) :
    ∃ name fault, FirstFault files.format entries name fault ∧
      error = .corruptFile (files.path name).text fault := by
  obtain ⟨before, name, later, hsplit, hbefore, hfault⟩ := loadTables_eq_error hload
  have hordered : (before ++ name :: later).Pairwise (· < ·) := by
    rw [← hsplit]
    exact pairwise_tablesOf hentries
  have hmem : ∀ other, other ∈ before ++ name :: later ↔
      isTableName other = true ∧ (files.format.stored other entries).isSome = true := by
    intro other
    rw [← hsplit, List.mem_mergeSort, mem_tablesOf hentries]
  obtain ⟨hname, hstored⟩ := (hmem name).mp (by simp)
  obtain ⟨found, hfound⟩ := Option.isSome_iff_exists.mp hstored
  rw [load_of_stored hfolder hname hfound] at hfault
  cases found with
  | ok table => cases hfault
  | error fault =>
      cases hfault
      refine ⟨name, fault, ⟨hname, hfound, fun earlier hlt hearlier other hother => ?_⟩, rfl⟩
      have hlisted := (hmem earlier).mpr ⟨hearlier, by rw [hother]; rfl⟩
      -- An earlier name was loaded before, because the names are in order.
      have hpassed : earlier ∈ before := by
        rcases List.mem_append.mp hlisted with hpassed | hrest
        · exact hpassed
        · rcases List.mem_cons.mp hrest with heq | hlater
          · exact absurd heq hlt.ne
          · have hgt := (List.pairwise_cons.mp (List.pairwise_append.mp hordered).2.1).1 _ hlater
            exact absurd hgt (lt_asymm hlt)
      obtain ⟨table, htable⟩ := hbefore earlier hpassed
      rw [load_of_stored hfolder hearlier hother] at htable
      cases htable

/-! ## Opening -/

/-- What opening gives is decided by the files of tables that are there. -/
theorem openFolder_spec (hdisk : disk.WellFormed)
    (hfolder : disk.FolderAt options.folder path entries)
    (hopenable : Openable options held disk entries) :
    ∃ result opened, openFolder options held disk = (result, opened) ∧ opened.WellFormed ∧
      opened.entries = Entry.refill (tidied disk entries) path disk.entries ∧
      opened.FolderAt options.folder path (tidied disk entries) ∧
      match result with
      | .ok database => database.files = options.files ∧ database.sync = options.sync ∧
          Agrees options.format entries database.tables
      | .error error => ∃ name fault, FirstFault options.format entries name fault ∧
          error = .corruptFile (options.files.path name).text fault := by
  have hentries := (hdisk.find hfolder.find).sorted
  have htidied : Keyed.Sorted (tidied disk entries) := sorted_tidied hentries
  obtain ⟨lock, opened, hformed, hleft, hinner, hopen⟩ :=
    openFolder_eq_load hdisk hfolder hopenable
  refine ⟨_, opened, hopen, hformed, hleft, hinner, ?_⟩
  cases hload : loadTables options.files opened
      (options.files.tablesOf (tidied disk entries)).mergeSort with
  | ok tables =>
      have hagrees := agrees_of_loadTables htidied hinner hload
      refine ⟨rfl, rfl, hagrees.sorted, hagrees.named, fun name hname => ?_⟩
      rw [← stored_tidied hentries options.format hname]
      exact hagrees.stored name hname
  | error error =>
      obtain ⟨name, fault, hfirst, herror⟩ := firstFault_of_loadTables htidied hinner hload
      refine ⟨name, fault, ⟨hfirst.isTableName, ?_, fun earlier hlt hearlier => ?_⟩, herror⟩
      · rw [← stored_tidied hentries options.format hfirst.isTableName]
        exact hfirst.stored
      · rw [← stored_tidied hentries options.format hearlier]
        exact hfirst.first earlier hlt hearlier

theorem FirstFault.not_allDecode {format : Format} {name : String} {fault : FileFault}
    (hfault : FirstFault format entries name fault) : ¬ AllDecode format entries :=
  fun hdecode => hdecode name fault hfault.isTableName hfault.stored

theorem allDecode_of_agrees {format : Format} {tables : Keyed Table}
    (hagrees : Agrees format entries tables) : AllDecode format entries := by
  intro name fault hname hstored
  rw [hagrees.stored name hname] at hstored
  cases hfind : Keyed.find? name tables <;> simp [hfind] at hstored

/-- A folder that has been opened can be opened again, whatever has been done to the files of
tables. -/
theorem openable_of_tidied (hopenable : Openable options held disk entries)
    (hentries : Keyed.Sorted entries) {repaired : Disk} {mended : Keyed Entry}
    (hmended : Keyed.Sorted mended)
    (hothers : ∀ file,
      (∀ name, isTableName name = true → file ≠ options.format.tableFile name) →
      Keyed.find? file mended = Keyed.find? file (tidied disk entries)) :
    Openable options held repaired mended := by
  have hlock := hothers lockFile fun name hname =>
    (tableFile_ne_lockFile hname options.format).symm
  rw [find?_tidied hentries, if_pos rfl] at hlock
  have hclean : staleNames mended = [] := by
    have htidied : staleNames (tidied disk entries) = [] := staleNames_tidied hentries
    rw [← htidied]
    apply staleNames_congr (sorted_tidied hentries) hmended
    intro file hfile
    apply hothers file
    intro name hname
    exact ne_of_isTemporary hfile (isTemporary_tableFile hname options.format)
  refine ⟨?_, by simp [hclean]⟩
  have hunlocked := hopenable.unlocked
  rw [hlock]
  cases hfind : Keyed.find? lockFile entries with
  | none =>
      rw [hfind] at hunlocked
      exact hunlocked.1
  | some entry =>
      rw [hfind] at hunlocked
      cases entry with
      | file serial content => exact hunlocked
      | folder inner => exact hunlocked

/-- A folder that can be read and is not locked is opened exactly if every file of a table there can
be decoded, and then these are the tables.  Otherwise the first that cannot be decoded is reported,
and its file stays.  In both cases the folder has a lock file and no temporary files afterwards, and
all its other entries are as they were, so it is opened as soon as the files have been repaired. -/
theorem open_loads_all_or_reports_first {disk : Disk} (hdisk : disk.WellFormed)
    (hfolder : disk.FolderAt options.folder path entries)
    (hopenable : Openable options held disk entries) :
    ∃ inner opened, (openFolder options held disk).2 = opened ∧ opened.WellFormed ∧
      opened.entries = Entry.refill inner path disk.entries ∧
      opened.FolderAt options.folder path inner ∧
      (∀ file, Keyed.find? file inner =
        if file = lockFile then
          some ((Keyed.find? lockFile entries).getD (.file disk.nextSerial []))
        else if file ∈ staleNames entries then none
        else Keyed.find? file entries) ∧
      ((∃ database, (openFolder options held disk).1 = .ok database) ↔
        AllDecode options.format entries) ∧
      (∀ database, (openFolder options held disk).1 = .ok database →
        database.files = options.files ∧ database.sync = options.sync ∧
          Agrees options.format entries database.tables) ∧
      (∀ error, (openFolder options held disk).1 = .error error →
        ∃ name fault, FirstFault options.format entries name fault ∧
          error = .corruptFile (options.files.path name).text fault ∧
          options.format.stored name inner = some (.error fault)) ∧
      ∀ repaired way mended, repaired.WellFormed →
        repaired.FolderAt options.folder way mended →
        (∀ file, (∀ name, isTableName name = true → file ≠ options.format.tableFile name) →
          Keyed.find? file mended = Keyed.find? file inner) →
        AllDecode options.format mended →
        ∃ database, (openFolder options held repaired).1 = .ok database ∧
          Agrees options.format mended database.tables := by
  have hentries := (hdisk.find hfolder.find).sorted
  obtain ⟨result, opened, hopen, hformed, hleft, hinner, hresult⟩ :=
    openFolder_spec hdisk hfolder hopenable
  rw [hopen]
  refine ⟨tidied disk entries, opened, rfl, hformed, hleft, hinner, find?_tidied hentries, ?_⟩
  refine ⟨⟨?_, fun hdecode => ?_⟩, ?_, ?_, ?_⟩
  · rintro ⟨database, rfl⟩
    exact allDecode_of_agrees hresult.2.2
  · cases result with
    | ok database => exact ⟨database, rfl⟩
    | error error =>
        obtain ⟨name, fault, hfault, -⟩ := hresult
        exact absurd hdecode hfault.not_allDecode
  · rintro database rfl
    exact hresult
  · rintro error rfl
    obtain ⟨name, fault, hfault, herror⟩ := hresult
    refine ⟨name, fault, hfault, herror, ?_⟩
    rw [stored_tidied hentries options.format hfault.isTableName]
    exact hfault.stored
  · intro repaired way mended hrepaired hplace hothers hdecode
    have hmended := (hrepaired.find hplace.find).sorted
    obtain ⟨again, last, hagain, -, -, -, hgiven⟩ := openFolder_spec hrepaired hplace
      (openable_of_tidied hopenable hentries hmended hothers)
    cases again with
    | ok database => exact ⟨database, by rw [hagain], hgiven.2.2⟩
    | error error =>
        obtain ⟨name, fault, hfault, -⟩ := hgiven
        exact absurd hdecode hfault.not_allDecode

private def attic : Options :=
  { folder := ⟨["attic"]⟩ }

private def spoiled : Keyed Entry :=
  [(".a.0.tmp", .file 0 []), ("a.json", .file 1 []), ("sub", .folder [])]

private def spoiledDisk : Disk :=
  { Disk.empty with entries := [("attic", .folder spoiled)], nextSerial := 2 }

private def mended : Keyed Entry :=
  [(lockFile, .file 2 []), ("a.json", .file 3 (Table.empty.encode .json false "a")),
    ("sub", .folder [])]

private def mendedDisk : Disk :=
  { Disk.empty with entries := [("attic", .folder mended)], nextSerial := 4 }

theorem open_loads_all_or_reports_first_spoiled :
    (∃ text fault, (openFolder attic [] spoiledDisk).1 = .error (.corruptFile text fault)) ∧
      (∃ inner, (openFolder attic [] spoiledDisk).2.FolderAt attic.folder ["attic"] inner ∧
        Keyed.find? ".a.0.tmp" inner = none ∧
        Keyed.find? "a.json" inner = some (.file 1 [])) ∧
      ∃ database, (openFolder attic [] mendedDisk).1 = .ok database ∧
        Keyed.find? "a" database.tables = some Table.empty := by
  have hname : isTableName "a" = true := by decide
  have hdisk : spoiledDisk.WellFormed := by
    simp +decide [Disk.WellFormed, spoiledDisk, spoiled, Entry.WellFormed, Entry.AllWellFormed,
      Keyed.Sorted]
  have hrepaired : mendedDisk.WellFormed := by
    simp +decide [Disk.WellFormed, mendedDisk, mended, Entry.WellFormed, Entry.AllWellFormed,
      Keyed.Sorted, lockFile]
  have hstale : staleNames spoiled = [".a.0.tmp"] := by decide
  have hopenable : Openable attic [] spoiledDisk spoiled := by
    refine ⟨⟨by simp, rfl⟩, ?_⟩
    rw [hstale, List.forall_mem_singleton]
    exact ⟨by decide, rfl⟩
  obtain ⟨inner, opened, hleft, -, -, hinner, hfound, hiff, -, hfailed, hrepair⟩ :=
    open_loads_all_or_reports_first hdisk ⟨rfl, rfl⟩ hopenable
  rw [hleft]
  rw [hstale] at hfound
  have hothers : ∀ file, (∀ name, isTableName name = true → file ≠ attic.format.tableFile name) →
      Keyed.find? file mended = Keyed.find? file inner := by
    intro file hfile
    have hne : file ≠ "a.json" := hfile "a" hname
    rw [hfound]
    by_cases hlock : file = lockFile
    · rw [if_pos hlock, hlock]
      rfl
    · by_cases htemporary : file = ".a.0.tmp"
      · rw [if_neg hlock, htemporary]
        rfl
      · simp [mended, spoiled, Keyed.find?_cons, Ne.symm hne, hlock, Ne.symm hlock, htemporary,
          Ne.symm htemporary]
  have hmended : attic.format.stored "a" mended = some (.ok Table.empty) :=
    Format.stored_eq_some_iff.mpr ⟨3, _, rfl,
      (Table.readable_empty .json).decode_encode hname (by simp) false⟩
  have hdecode : AllDecode attic.format mended := by
    intro name fault hvalid hstored
    by_cases hsame : name = "a"
    · rw [hsame, hmended] at hstored
      cases hstored
    · obtain ⟨serial, content, hfile, -⟩ := Format.stored_eq_some_iff.mp hstored
      have hlock := tableFile_ne_lockFile hvalid attic.format
      have hother : attic.format.tableFile name ≠ "a.json" :=
        (tableFile_injective attic.format).ne hsame
      simp [mended, Keyed.find?_cons, Ne.symm hlock, Ne.symm hother] at hfile
  refine ⟨?_, ⟨inner, hinner, ?_, ?_⟩, ?_⟩
  · cases hresult : (openFolder attic [] spoiledDisk).1 with
    | ok database => exact absurd rfl (hiff.mp ⟨database, hresult⟩ "a" .unreadable hname)
    | error error =>
        obtain ⟨name, fault, -, rfl, -⟩ := hfailed error hresult
        exact ⟨_, fault, rfl⟩
  · rw [hfound, if_neg (by decide), if_pos (by simp)]
  · rw [hfound, if_neg (by decide), if_neg (by decide)]
    rfl
  · obtain ⟨database, hopened, hagrees⟩ :=
      hrepair mendedDisk ["attic"] mended hrepaired ⟨rfl, rfl⟩ hothers hdecode
    exact ⟨database, hopened, (hagrees.find?_eq_some_iff hname).mpr hmended⟩

end Database

end DocumentStore
