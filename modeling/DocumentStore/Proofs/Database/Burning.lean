import DocumentStore.Proofs.Database.Reachable
import DocumentStore.Proofs.Table.Refusals

/-!
# Where a burn stops

Burning goes through the tables in memory and on disk in the order of their names and stops at the
first whose file cannot be removed.  The tables before it are gone from memory and from the folder,
and nothing has happened to the others.

The tables before a refused one are burned like those of a burn that is never refused
(`burnAll_append`), because the removal of one file does not depend on the files of other tables.
-/

namespace DocumentStore

/-! ## Removable tables -/

namespace TableFiles

/-- The removal of the file of a table is not refused.  There may be no such file. -/
def Removable (files : TableFiles) (name : String) (disk : Disk) : Prop :=
  ∃ left, files.remove name disk = .ok left

variable {files : TableFiles} {disk later : Disk} {path way : List String}
  {entries found : Keyed Entry} {name : String}

/-- Whether the file of a table can be removed depends on that file alone. -/
theorem Removable.congr (hremovable : files.Removable name disk)
    (hfolder : disk.FolderAt files.folder path entries)
    (hother : later.FolderAt files.folder way found) (hdenied : disk.denied = later.denied)
    (hname : isTableName name = true) (hsame : files.format.SameFiles name entries found) :
    files.Removable name later := by
  obtain ⟨left, hleft⟩ := hremovable
  have hcongr := remove_congr hfolder hother hdenied hname hsame
  rw [hleft] at hcongr
  obtain ⟨rest, hrest, -⟩ := map_eq_ok_iff.mp hcongr.symm
  exact ⟨rest, hrest⟩

theorem sameFiles_eraseAll {format : Format} (hentries : Keyed.Sorted entries)
    {names : List String} (hnames : ∀ other ∈ names, isTableName other = true)
    (hname : name ∉ names) :
    format.SameFiles name entries (Keyed.eraseAll (names.map format.tableFile) entries) := by
  refine ⟨?_, fun tag => ?_⟩
  · rw [hentries.find?_eraseAll, if_neg]
    intro hmem
    obtain ⟨other, hother, heq⟩ := List.mem_map.mp hmem
    rw [tableFile_injective format heq] at hother
    exact hname hother
  · rw [hentries.find?_eraseAll, if_neg]
    intro hmem
    obtain ⟨other, hother, heq⟩ := List.mem_map.mp hmem
    exact temporaryFile_ne_tableFile (hnames other hother) name tag format heq.symm

end TableFiles

namespace Database

variable {database : Database} {disk later : Disk} {path way : List String}
  {entries last : Keyed Entry}

/-! ## The burned tables -/

theorem find?_eraseAll_tableFile {format : Format} (hentries : Keyed.Sorted entries)
    {names : List String} (name : String) :
    Keyed.find? (format.tableFile name)
        (Keyed.eraseAll (names.map format.tableFile) entries) =
      if name ∈ names then none else Keyed.find? (format.tableFile name) entries := by
  rw [hentries.find?_eraseAll]
  simp only [List.mem_map_of_injective (tableFile_injective format)]

/-- The folder without the files of tables that can be removed is the same folder. -/
theorem folderAt_burned (hdisk : disk.WellFormed)
    (hfolder : disk.FolderAt database.files.folder path entries) {names : List String}
    (hnames : ∀ name ∈ names, isTableName name = true)
    (hremovable : ∀ name ∈ names, database.files.Removable name disk) :
    let inner := Keyed.eraseAll (names.map database.files.format.tableFile) entries
    (disk.refill inner path).WellFormed ∧
      (disk.refill inner path).FolderAt database.files.folder path inner := by
  have hfree : ∀ file ∈ names.map database.files.format.tableFile, ∀ inner,
      Keyed.find? file entries ≠ some (.folder inner) := by
    intro file hfile
    obtain ⟨name, hname, rfl⟩ := List.mem_map.mp hfile
    obtain ⟨left, hleft⟩ := hremovable name hname
    exact (TableFiles.remove_eq_ok hdisk hfolder (hnames name hname) hleft).1
  obtain ⟨hformed, -, hburned⟩ := TableFiles.eraseAll_files hdisk hfolder hfree
  exact ⟨hformed, hburned⟩

/-- A burn takes the tables whose files can be removed out of memory and out of the folder, and goes
on with the others. -/
theorem burnAll_append (hdisk : disk.WellFormed)
    (hfolder : disk.FolderAt database.files.folder path entries) {names : List String}
    (hnodup : names.Nodup) (hnames : ∀ name ∈ names, isTableName name = true)
    (hremovable : ∀ name ∈ names, database.files.Removable name disk)
    (burned rest : List String) :
    burnAll burned (names ++ rest) database disk =
      burnAll (names.reverse ++ burned) rest
        { database with tables := Keyed.eraseAll names database.tables }
        (disk.refill (Keyed.eraseAll (names.map database.files.format.tableFile) entries) path) := by
  induction names generalizing burned database disk entries with
  | nil =>
      simp only [List.nil_append, List.reverse_nil, Keyed.eraseAll, List.map_nil, List.foldl_nil]
      rw [hdisk.refill_self hfolder.find]
  | cons name names ih =>
      rw [List.forall_mem_cons] at hnames hremovable
      obtain ⟨hfirst, hnodup⟩ := List.nodup_cons.mp hnodup
      obtain ⟨⟨removed, left⟩, hremove⟩ := hremovable.1
      obtain ⟨hfree, rfl⟩ := TableFiles.remove_eq_ok hdisk hfolder hnames.1 hremove
      have hentries := hdisk.find hfolder.find
      have hformed := hdisk.refill (hentries.erase (database.files.format.tableFile name)) path
      have hleft := hfolder.put hfree none
      -- The hypotheses are about the disk at the start, the induction is about the disk that is left.
      have hothers : ∀ other ∈ names, database.files.Removable other
          (disk.refill (put (database.files.format.tableFile name) none entries) path) := by
        intro other hother
        have hne : other ≠ name := by
          intro heq
          rw [heq] at hother
          exact hfirst hother
        exact (hremovable.2 other hother).congr hfolder hleft rfl (hnames.2 other hother)
          (Format.sameFiles_apply hne hnames.1 .drop entries)
      have hrest := @ih { database with tables := Keyed.erase name database.tables } _ _ hformed
        hleft hnodup hnames.2 hothers (name :: burned)
      rw [List.cons_append, burnAll, hremove]
      refine hrest.trans ?_
      rw [put, hdisk.refill_refill hfolder.find, List.reverse_cons, List.append_assoc]
      rfl

/-- The burn of the tables that are left stops at one whose file cannot be removed. -/
theorem burnAll_refused (hdisk : disk.WellFormed)
    (hfolder : disk.FolderAt database.files.folder path entries) {burned rest : List String}
    {table : String} {refusal : Refusal} (hnodup : (burned ++ table :: rest).Nodup)
    (hnames : ∀ name ∈ burned ++ table :: rest, isTableName name = true)
    (hremovable : ∀ name ∈ burned, database.files.Removable name disk)
    (hrefused : database.files.remove table disk = .error refusal) :
    burnAll [] (burned ++ table :: rest) database disk =
      ⟨.error (.burnIncomplete burned table refusal),
        { database with tables := Keyed.eraseAll burned database.tables },
        disk.refill (Keyed.eraseAll (burned.map database.files.format.tableFile) entries) path⟩ := by
  have hburned : ∀ name ∈ burned, isTableName name = true := fun name hname =>
    hnames name (List.mem_append_left _ hname)
  have htable := hnames table (by simp)
  have hother : table ∉ burned := by
    intro hmem
    exact (List.disjoint_of_nodup_append hnodup) hmem List.mem_cons_self
  have hentries := (hdisk.find hfolder.find).sorted
  obtain ⟨-, hleft⟩ := folderAt_burned hdisk hfolder hburned hremovable
  have hcongr := TableFiles.remove_congr hfolder hleft rfl htable
    (TableFiles.sameFiles_eraseAll hentries hburned hother)
  rw [hrefused] at hcongr
  have hagain := map_eq_error_iff.mp hcongr.symm
  rw [burnAll_append hdisk hfolder hnodup.of_append_left hburned hremovable, burnAll, hagain]
  simp

/-! ## What a burn spares -/

/-- The folder still has the lock file, the files of the other format, and every other entry that is
neither the file of one of these tables nor a temporary file. -/
structure Spares (format : Format) (names : List String) (entries inner : Keyed Entry) : Prop where
  lock : Keyed.find? lockFile inner = Keyed.find? lockFile entries
  formats : ∀ other ≠ format, ∀ name, isTableName name = true →
    Keyed.find? (other.tableFile name) inner = Keyed.find? (other.tableFile name) entries
  others : ∀ file, file ∉ names.map format.tableFile → file ∉ TableFiles.staleNames entries →
    Keyed.find? file inner = Keyed.find? file entries

theorem spares_eraseAll {format : Format} (hentries : Keyed.Sorted entries) {names : List String}
    (hnames : ∀ name ∈ names, isTableName name = true) {removed : List String}
    (hremoved : removed ⊆ TableFiles.staleNames entries) :
    Spares format names entries
      (Keyed.eraseAll removed (Keyed.eraseAll (names.map format.tableFile) entries)) := by
  have hothers : ∀ file, file ∉ names.map format.tableFile →
      file ∉ TableFiles.staleNames entries →
      Keyed.find? file
          (Keyed.eraseAll removed (Keyed.eraseAll (names.map format.tableFile) entries)) =
        Keyed.find? file entries := by
    intro file hfile hstale
    have hkept : file ∉ removed := fun hmem => hstale (hremoved hmem)
    rw [(Keyed.sorted_eraseAll hentries).find?_eraseAll, if_neg hkept, hentries.find?_eraseAll,
      if_neg hfile]
  refine ⟨?_, fun other hother name hname => ?_, hothers⟩
  · apply hothers lockFile _ (TableFiles.notMem_staleNames hentries isTemporary_lockFile)
    intro hmem
    obtain ⟨name, hname, heq⟩ := List.mem_map.mp hmem
    exact tableFile_ne_lockFile (hnames name hname) format heq
  · apply hothers _ _ (TableFiles.notMem_staleNames hentries (isTemporary_tableFile hname other))
    intro hmem
    obtain ⟨name, -, heq⟩ := List.mem_map.mp hmem
    exact hother (format_eq_of_tableFile_eq heq).symm

/-! ## The names of all tables -/

theorem allNames_eq_ok {found names : List String}
    (hfound : database.files.discover disk = .ok found) (hnames : names.Pairwise (· < ·))
    (hunion : ∀ name, name ∈ names ↔ name ∈ database.list ∨ name ∈ found) :
    database.allNames disk = .ok names := by
  have hsorted := Keyed.sorted_ofList ((database.list ++ found).map fun name => (name, ()))
  rw [allNames, hfound]
  refine congrArg Except.ok (List.Pairwise.eq_of_mem_iff hsorted hnames fun name => ?_)
  rw [Keyed.mem_names_ofList, hunion]
  simp

/-! ## Complete burns -/

/-- All of these tables have been burned, and no table is left, in memory or with a file. -/
structure BurnedAll (database : Database) (entries : Keyed Entry) (names : List String)
    (outcome : Outcome (List String)) (inner : Keyed Entry) : Prop where
  result : outcome.result = .ok names
  emptied : outcome.database = { database with tables := [] }
  files : ∀ name, isTableName name = true → database.files.format.stored name inner = none
  spares : Spares database.files.format names entries inner

theorem burnedAll_of_removable (hsorted : Keyed.Sorted database.tables)
    (hnamed : ∀ name ∈ database.list, isTableName name = true) (hdisk : disk.WellFormed)
    (hfolder : disk.FolderAt database.files.folder path entries) {found names : List String}
    (hfound : database.files.discover disk = .ok found) (hnames : names.Pairwise (· < ·))
    (hunion : ∀ name, name ∈ names ↔ name ∈ database.list ∨ name ∈ found)
    (hremovable : ∀ name ∈ names, database.files.Removable name disk) :
    ∃ inner, (database.burn disk).disk = disk.refill inner path ∧
      (database.burn disk).disk.FolderAt database.files.folder path inner ∧
      BurnedAll database entries names (database.burn disk) inner := by
  have hall := allNames_eq_ok hfound hnames hunion
  have hvalid := isTableName_of_allNames hnamed hall
  have hentries := (hdisk.find hfolder.find).sorted
  obtain ⟨hformed, hleft⟩ := folderAt_burned hdisk hfolder hvalid hremovable
  have hrun := burnAll_append hdisk hfolder hnames.nodup hvalid hremovable [] []
  have htables : Keyed.eraseAll names database.tables = [] := by
    rw [← List.map_eq_nil_iff (f := Prod.fst), List.eq_nil_iff_forall_not_mem]
    intro name hname
    obtain ⟨habsent, hmem⟩ := hsorted.mem_names_eraseAll.mp hname
    exact habsent ((hunion name).mpr (.inl hmem))
  generalize hburned : Keyed.eraseAll (names.map database.files.format.tableFile) entries = burned
    at hformed hleft hrun
  obtain ⟨removed, hinitial, hswept, -⟩ := TableFiles.sweep_spec hformed hleft
  obtain ⟨-, -, hinner⟩ := TableFiles.folderAt_sweep hformed hleft hinitial
  rw [hdisk.refill_refill hfolder.find] at hswept hinner
  have hspares : Spares database.files.format names entries (Keyed.eraseAll removed burned) := by
    rw [← hburned]
    apply spares_eraseAll hentries hvalid
    intro file hfile
    have hstale := hinitial.subset hfile
    rw [← hburned] at hstale
    exact ((TableFiles.mem_staleNames_eraseAll hentries).mp hstale).2
  have hburn : database.burn disk = ⟨.ok names, { database with tables := [] },
      disk.refill (Keyed.eraseAll removed burned) path⟩ := by
    rw [List.append_nil, htables] at hrun
    rw [burn, hall]
    simp only [hrun, burnAll, List.append_nil, List.reverse_reverse, hswept]
  rw [hburn]
  refine ⟨Keyed.eraseAll removed burned, rfl, hinner, rfl, rfl, fun name hname => ?_, hspares⟩
  -- A file that is left would have been discovered before, and then burned.
  rw [Option.eq_none_iff_forall_ne_some]
  intro table hstored
  obtain ⟨serial, content, hfile, -⟩ := Format.stored_eq_some_iff.mp hstored
  have hgone := hformed.find hleft.find
  rw [hgone.sorted.find?_eraseAll] at hfile
  split_ifs at hfile
  rw [← hburned, find?_eraseAll_tableFile hentries] at hfile
  split_ifs at hfile with hkept
  apply hkept
  rw [hunion, TableFiles.mem_discovered hentries hfolder hfound, Format.stored, hfile]
  exact .inr ⟨hname, rfl⟩

/-! ## Burns that stop -/

theorem isFolderAt_of_discover {files : TableFiles} {found : List String}
    (hfound : files.discover disk = .ok found) : disk.IsFolderAt files.folder := by
  obtain ⟨entries, hlist, -⟩ := bind_eq_ok_iff.mp hfound
  obtain ⟨entry, hlookup, hentry⟩ := bind_eq_ok_iff.mp hlist
  cases entry with
  | file serial content => cases hentry
  | folder inner => exact Disk.isFolderAt_of_lookup hlookup

/-- The burn has been refused at this table.  The tables before it are gone from memory and from the
folder, and nothing has happened to the others.  A later burn that is not refused gives those that
are left, be it in memory or with a file. -/
structure StoppedAt (database : Database) (entries : Keyed Entry) (burned : List String)
    (table : String) (rest : List String) (refusal : Refusal) (outcome : Outcome (List String))
    (inner : Keyed Entry) : Prop where
  result : outcome.result = .error (.burnIncomplete burned table refusal)
  memory : ∀ name, Keyed.find? name outcome.database.tables =
    if name ∈ burned then none else Keyed.find? name database.tables
  files : ∀ name, Keyed.find? (database.files.format.tableFile name) inner =
    if name ∈ burned then none
    else Keyed.find? (database.files.format.tableFile name) entries
  spares : Spares database.files.format burned entries inner
  resumes : ∀ later again left, later.WellFormed →
    database.files.discover later = .ok again → (∀ name ∈ again, name ∈ table :: rest) →
    left = (table :: rest).filter
      (fun name => name ∈ outcome.database.list ∨ name ∈ again) →
    (∀ name ∈ left, database.files.Removable name later) →
    (outcome.database.burn later).result = .ok left ∧
      (outcome.database.burn later).database = { database with tables := [] }

/-- After a burn has stopped, the next one goes through the tables that are left. -/
theorem burn_again (hsound : database.Sound) {burned rest : List String} {table : String}
    (hnames : (burned ++ table :: rest).Pairwise (· < ·))
    (hlisted : ∀ name ∈ database.list, name ∈ burned ++ table :: rest)
    {again left : List String} (hlater : later.WellFormed)
    (hagain : database.files.discover later = .ok again)
    (hknown : ∀ name ∈ again, name ∈ table :: rest)
    (hleft : left = (table :: rest).filter fun name =>
      name ∈ Keyed.names (Keyed.eraseAll burned database.tables) ∨ name ∈ again)
    (hremovable : ∀ name ∈ left, database.files.Removable name later) :
    let outcome :=
      burn { database with tables := Keyed.eraseAll burned database.tables } later
    outcome.result = .ok left ∧ outcome.database = { database with tables := [] } := by
  intro outcome
  obtain ⟨way, last, hplace⟩ := isFolderAt_of_discover hagain
  have herased : Keyed.Sorted (Keyed.eraseAll burned database.tables) :=
    Keyed.sorted_eraseAll hsound.sorted
  have hremaining : ∀ name, name ∈ Keyed.names (Keyed.eraseAll burned database.tables) ↔
      name ∉ burned ∧ name ∈ database.list := fun name => hsound.sorted.mem_names_eraseAll
  have hordered : left.Pairwise (· < ·) := by
    rw [hleft]
    exact (List.pairwise_append.mp hnames).2.1.filter _
  have hunion : ∀ name, name ∈ left ↔
      name ∈ Keyed.names (Keyed.eraseAll burned database.tables) ∨ name ∈ again := by
    intro name
    rw [hleft, List.mem_filter, decide_eq_true_iff, and_iff_right_iff_imp]
    intro hmem
    rcases hmem with hmemory | hfile
    · obtain ⟨habsent, hname⟩ := (hremaining name).mp hmemory
      exact (List.mem_append.mp (hlisted name hname)).resolve_left habsent
    · exact hknown name hfile
  obtain ⟨inner, -, -, hburned⟩ := @burnedAll_of_removable
    { database with tables := Keyed.eraseAll burned database.tables } later way last herased
    (fun name hname => hsound.named name ((hremaining name).mp hname).2) hlater hplace again left
    hagain hordered hunion hremovable
  exact ⟨hburned.result, hburned.emptied⟩

/-- A burn goes through all tables, in memory or with a file, in the order of their names.  If no
removal is refused, all of them are gone; otherwise it stops at the first that is refused. -/
theorem burn_stops_at_first_refusal {home : Disk} (hreachable : database.Reachable home)
    (hdisk : disk.WellFormed) (hfolder : disk.FolderAt database.files.folder path entries) :
    ∃ found, database.files.discover disk = .ok found ∧
      ∀ names : List String, names.Pairwise (· < ·) →
        (∀ name, name ∈ names ↔ name ∈ database.list ∨ name ∈ found) →
        ((∀ name ∈ names, database.files.Removable name disk) →
          ∃ inner, (database.burn disk).disk = disk.refill inner path ∧
            (database.burn disk).disk.FolderAt database.files.folder path inner ∧
            BurnedAll database entries names (database.burn disk) inner) ∧
        ∀ burned table rest refusal, names = burned ++ table :: rest →
          (∀ name ∈ burned, database.files.Removable name disk) →
          database.files.remove table disk = .error refusal →
          ∃ inner, (database.burn disk).disk = disk.refill inner path ∧
            (database.burn disk).disk.FolderAt database.files.folder path inner ∧
            StoppedAt database entries burned table rest refusal (database.burn disk) inner := by
  have hsound := hreachable.sound
  have hentries := (hdisk.find hfolder.find).sorted
  refine ⟨_, TableFiles.discover_of_list hfolder.list_eq, fun names hnames hunion => ?_⟩
  have hfound := TableFiles.discover_of_list hfolder.list_eq
  have hall := allNames_eq_ok hfound hnames hunion
  have hvalid := isTableName_of_allNames hsound.named hall
  refine ⟨burnedAll_of_removable hsound.sorted hsound.named hdisk hfolder hfound hnames hunion, ?_⟩
  intro burned table rest refusal hsplit hremovable hrefused
  rw [hsplit] at hnames hvalid hall
  have hburned : ∀ name ∈ burned, isTableName name = true := fun name hname =>
    hvalid name (List.mem_append_left _ hname)
  have hlisted : ∀ name ∈ database.list, name ∈ burned ++ table :: rest := by
    intro name hname
    rw [← hsplit, hunion]
    exact .inl hname
  obtain ⟨-, hinner⟩ := folderAt_burned hdisk hfolder hburned hremovable
  have hburn : database.burn disk =
      ⟨.error (.burnIncomplete burned table refusal),
        { database with tables := Keyed.eraseAll burned database.tables },
        disk.refill (Keyed.eraseAll (burned.map database.files.format.tableFile) entries) path⟩ := by
    rw [burn, hall]
    dsimp only
    rw [burnAll_refused hdisk hfolder hnames.nodup hvalid hremovable hrefused]
  rw [hburn]
  refine ⟨_, rfl, hinner, rfl, hsound.sorted.find?_eraseAll burned,
    fun name => find?_eraseAll_tableFile hentries name,
    spares_eraseAll hentries hburned (List.nil_subset _), ?_⟩
  intro later again left hlater hagain hknown hleft hfree
  exact burn_again hsound hnames hlisted hlater hagain hknown hleft hfree

private def ladenRequests : List Request :=
  [⟨.add "a" (.map []) Validator.none, fun _ => none⟩,
    ⟨.add "c" (.map []) Validator.none, fun _ => none⟩]

private def laden : Database :=
  (serveAll ladenRequests fresh freshDisk).1

/-- The file of `a` is missing, a folder is in place of that of `c`, and `b` is not in memory. -/
private def cluttered : Keyed Entry :=
  [(".a.0.tmp", .file 3 []), (lockFile, .file 0 []), ("a.msgpack", .file 4 []),
    ("b.json", .file 5 []), ("c.json", .folder [])]

private def clutteredDisk : Disk :=
  { Disk.empty with entries := [("fresh", .folder cluttered)], nextSerial := 6 }

theorem burn_stops_at_first_refusal_cluttered :
    (laden.burn clutteredDisk).result = .error (.burnIncomplete ["a", "b"] "c" .isFolder) ∧
      ((laden.burn clutteredDisk).database.burn freshDisk).result = .ok ["c"] := by
  have hsorted : ∀ request ∈ ladenRequests, request.call.Sorted := by
    simp [ladenRequests, Call.Sorted, Value.Sorted, Value.FieldsSorted, Keyed.Sorted, Keyed.names]
  simp only [ladenRequests, List.forall_mem_cons] at hsorted
  have hreachable : laden.Reachable (serveAll ladenRequests fresh freshDisk).2 :=
    .served (.served reachable_fresh hsorted.1) hsorted.2.1
  have hdisk : clutteredDisk.WellFormed := by
    simp +decide [Disk.WellFormed, clutteredDisk, cluttered, Entry.WellFormed,
      Entry.AllWellFormed, Keyed.Sorted, lockFile]
  have hfiles : laden.files = fresh.files := by
    obtain ⟨tables, htables⟩ := serveAll_database ladenRequests fresh freshDisk
    rw [laden, htables]
  have hfolder : clutteredDisk.FolderAt laden.files.folder ["fresh"] cluttered := by
    rw [hfiles]
    exact ⟨rfl, rfl⟩
  have hlist : laden.list = ["a", "c"] := by
    decide +kernel
  obtain ⟨found, hfound, hall⟩ := burn_stops_at_first_refusal hreachable hdisk hfolder
  have hdiscover : laden.files.discover clutteredDisk = .ok ["b"] := by
    rw [hfiles]
    decide +kernel
  cases hdiscover.symm.trans hfound
  have hremovable : ∀ name ∈ ["a", "b"], laden.files.Removable name clutteredDisk := by
    rw [hfiles]
    simp only [List.forall_mem_cons]
    exact ⟨⟨_, rfl⟩, ⟨_, rfl⟩, by simp⟩
  have hrefused : laden.files.remove "c" clutteredDisk = .error .isFolder := by
    rw [hfiles]
    rfl
  have hunion : ∀ name, name ∈ ["a", "b", "c"] ↔ name ∈ laden.list ∨ name ∈ ["b"] := by
    intro name
    rw [hlist]
    simp only [List.mem_cons, List.not_mem_nil, or_false]
    tauto
  obtain ⟨-, hstop⟩ := hall ["a", "b", "c"] (by decide) hunion
  obtain ⟨inner, -, -, hstopped⟩ :=
    hstop ["a", "b"] "c" [] .isFolder rfl hremovable hrefused
  have hkept : "c" ∈ (laden.burn clutteredDisk).database.list := by
    have hlisted : "c" ∈ laden.list := by simp [hlist]
    contrapose! hlisted
    rw [list, ← Keyed.find?_eq_none_iff, hstopped.memory, if_neg (by decide)] at hlisted
    exact (Keyed.find?_eq_none_iff _ _).mp hlisted
  have hlater : freshDisk.WellFormed := by
    simp +decide [Disk.WellFormed, freshDisk, Entry.WellFormed, Entry.AllWellFormed,
      Keyed.Sorted, lockFile]
  have hempty : laden.files.discover freshDisk = .ok [] := by
    rw [hfiles]
    decide +kernel
  have hfree : ∀ name ∈ ["c"], laden.files.Removable name freshDisk := by
    rw [hfiles]
    simp only [List.forall_mem_cons]
    exact ⟨⟨_, rfl⟩, by simp⟩
  have hsecond := hstopped.resumes freshDisk [] ["c"] hlater hempty (by simp) (by simp [hkept]) hfree
  exact ⟨hstopped.result, hsecond.1⟩

end Database

end DocumentStore
