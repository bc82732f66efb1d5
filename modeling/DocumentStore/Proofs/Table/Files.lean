import DocumentStore.Proofs.Disk.Folder
import DocumentStore.Proofs.Table.Alike
import DocumentStore.Proofs.Table.FileNames

/-!
# Table files in a folder

One lemma for each operation on table files says what a success of it means for the entries of the
folder.  A flush puts one file in, a removal takes one out, and a sweep takes out the temporary
files.  What is loaded and discovered is given by the tables that the entries store.
-/

namespace DocumentStore

/-- What the file of a table contains, if the folder has that file. -/
def Format.stored (format : Format) (name : String) (entries : Keyed Entry) :
    Option (Except FileFault Table) :=
  match Keyed.find? (format.tableFile name) entries with
  | some (.file _ content) => some (Table.decode format name content)
  | _ => none

theorem Format.stored_eq_some_iff {format : Format} {name : String} {entries : Keyed Entry}
    {found : Except FileFault Table} :
    format.stored name entries = some found ↔
      ∃ serial content, Keyed.find? (format.tableFile name) entries = some (.file serial content) ∧
        Table.decode format name content = found := by
  unfold stored
  split
  next serial content hfile => simp [hfile]
  next hfile =>
      simp only [reduceCtorEq, false_iff, not_exists, not_and]
      exact fun serial content hfound => absurd hfound (hfile serial content)

namespace TableFiles

variable {files : TableFiles} {disk later : Disk} {path : List String} {entries : Keyed Entry}

/-! ## Writing -/

private theorem erase_insert_insert {name other : String} {entry : Entry}
    (hentries : Keyed.Sorted entries) (hne : other ≠ name)
    (habsent : Keyed.find? other entries = none) :
    Keyed.erase other (Keyed.insert name entry (Keyed.insert other entry entries)) =
      Keyed.insert name entry entries := by
  have hinserted : Keyed.Sorted (Keyed.insert name entry (Keyed.insert other entry entries)) :=
    Keyed.sorted_insert (Keyed.sorted_insert hentries)
  apply (Keyed.sorted_erase hinserted).ext (Keyed.sorted_insert hentries)
  intro key
  rw [hinserted.find?_erase]
  simp only [Keyed.find?_insert]
  by_cases hkey : key = other
  · subst hkey
    simp [hne, habsent]
  · simp [hkey]

/-- A flush puts the file of the table into the folder, in place of a file or of nothing. -/
theorem flush_eq_ok (hdisk : disk.WellFormed) (hfolder : disk.FolderAt files.folder path entries)
    {name : String} (hname : isTableName name = true) {table : Table}
    (hflush : files.flush name table disk = (.ok (), later)) :
    (∀ inner, Keyed.find? (files.format.tableFile name) entries ≠ some (.folder inner)) ∧
      ∃ serial, later.entries = (disk.refill (put (files.format.tableFile name)
        (some (.file serial (files.encode name table))) entries) path).entries := by
  obtain ⟨tag, htag⟩ : ∃ tag, files.freshTemporary name disk =
      files.folder.join (temporaryFile name tag) := ⟨_, rfl⟩
  have hsource := isSimpleName_temporaryFile hname tag
  have htarget := isSimpleName_tableFile hname files.format
  have hne := temporaryFile_ne_tableFile hname name tag files.format
  simp only [flush, htag, path_eq] at hflush
  cases hcreate : disk.create (files.folder.join (temporaryFile name tag))
      (files.encode name table) with
  | error refusal => simp [hcreate] at hflush
  | ok written =>
      simp only [hcreate] at hflush
      cases hrename : written.rename (files.folder.join (temporaryFile name tag))
          (files.folder.join (files.format.tableFile name)) with
      | error refusal => simp [hrename] at hflush
      | ok renamed =>
          simp only [hrename, Prod.mk.injEq, true_and] at hflush
          subst hflush
          obtain ⟨hcheck, hnone, hwritten⟩ := hfolder.create_join_eq_ok hsource hcreate
          generalize hinner : Keyed.insert (temporaryFile name tag)
            (.file disk.nextSerial (files.encode name table)) entries = inner at hwritten
          have hentries := hdisk.find hfolder.find
          obtain ⟨hformed, hmiddle⟩ := hfolder.create_join hdisk hsource hcreate
          rw [hinner] at hmiddle
          have hfile : Keyed.find? (temporaryFile name tag) inner =
              some (.file disk.nextSerial (files.encode name table)) := by
            rw [← hinner, Keyed.find?_insert_self]
          obtain ⟨-, hfree, rfl⟩ := hmiddle.rename_join_eq_ok hformed hsource htarget hne hcheck
            hfile hrename
          refine ⟨fun sub hsub => hfree sub ?_, disk.nextSerial, ?_⟩
          · rw [← hinner, Keyed.find?_insert, if_neg (Ne.symm hne), hsub]
          · rw [hwritten, ← hinner, erase_insert_insert hentries.sorted hne hnone]
            exact Entry.refill_refill hdisk hfolder.find _ _

/-! ## Removing -/

theorem remove_join_eq_ok (hfolder : disk.FolderAt files.folder path entries) {file : String}
    (hfile : IsSimpleName file) (hremove : disk.remove (files.folder.join file) = .ok later) :
    (∃ serial content, Keyed.find? file entries = some (.file serial content)) ∧
      later = disk.refill (put file none entries) path := by
  rw [hfolder.remove_join hfile] at hremove
  simp only [bind_eq_ok_iff] at hremove
  obtain ⟨⟨⟩, -, ⟨⟩, -, hbody⟩ := hremove
  cases hfind : Keyed.find? file entries with
  | none => simp [hfind] at hbody
  | some entry =>
      cases entry with
      | folder inner => simp [hfind] at hbody
      | file serial content =>
          simp only [hfind, Except.ok.injEq] at hbody
          exact ⟨⟨serial, content, rfl⟩, hbody.symm⟩

/-- A removal takes the file of the table out of the folder, if there is one. -/
theorem remove_eq_ok (hdisk : disk.WellFormed) (hfolder : disk.FolderAt files.folder path entries)
    {name : String} (hname : isTableName name = true) {removed : Bool}
    (hremove : files.remove name disk = .ok (removed, later)) :
    (∀ inner, Keyed.find? (files.format.tableFile name) entries ≠ some (.folder inner)) ∧
      later = disk.refill (put (files.format.tableFile name) none entries) path := by
  have hsimple := isSimpleName_tableFile hname files.format
  rw [remove, path_eq] at hremove
  cases hresult : disk.remove (files.folder.join (files.format.tableFile name)) with
  | ok left =>
      simp only [hresult, Except.ok.injEq, Prod.mk.injEq] at hremove
      obtain ⟨-, rfl⟩ := hremove
      obtain ⟨⟨serial, content, hfile⟩, heq⟩ := remove_join_eq_ok hfolder hsimple hresult
      exact ⟨by simp [hfile], heq⟩
  | error refusal =>
      obtain rfl : refusal = .notFound := by
        rw [hresult] at hremove
        cases refusal <;> simp_all
      simp only [hresult, Except.ok.injEq, Prod.mk.injEq] at hremove
      obtain ⟨-, rfl⟩ := hremove
      have habsent : Keyed.find? (files.format.tableFile name) entries = none := by
        rw [hfolder.remove_join hsimple, checkEntryName_tableFile hname, Disk.permit] at hresult
        cases hdenied : disk.denied (files.folder.join (files.format.tableFile name)) with
        | some reason => simp [hdenied, bind, Except.bind] at hresult
        | none =>
            cases hfind : Keyed.find? (files.format.tableFile name) entries with
            | none => rfl
            | some entry => cases entry <;> simp [hdenied, hfind, bind, Except.bind] at hresult
      refine ⟨by simp [habsent], ?_⟩
      rw [put, Keyed.erase_of_find?_none habsent, hdisk.refill_self hfolder.find]

/-- Files of the folder can be taken out of it, and it stays the same folder. -/
theorem eraseAll_files (hdisk : disk.WellFormed)
    (hfolder : disk.FolderAt files.folder path entries) {names : List String}
    (hnames : ∀ name ∈ names, ∀ inner, Keyed.find? name entries ≠ some (.folder inner)) :
    (disk.refill (Keyed.eraseAll names entries) path).WellFormed ∧
      disk.KeepsFolders (disk.refill (Keyed.eraseAll names entries) path) ∧
      (disk.refill (Keyed.eraseAll names entries) path).FolderAt files.folder path
        (Keyed.eraseAll names entries) := by
  have hentries := hdisk.find hfolder.find
  have hkeeps : Entry.KeepsFolders entries (Keyed.eraseAll names entries) := by
    intro name inner hinner
    rw [hentries.sorted.find?_eraseAll, if_neg, hinner]
    intro hmem
    exact hnames name hmem inner hinner
  exact ⟨hdisk.refill (hentries.eraseAll names) path,
    Disk.keepsFolders_refill hfolder.find hkeeps, hfolder.refill hkeeps⟩

/-- Files are removed in their order up to the first one that is refused. -/
theorem removeAll_spec {names : List String} (hnames : ∀ name ∈ names, IsSimpleName name)
    (hdisk : disk.WellFormed) (hfolder : disk.FolderAt files.folder path entries) :
    ∃ removed, removed <+: names ∧
      (∀ name ∈ removed, ∀ inner, Keyed.find? name entries ≠ some (.folder inner)) ∧
      (files.removeAll names disk).2 = disk.refill (Keyed.eraseAll removed entries) path ∧
      ((files.removeAll names disk).1 = .ok () → removed = names) := by
  induction names generalizing disk entries with
  | nil => exact ⟨[], List.prefix_rfl, by simp, (hdisk.refill_self hfolder.find).symm, fun _ => rfl⟩
  | cons name rest ih =>
      rw [List.forall_mem_cons] at hnames
      unfold removeAll
      cases hfirst : disk.remove (files.folder.join name) with
      | error refusal =>
          exact ⟨[], List.nil_prefix, by simp, (hdisk.refill_self hfolder.find).symm, by simp⟩
      | ok left =>
          obtain ⟨⟨serial, content, hfile⟩, rfl⟩ := remove_join_eq_ok hfolder hnames.1 hfirst
          have hentries := hdisk.find hfolder.find
          have hfree : ∀ inner, Keyed.find? name entries ≠ some (.folder inner) := by
            simp [hfile]
          obtain ⟨removed, hprefix, hremoved, hleft, hall⟩ := ih hnames.2
            (hdisk.refill (hentries.erase name) path) (hfolder.put hfree none)
          refine ⟨name :: removed, List.cons_prefix_cons.mpr ⟨rfl, hprefix⟩, ?_, ?_, ?_⟩
          · rw [List.forall_mem_cons]
            refine ⟨hfree, fun other hother inner hinner => hremoved other hother inner ?_⟩
            rw [put, Keyed.find?_erase_of_ne, hinner]
            rintro rfl
            exact hfree inner hinner
          · exact hleft.trans (hdisk.refill_refill hfolder.find _ _)
          · intro hok
            rw [hall hok]

/-- Files that the system lets be removed are removed. -/
theorem removeAll_of_permitted {names : List String} (hnodup : names.Nodup)
    (hdisk : disk.WellFormed) (hfolder : disk.FolderAt files.folder path entries)
    (hfiles : ∀ name ∈ names, IsSimpleName name ∧
      ∃ serial content, Keyed.find? name entries = some (.file serial content))
    (hpermitted : ∀ name ∈ names, checkEntryName name = .ok () ∧
      disk.permit (files.folder.join name) = .ok ()) :
    (files.removeAll names disk).1 = .ok () := by
  induction names generalizing disk entries with
  | nil => rfl
  | cons name rest ih =>
      rw [List.forall_mem_cons] at hfiles hpermitted
      obtain ⟨⟨hsimple, serial, content, hfile⟩, hothers⟩ := hfiles
      obtain ⟨⟨hcheck, hpermit⟩, hrest⟩ := hpermitted
      obtain ⟨hfirst, hnodup⟩ := List.nodup_cons.mp hnodup
      have hentries := hdisk.find hfolder.find
      have hfree : ∀ inner, Keyed.find? name entries ≠ some (.folder inner) := by
        simp [hfile]
      have hremove : disk.remove (files.folder.join name) =
          .ok (disk.refill (Keyed.erase name entries) path) := by
        rw [hfolder.remove_join hsimple, hpermit, hcheck, hfile]
        rfl
      rw [removeAll, hremove]
      apply ih hnodup (hdisk.refill (hentries.erase name) path) (hfolder.put hfree none) _ hrest
      intro other hother
      have hne : other ≠ name := by
        rintro rfl
        exact hfirst hother
      rw [put, Keyed.find?_erase_of_ne hne]
      exact hothers other hother

theorem mem_staleNames (hentries : Keyed.Sorted entries) {file : String} :
    file ∈ staleNames entries ↔ isTemporary file = true ∧
      ∃ serial content, Keyed.find? file entries = some (.file serial content) := by
  simp only [staleNames, Keyed.names, List.mem_map, List.mem_filter, Bool.and_eq_true,
    Bool.not_eq_true', hentries.find?_eq_some_iff]
  constructor
  · rintro ⟨⟨name, entry⟩, ⟨hmem, hfile, htemporary⟩, rfl⟩
    cases entry with
    | folder inner => simp [Entry.isFolder] at hfile
    | file serial content => exact ⟨htemporary, serial, content, hmem⟩
  · rintro ⟨htemporary, serial, content, hmem⟩
    exact ⟨_, ⟨hmem, rfl, htemporary⟩, rfl⟩

theorem pairwise_staleNames (hentries : Keyed.Sorted entries) :
    (staleNames entries).Pairwise (· < ·) :=
  hentries.sublist (List.filter_sublist.map Prod.fst)

theorem notMem_staleNames (hentries : Keyed.Sorted entries) {file : String}
    (hfile : isTemporary file = false) : file ∉ staleNames entries := by
  intro hmem
  rw [((mem_staleNames hentries).mp hmem).1] at hfile
  cases hfile

/-- The temporary files of a folder do not depend on its other entries. -/
theorem staleNames_congr {inner : Keyed Entry} (hentries : Keyed.Sorted entries)
    (hinner : Keyed.Sorted inner)
    (hsame : ∀ file, isTemporary file = true →
      Keyed.find? file inner = Keyed.find? file entries) :
    staleNames inner = staleNames entries := by
  apply (pairwise_staleNames hinner).eq_of_mem_iff (pairwise_staleNames hentries)
  intro file
  rw [mem_staleNames hinner, mem_staleNames hentries]
  exact and_congr_right fun hfile => by rw [hsame file hfile]

theorem mem_staleNames_eraseAll (hentries : Keyed.Sorted entries) {names : List String}
    {file : String} :
    file ∈ staleNames (Keyed.eraseAll names entries) ↔
      file ∉ names ∧ file ∈ staleNames entries := by
  rw [mem_staleNames (Keyed.sorted_eraseAll hentries), mem_staleNames hentries,
    hentries.find?_eraseAll]
  by_cases hfile : file ∈ names <;> simp [hfile]

theorem isSimpleName_of_mem_staleNames (hentries : (Entry.folder entries).WellFormed)
    {file : String} (hfile : file ∈ staleNames entries) : IsSimpleName file := by
  obtain ⟨-, serial, content, hfound⟩ := (mem_staleNames hentries.sorted).mp hfile
  exact hentries.simpleName hfound

theorem sweep_fst (hlist : disk.list files.folder = .ok entries) :
    (files.sweep disk).1 =
      (files.removeAll (staleNames entries) disk).1.map fun _ => (staleNames entries).length := by
  rw [sweep, hlist]
  dsimp only
  rw [← staleNames]
  rcases files.removeAll (staleNames entries) disk with ⟨refusal | ⟨⟩, swept⟩
  · rfl
  · rw [staleNames, Keyed.names, List.length_map]
    rfl

/-- A sweep takes temporary files out of the folder, all of them unless one is refused. -/
theorem sweep_spec (hdisk : disk.WellFormed) (hfolder : disk.FolderAt files.folder path entries) :
    ∃ removed, removed <+: staleNames entries ∧
      (files.sweep disk).2 = disk.refill (Keyed.eraseAll removed entries) path ∧
      ∀ count, (files.sweep disk).1 = .ok count →
        removed = staleNames entries ∧ count = (staleNames entries).length := by
  have hentries := hdisk.find hfolder.find
  obtain ⟨removed, hprefix, -, hleft, hall⟩ := removeAll_spec
    (fun name hname => isSimpleName_of_mem_staleNames hentries hname) hdisk hfolder
  refine ⟨removed, hprefix, ?_, fun count hcount => ?_⟩
  · rw [sweep_snd hfolder.list_eq, hleft]
  · rw [sweep_fst hfolder.list_eq] at hcount
    obtain ⟨⟨⟩, hok, hlength⟩ := map_eq_ok_iff.mp hcount
    exact ⟨hall hok, hlength.symm⟩

theorem sweep_of_permitted (hdisk : disk.WellFormed)
    (hfolder : disk.FolderAt files.folder path entries)
    (hpermitted : ∀ file ∈ staleNames entries, checkEntryName file = .ok () ∧
      disk.permit (files.folder.join file) = .ok ()) :
    (files.sweep disk).1 = .ok (staleNames entries).length := by
  have hentries := hdisk.find hfolder.find
  have hremove := removeAll_of_permitted (pairwise_staleNames hentries.sorted).nodup hdisk hfolder
    (fun file hfile => ⟨isSimpleName_of_mem_staleNames hentries hfile,
      ((mem_staleNames hentries.sorted).mp hfile).2⟩) hpermitted
  rw [sweep_fst hfolder.list_eq, hremove]
  rfl

/-- The folder after a sweep has the same entries, but for the temporary files that are gone. -/
theorem folderAt_sweep (hdisk : disk.WellFormed)
    (hfolder : disk.FolderAt files.folder path entries) {removed : List String}
    (hremoved : removed <+: staleNames entries) :
    (disk.refill (Keyed.eraseAll removed entries) path).WellFormed ∧
      disk.KeepsFolders (disk.refill (Keyed.eraseAll removed entries) path) ∧
      (disk.refill (Keyed.eraseAll removed entries) path).FolderAt files.folder path
        (Keyed.eraseAll removed entries) := by
  apply eraseAll_files hdisk hfolder
  intro name hname inner hinner
  obtain ⟨-, serial, content, hfile⟩ :=
    (mem_staleNames (hdisk.find hfolder.find).sorted).mp (hremoved.subset hname)
  rw [hfile] at hinner
  cases hinner

theorem staleNames_eraseAll (hentries : Keyed.Sorted entries) :
    staleNames (Keyed.eraseAll (staleNames entries) entries) = [] := by
  rw [List.eq_nil_iff_forall_not_mem]
  intro file hfile
  obtain ⟨habsent, hstale⟩ := (mem_staleNames_eraseAll hentries).mp hfile
  exact habsent hstale

theorem sweep_eq_ok (hdisk : disk.WellFormed) (hfolder : disk.FolderAt files.folder path entries)
    {count : Nat} (hsweep : files.sweep disk = (.ok count, later)) :
    later.WellFormed ∧ disk.KeepsFolders later ∧ ∃ inner, later.FolderAt files.folder path inner ∧
      staleNames inner = [] ∧ ∀ key, isTemporary key = false →
        Keyed.find? key inner = Keyed.find? key entries := by
  have hentries := (hdisk.find hfolder.find).sorted
  obtain ⟨removed, hprefix, hleft, hall⟩ := sweep_spec hdisk hfolder
  rw [hsweep] at hleft hall
  obtain ⟨rfl, -⟩ := hall count rfl
  obtain rfl : later = _ := hleft
  obtain ⟨hformed, hkeeps, hswept⟩ := folderAt_sweep hdisk hfolder List.prefix_rfl
  refine ⟨hformed, hkeeps, _, hswept, staleNames_eraseAll hentries, fun key hkey => ?_⟩
  rw [hentries.find?_eraseAll, if_neg (notMem_staleNames hentries hkey)]

theorem sweep_of_staleNames_nil (hfolder : disk.FolderAt files.folder path entries)
    (hclean : staleNames entries = []) : files.sweep disk = (.ok 0, disk) := by
  have hnone := List.map_eq_nil_iff.mp hclean
  rw [sweep, hfolder.list_eq]
  simp only [hnone]
  rfl

/-! ## Reading -/

/-- What loading a table gives is decided by the entry under the name of its file. -/
theorem load_eq (hfolder : disk.FolderAt files.folder path entries) {name : String}
    (hname : isTableName name = true) :
    files.load name disk =
      match Keyed.find? (files.format.tableFile name) entries with
      | some (.file _ content) => files.decode (files.path name).text name content
      | some (.folder _) => .error (.disk .isFolder)
      | none => .error (.tableNotFound name) := by
  have hlookup := hfolder.lookup_join (isSimpleName_tableFile hname files.format)
  rw [← path_eq, checkEntryName_tableFile hname] at hlookup
  rw [load, Disk.read, hlookup]
  rcases Keyed.find? (files.format.tableFile name) entries with _ | _ | _ <;> rfl

theorem load_of_stored (hfolder : disk.FolderAt files.folder path entries) {name : String}
    (hname : isTableName name = true) {found : Except FileFault Table}
    (hstored : files.format.stored name entries = some found) :
    files.load name disk = found.mapError (.corruptFile (files.path name).text) := by
  obtain ⟨serial, content, hfile, hdecode⟩ := Format.stored_eq_some_iff.mp hstored
  rw [load_eq hfolder hname, hfile, ← hdecode]
  rfl

theorem load_eq_ok_iff (hfolder : disk.FolderAt files.folder path entries) {name : String}
    (hname : isTableName name = true) {table : Table} :
    files.load name disk = .ok table ↔ files.format.stored name entries = some (.ok table) := by
  rw [load_eq hfolder hname, Format.stored]
  rcases Keyed.find? (files.format.tableFile name) entries with _ | _ | _ <;>
    simp [decode, mapError_eq_ok_iff]

theorem mem_tablesOf (hentries : Keyed.Sorted entries) {name : String} :
    name ∈ files.tablesOf entries ↔
      isTableName name = true ∧ (files.format.stored name entries).isSome = true := by
  simp only [tablesOf, List.mem_filterMap, Option.ite_none_left_eq_some, Bool.not_eq_true,
    tableOf?_eq_some_iff, Option.isSome_iff_exists, Format.stored_eq_some_iff,
    hentries.find?_eq_some_iff]
  constructor
  · rintro ⟨⟨file, entry⟩, hmem, hentry, rfl, hname⟩
    cases entry with
    | folder inner => simp [Entry.isFolder] at hentry
    | file serial content => exact ⟨hname, _, serial, content, hmem, rfl⟩
  · rintro ⟨hname, -, serial, content, hmem, -⟩
    exact ⟨_, hmem, rfl, rfl, hname⟩

/-- The tables that are discovered are those that have a file. -/
theorem mem_discovered (hentries : Keyed.Sorted entries)
    (hfolder : disk.FolderAt files.folder path entries) {found : List String}
    (hfound : files.discover disk = .ok found) {name : String} :
    name ∈ found ↔
      isTableName name = true ∧ (files.format.stored name entries).isSome = true := by
  rw [discover_of_list hfolder.list_eq] at hfound
  cases hfound
  rw [List.mem_mergeSort, mem_tablesOf hentries]

theorem nodup_tablesOf (hentries : Keyed.Sorted entries) : (files.tablesOf entries).Nodup := by
  rw [tablesOf, List.Nodup, List.pairwise_filterMap]
  apply (List.pairwise_map.mp hentries).imp
  rintro ⟨file, entry⟩ ⟨other, item⟩ hlt name hname second hsecond rfl
  simp only [Option.ite_none_left_eq_some, tableOf?_eq_some_iff] at hname hsecond
  rw [hname.2.1, hsecond.2.1] at hlt
  exact lt_irrefl _ hlt

theorem pairwise_tablesOf (hentries : Keyed.Sorted entries) :
    (files.tablesOf entries).mergeSort.Pairwise (· < ·) := by
  have hordered : ((files.tablesOf entries).mergeSort).Pairwise (· ≤ ·) :=
    List.pairwise_mergeSort' (· ≤ ·) _
  have hdistinct : ((files.tablesOf entries).mergeSort).Nodup :=
    (List.mergeSort_perm _ _).nodup_iff.mpr (nodup_tablesOf hentries)
  exact (hordered.and hdistinct).imp fun h => lt_of_le_of_ne h.1 h.2

end TableFiles

end DocumentStore
