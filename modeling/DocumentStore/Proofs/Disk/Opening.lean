import DocumentStore.Disk.Lock
import DocumentStore.Proofs.Disk.Folder

/-!
# Folders that are made and files that are locked

Making a folder leaves a disk on which every place on the way to it is a folder, and nothing is made
where all these places are folders already.  Acquiring a lock leaves a file there with the serial
number of the lock.
-/

namespace DocumentStore

/-- The places on the way to a location, with itself. -/
def Location.way (location : Location) : List Location :=
  (List.range location.steps.length).map fun n => ⟨location.steps.take (n + 1)⟩

namespace Disk

def IsFolderAt (disk : Disk) (location : Location) : Prop :=
  ∃ path entries, disk.FolderAt location path entries

theorem KeepsFolders.isFolderAt {disk later : Disk} (hkeeps : disk.KeepsFolders later)
    {location : Location} (hlocation : disk.IsFolderAt location) : later.IsFolderAt location := by
  obtain ⟨path, entries, hfolder⟩ := hlocation
  obtain ⟨found, hfound⟩ := hkeeps path entries hfolder.find
  exact ⟨path, found, hkeeps.resolve_eq hfolder.resolve, hfound⟩

theorem FolderAt.lookup_eq {disk : Disk} {location : Location} {path : List String}
    {entries : Keyed Entry} (hfolder : disk.FolderAt location path entries) :
    disk.lookup location = .ok (.folder entries) := by
  rw [lookup, hfolder.resolve]
  exact hfolder.find

theorem isFolderAt_of_lookup {disk : Disk} {location : Location} {entries : Keyed Entry}
    (hlookup : disk.lookup location = .ok (.folder entries)) : disk.IsFolderAt location := by
  rw [lookup, bind_eq_ok_iff] at hlookup
  obtain ⟨path, hresolve, hfind⟩ := hlookup
  exact ⟨path, entries, hresolve, hfind⟩

/-! ## Making folders -/

theorem ensureFolder_of_isFolderAt {disk : Disk} {location : Location}
    (hlocation : disk.IsFolderAt location) : disk.ensureFolder location = .ok disk := by
  obtain ⟨path, entries, hfolder⟩ := hlocation
  rw [ensureFolder, hfolder.lookup_eq]

theorem ensureFolder_eq_ok {disk later : Disk} (hdisk : disk.WellFormed) {location : Location}
    (hensure : disk.ensureFolder location = .ok later) :
    later.WellFormed ∧ disk.KeepsFolders later ∧ later.IsFolderAt location := by
  unfold ensureFolder at hensure
  split at hensure
  next entries hlookup =>
      cases hensure
      exact ⟨hdisk, KeepsFolders.refl disk, isFolderAt_of_lookup hlookup⟩
  next => cases hensure
  next =>
      obtain ⟨dir, name, inner, present, -, hresolve, hfind, hcheck, hpresent, rfl⟩ :=
        change_eq_ok hensure
      split at hpresent
      next hnone =>
          cases hpresent
          have hkeeps : disk.KeepsFolders (disk.refill (put name (some (.folder [])) inner) dir) :=
            keepsFolders_refill hfind (keepsFolders_put (by simp [hnone]) _)
          have hempty : (Entry.folder []).WellFormed := by
            simp [Entry.wellFormed_folder_iff]
          have hformed : (Entry.folder (put name (some (.folder [])) inner)).WellFormed :=
            (hdisk.find hfind).insert hempty (by simp [Entry.isFolder])
          have hmade : find (dir ++ [name]) (disk.refill (put name (some (.folder [])) inner) dir) =
              .ok (.folder []) := by
            have hdir := Entry.find_refill hfind (put name (some (.folder [])) inner)
            rw [Disk.find, Entry.find_append, Disk.refill, hdir]
            exact Entry.find_cons_eq_ok_iff.mpr ⟨hcheck, _, Keyed.find?_insert_self .., rfl⟩
          exact ⟨hdisk.refill hformed dir, hkeeps, _, _, hkeeps.resolve_eq hresolve, hmade⟩
      next => cases hpresent

def IsWayOfFolders (disk : Disk) (location : Location) : Prop :=
  ∀ place ∈ location.way, disk.IsFolderAt place

theorem KeepsFolders.isWayOfFolders {disk later : Disk} (hkeeps : disk.KeepsFolders later)
    {location : Location} (hway : disk.IsWayOfFolders location) :
    later.IsWayOfFolders location :=
  fun place hplace => hkeeps.isFolderAt (hway place hplace)

theorem makeFolders_eq_ok {disk later : Disk} (hdisk : disk.WellFormed) {location : Location}
    (hmake : disk.makeFolders location = .ok later) :
    later.WellFormed ∧ later.IsWayOfFolders location := by
  have hall : ∀ (places : List Location) {disk : Disk}, disk.WellFormed →
      places.foldlM (fun disk place => disk.ensureFolder place) disk = .ok later →
      later.WellFormed ∧ disk.KeepsFolders later ∧ ∀ place ∈ places, later.IsFolderAt place := by
    intro places
    induction places with
    | nil =>
        intro disk hdisk hfold
        cases hfold
        exact ⟨hdisk, KeepsFolders.refl _, by simp⟩
    | cons place rest ih =>
        intro disk hdisk hfold
        rw [List.foldlM_cons, bind_eq_ok_iff] at hfold
        obtain ⟨middle, hmiddle, hrest⟩ := hfold
        obtain ⟨hformed, hfirst, hplace⟩ := ensureFolder_eq_ok hdisk hmiddle
        obtain ⟨hlater, hkeeps, hplaces⟩ := ih hformed hrest
        refine ⟨hlater, hfirst.trans hkeeps, ?_⟩
        rw [List.forall_mem_cons]
        exact ⟨hkeeps.isFolderAt hplace, hplaces⟩
  obtain ⟨hlater, -, hway⟩ := hall location.way hdisk hmake
  exact ⟨hlater, hway⟩

theorem makeFolders_of_isWayOfFolders {disk : Disk} {location : Location}
    (hway : disk.IsWayOfFolders location) : disk.makeFolders location = .ok disk := by
  have hall : ∀ places : List Location, (∀ place ∈ places, disk.IsFolderAt place) →
      places.foldlM (fun disk place => disk.ensureFolder place) disk = .ok disk := by
    intro places hplaces
    induction places with
    | nil => rfl
    | cons place rest ih =>
        rw [List.forall_mem_cons] at hplaces
        rw [List.foldlM_cons, ensureFolder_of_isFolderAt hplaces.1]
        exact ih hplaces.2
  exact hall location.way hway

theorem IsWayOfFolders.isFolderAt {disk : Disk} {location : Location}
    (hway : disk.IsWayOfFolders location) : disk.IsFolderAt location := by
  obtain ⟨steps⟩ := location
  cases steps with
  | nil => exact ⟨[], disk.entries, rfl, rfl⟩
  | cons step rest =>
      refine hway ⟨step :: rest⟩ (List.mem_map.mpr ⟨rest.length, ?_, ?_⟩)
      · simp
      · simp

theorem find_folder_of_step {disk : Disk} {start next : List String} {name : String}
    (hstep : disk.step start name = .ok next) {inner : Keyed Entry}
    (hnext : disk.find next = .ok (.folder inner)) :
    ∃ outer, disk.find start = .ok (.folder outer) := by
  unfold step at hstep
  by_cases hspecial : name = "" ∨ name = "." ∨ name = ".."
  · rw [if_pos hspecial] at hstep
    cases hstart : disk.find start with
    | error refusal => simp [hstart] at hstep
    | ok entry =>
        cases entry with
        | file serial content => simp [hstart] at hstep
        | folder outer => exact ⟨outer, rfl⟩
  · rw [if_neg hspecial] at hstep
    cases hstep
    rw [Disk.find, Entry.find_append, bind_eq_ok_iff] at hnext
    obtain ⟨entry, hstart, hentry⟩ := hnext
    cases entry with
    | file serial content => cases hentry
    | folder outer => exact ⟨outer, hstart⟩

theorem find_folder_of_walk {disk : Disk} {steps start path : List String}
    (hwalk : steps.foldlM disk.step start = .ok path) {inner : Keyed Entry}
    (hpath : disk.find path = .ok (.folder inner)) :
    ∃ outer, disk.find start = .ok (.folder outer) := by
  induction steps generalizing start with
  | nil =>
      cases hwalk
      exact ⟨inner, hpath⟩
  | cons name rest ih =>
      rw [List.foldlM_cons, bind_eq_ok_iff] at hwalk
      obtain ⟨next, hstep, hrest⟩ := hwalk
      obtain ⟨outer, houter⟩ := ih hrest
      exact find_folder_of_step hstep houter

/-- All places on the way to a folder are folders. -/
theorem FolderAt.isWayOfFolders {disk : Disk} {location : Location} {path : List String}
    {entries : Keyed Entry} (hfolder : disk.FolderAt location path entries) :
    disk.IsWayOfFolders location := by
  intro place hplace
  obtain ⟨n, -, rfl⟩ := List.mem_map.mp hplace
  have hwalk := hfolder.resolve
  rw [Disk.resolve, ← List.take_append_drop (n + 1) location.steps, List.foldlM_append,
    bind_eq_ok_iff] at hwalk
  obtain ⟨start, hstart, hrest⟩ := hwalk
  obtain ⟨inner, hinner⟩ := find_folder_of_walk hrest hfolder.find
  exact ⟨start, inner, hstart, hinner⟩

end Disk

/-! ## Locks -/

namespace Lock

variable {disk later : Disk} {location : Location} {path : List String} {entries : Keyed Entry}
  {name : String} {held : List Nat}

/-- A lock that was acquired is on a file, which was there or has been created. -/
theorem acquire_eq_ok (hdisk : disk.WellFormed) (hfolder : disk.FolderAt location path entries)
    (hname : IsSimpleName name) {lock : Lock}
    (hacquire : acquire (location.join name) held disk = (.ok lock, later)) :
    later.WellFormed ∧ disk.KeepsFolders later ∧ ∃ inner content,
      later.FolderAt location path inner ∧ checkEntryName name = .ok () ∧
        Keyed.find? name inner = some (.file lock.serial content) := by
  unfold acquire at hacquire
  cases hopen : openFile (location.join name) disk with
  | error refusal => simp [hopen] at hacquire
  | ok opened =>
      obtain ⟨serial, left⟩ := opened
      simp only [hopen] at hacquire
      split_ifs at hacquire
      · simp at hacquire
      · simp only [Prod.mk.injEq, Except.ok.injEq] at hacquire
        obtain ⟨rfl, rfl⟩ := hacquire
        unfold openFile at hopen
        split at hopen
        next number content hlookup =>
            cases hopen
            obtain ⟨hcheck, hfile⟩ := (hfolder.lookup_join_eq_ok_iff hname).mp hlookup
            exact ⟨hdisk, Disk.KeepsFolders.refl _, entries, content, hfolder, hcheck, hfile⟩
        next => cases hopen
        next =>
            obtain ⟨created, hcreate, heq⟩ := bind_eq_ok_iff.mp hopen
            cases heq
            obtain ⟨hcheck, -, -⟩ := hfolder.create_join_eq_ok hname hcreate
            obtain ⟨hformed, hcreated⟩ := hfolder.create_join hdisk hname hcreate
            exact ⟨hformed, Disk.keepsFolders_create hcreate, _, [], hcreated, hcheck,
              Keyed.find?_insert_self ..⟩

/-- The lock on a file that is not locked is acquired again without any change. -/
theorem acquire_of_file (hfolder : disk.FolderAt location path entries)
    (hname : IsSimpleName name) (hcheck : checkEntryName name = .ok ()) {serial : Nat}
    {content : Bytes} (hfile : Keyed.find? name entries = some (.file serial content))
    (hfree : serial ∉ held) :
    acquire (location.join name) held disk = (.ok ⟨location.join name, serial⟩, disk) := by
  have hlookup := (hfolder.lookup_join_eq_ok_iff hname).mpr ⟨hcheck, hfile⟩
  rw [acquire, openFile, hlookup]
  simp [hfree]

/-- The lock on a file that can be created, or is there, and is not locked.  The folder is left with
this file. -/
theorem acquire_of_free (hdisk : disk.WellFormed) (hfolder : disk.FolderAt location path entries)
    (hname : IsSimpleName name) (hcheck : checkEntryName name = .ok ())
    (hfree : match Keyed.find? name entries with
      | some (.file serial _) => serial ∉ held
      | some (.folder _) => False
      | none => disk.nextSerial ∉ held ∧ disk.permit (location.join name) = .ok ()) :
    ∃ lock later, acquire (location.join name) held disk = (.ok lock, later) ∧
      later.WellFormed ∧ later.denied = disk.denied ∧
      let inner := Keyed.insert name
        ((Keyed.find? name entries).getD (.file disk.nextSerial [])) entries
      later.entries = Entry.refill inner path disk.entries ∧
        later.FolderAt location path inner := by
  have hsorted := (hdisk.find hfolder.find).sorted
  cases hfind : Keyed.find? name entries with
  | some entry =>
      cases entry with
      | folder inner =>
          rw [hfind] at hfree
          exact hfree.elim
      | file serial content =>
          rw [hfind] at hfree
          have hself := congrArg Disk.entries (hdisk.refill_self hfolder.find)
          refine ⟨_, disk, acquire_of_file hfolder hname hcheck hfind hfree, hdisk, rfl, ?_⟩
          rw [Option.getD_some, hsorted.insert_find? hfind]
          exact ⟨hself.symm, hfolder⟩
  | none =>
      rw [hfind] at hfree
      have hlookup := hfolder.lookup_join hname
      have hcreate := hfolder.create_join_eq hname []
      rw [hcheck, hfind] at hlookup
      rw [hcheck, hfree.2, hfind] at hcreate
      obtain ⟨hformed, hcreated⟩ := hfolder.create_join hdisk hname hcreate
      refine ⟨⟨location.join name, disk.nextSerial⟩, _, ?_, hformed, rfl, rfl, hcreated⟩
      rw [acquire, openFile, hlookup, hcreate]
      simp only [bind, Except.bind, pure, Except.pure, List.contains_iff_mem, if_neg hfree.1]

end Lock

end DocumentStore
