import DocumentStore.Proofs.Disk.Change
import DocumentStore.Proofs.Disk.Outline
import DocumentStore.Table.Files

/-!
# Table files on alike disks

Two disks are alike if they have the same outline.  Every operation on table files gives the same
result on alike disks and leaves alike disks behind, whatever the tables contain and however they
are laid out.  A flush that is refused leaves a disk that has only used up a serial number.
-/

namespace DocumentStore

namespace Disk

/-- The disks have the same folders, the same names of files and the same refusals. -/
def Alike (disk other : Disk) : Prop :=
  disk.outline = other.outline

theorem Alike.permitting {disk other : Disk} (halike : disk.Alike other)
    (denied : Location → Option String) :
    Alike { disk with denied } { other with denied } := by
  have hentries : Entry.outlineAll disk.entries = Entry.outlineAll other.entries :=
    congrArg Disk.entries halike
  simp only [Alike, outline, hentries]

/-- Results with the same outline are the same refusal or alike disks. -/
theorem eq_or_alike_of_map_eq {result other : Except Refusal Disk}
    (hsame : result.map outline = other.map outline) :
    (∃ refusal, result = .error refusal ∧ other = .error refusal) ∨
      ∃ disk later, result = .ok disk ∧ other = .ok later ∧ disk.Alike later := by
  cases result with
  | error refusal =>
      cases other with
      | error found =>
          cases hsame
          exact Or.inl ⟨refusal, rfl, rfl⟩
      | ok later => cases hsame
  | ok disk =>
      cases other with
      | error found => cases hsame
      | ok later =>
          simp only [Except.map, Except.ok.injEq] at hsame
          exact Or.inr ⟨disk, later, rfl, rfl, hsame⟩

theorem Alike.create {disk other : Disk} (halike : disk.Alike other) (location : Location)
    (content bytes : Bytes) :
    (disk.create location content).map outline = (other.create location bytes).map outline := by
  rw [create_outline, create_outline, halike]

theorem Alike.remove {disk other : Disk} (halike : disk.Alike other) (location : Location) :
    (disk.remove location).map outline = (other.remove location).map outline := by
  rw [remove_outline, remove_outline, halike]

theorem Alike.rename {disk other : Disk} (halike : disk.Alike other) (source target : Location) :
    (disk.rename source target).map outline = (other.rename source target).map outline := by
  rw [rename_outline, rename_outline, halike]

theorem Alike.has {disk other : Disk} (halike : disk.Alike other) (location : Location) :
    disk.has location = other.has location := by
  rw [← has_outline, halike, has_outline]

theorem Alike.list {disk other : Disk} (halike : disk.Alike other) (location : Location) :
    (∃ refusal, disk.list location = .error refusal ∧ other.list location = .error refusal) ∨
      ∃ entries found, disk.list location = .ok entries ∧ other.list location = .ok found ∧
        Entry.outlineAll entries = Entry.outlineAll found := by
  have hsame : (disk.list location).map Entry.outlineAll =
      (other.list location).map Entry.outlineAll := by
    rw [← list_outline, halike, list_outline]
  cases hfirst : disk.list location with
  | error refusal =>
      cases hsecond : other.list location with
      | error found =>
          rw [hfirst, hsecond] at hsame
          cases hsame
          exact Or.inl ⟨refusal, rfl, rfl⟩
      | ok found =>
          rw [hfirst, hsecond] at hsame
          cases hsame
  | ok entries =>
      cases hsecond : other.list location with
      | error refusal =>
          rw [hfirst, hsecond] at hsame
          cases hsame
      | ok found =>
          rw [hfirst, hsecond] at hsame
          exact Or.inr ⟨entries, found, rfl, rfl, Except.ok.inj hsame⟩

end Disk

namespace TableFiles

/-- The files stand in the same folder under the same names. -/
structure SameNames (files other : TableFiles) : Prop where
  folder : files.folder = other.folder
  format : files.format = other.format

variable {files other : TableFiles} {disk later : Disk}

theorem freshTemporary_alike (hnames : files.SameNames other) (halike : disk.Alike later)
    (name : String) : files.freshTemporary name disk = other.freshTemporary name later := by
  have hlength : ((disk.list other.folder).toOption.getD []).length =
      ((later.list other.folder).toOption.getD []).length := by
    rcases halike.list other.folder with
      ⟨refusal, hfirst, hsecond⟩ | ⟨entries, found, hfirst, hsecond, hsame⟩
    · rw [hfirst, hsecond]
    · have hcount := congrArg List.length hsame
      rw [Entry.outlineAll_eq_map, Entry.outlineAll_eq_map, List.length_map, List.length_map]
        at hcount
      rw [hfirst, hsecond]
      exact hcount
  have htemporary : files.temporary name = other.temporary name := by
    funext tag
    rw [temporary, temporary, hnames.folder]
  rw [freshTemporary, freshTemporary, htemporary, hnames.folder, hlength]
  simp only [halike.has]

/-- The contents that are written make no difference to a flush. -/
theorem flush_alike (hnames : files.SameNames other) (halike : disk.Alike later) (name : String)
    (table made : Table) :
    (files.flush name table disk).1 = (other.flush name made later).1 ∧
      (files.flush name table disk).2.Alike (other.flush name made later).2 := by
  have hpath : files.path name = other.path name := by
    rw [path, path, hnames.folder, hnames.format]
  simp only [flush, freshTemporary_alike hnames halike, hpath]
  rcases Disk.eq_or_alike_of_map_eq (halike.create (other.freshTemporary name later)
    (files.encode name table) (other.encode name made)) with
    ⟨refusal, hfirst, hsecond⟩ | ⟨written, copy, hfirst, hsecond, hwritten⟩
  · simp only [hfirst, hsecond]
    exact ⟨trivial, halike⟩
  · simp only [hfirst, hsecond]
    rcases Disk.eq_or_alike_of_map_eq (hwritten.rename (other.freshTemporary name later)
      (other.path name)) with ⟨refusal, hfirst, hsecond⟩ | ⟨renamed, moved, hfirst, hsecond, hmoved⟩
    · simp only [hfirst, hsecond]
      refine ⟨trivial, ?_⟩
      rcases Disk.eq_or_alike_of_map_eq (hwritten.remove (other.freshTemporary name later)) with
        ⟨refusal, hfirst, hsecond⟩ | ⟨cleaned, swept, hfirst, hsecond, hcleaned⟩
      · rw [hfirst, hsecond]
        exact hwritten
      · rw [hfirst, hsecond]
        exact hcleaned
    · simp only [hfirst, hsecond]
      exact ⟨trivial, hmoved⟩

theorem remove_alike (hnames : files.SameNames other) (halike : disk.Alike later) (name : String) :
    (∃ refusal, files.remove name disk = .error refusal ∧
        other.remove name later = .error refusal) ∨
      ∃ removed left right, files.remove name disk = .ok (removed, left) ∧
        other.remove name later = .ok (removed, right) ∧ left.Alike right := by
  have hpath : files.path name = other.path name := by
    rw [path, path, hnames.folder, hnames.format]
  rw [remove, remove, hpath]
  rcases Disk.eq_or_alike_of_map_eq (halike.remove (other.path name)) with
    ⟨refusal, hfirst, hsecond⟩ | ⟨left, right, hfirst, hsecond, hleft⟩
  · rw [hfirst, hsecond]
    by_cases hnotFound : refusal = .notFound
    · subst hnotFound
      exact Or.inr ⟨false, disk, later, rfl, rfl, halike⟩
    · refine Or.inl ⟨refusal, ?_, ?_⟩ <;> cases refusal <;> simp_all
  · rw [hfirst, hsecond]
    exact Or.inr ⟨true, left, right, rfl, rfl, hleft⟩

def tablesOf (files : TableFiles) (entries : Keyed Entry) : List String :=
  entries.filterMap fun (name, entry) => if entry.isFolder then none else files.tableOf? name

theorem tablesOf_outlineAll (files : TableFiles) (entries : Keyed Entry) :
    files.tablesOf (Entry.outlineAll entries) = files.tablesOf entries := by
  rw [tablesOf, Entry.outlineAll_eq_map, List.filterMap_map]
  simp only [Function.comp_def, Entry.isFolder_outline]
  rfl

theorem discover_of_list {entries : Keyed Entry} (hlist : disk.list files.folder = .ok entries) :
    files.discover disk = .ok (files.tablesOf entries).mergeSort := by
  rw [discover, hlist]
  rfl

theorem discover_alike (hnames : files.SameNames other) (halike : disk.Alike later) :
    files.discover disk = other.discover later := by
  have htables : files.tablesOf = other.tablesOf := by
    funext entries
    simp only [tablesOf, tableOf?, hnames.format]
  rcases halike.list other.folder with
    ⟨refusal, hfirst, hsecond⟩ | ⟨entries, found, hfirst, hsecond, hsame⟩
  · rw [discover, discover, hnames.folder, hfirst, hsecond]
    rfl
  · have hlist : disk.list files.folder = .ok entries := by rw [hnames.folder, hfirst]
    rw [discover_of_list hlist, discover_of_list hsecond, htables,
      ← tablesOf_outlineAll other entries, hsame, tablesOf_outlineAll]

theorem removeAll_alike (hnames : files.SameNames other) (names : List String)
    (halike : disk.Alike later) :
    (files.removeAll names disk).1 = (other.removeAll names later).1 ∧
      (files.removeAll names disk).2.Alike (other.removeAll names later).2 := by
  induction names generalizing disk later with
  | nil => exact ⟨rfl, halike⟩
  | cons name rest ih =>
      rw [removeAll, removeAll, hnames.folder]
      rcases Disk.eq_or_alike_of_map_eq (halike.remove (other.folder.join name)) with
        ⟨refusal, hfirst, hsecond⟩ | ⟨left, right, hfirst, hsecond, hleft⟩
      · rw [hfirst, hsecond]
        exact ⟨rfl, halike⟩
      · rw [hfirst, hsecond]
        exact ih hleft

def staleNames (entries : Keyed Entry) : List String :=
  Keyed.names (entries.filter fun (name, entry) => !entry.isFolder && isTemporary name)

/-- A sweep leaves behind what the removal of the temporary files leaves behind. -/
theorem sweep_snd {entries : Keyed Entry} (hlist : disk.list files.folder = .ok entries) :
    (files.sweep disk).2 = (files.removeAll (staleNames entries) disk).2 := by
  rw [sweep, hlist, staleNames]
  dsimp only
  rcases files.removeAll _ disk with ⟨result, swept⟩
  cases result <;> rfl

theorem staleNames_outlineAll (entries : Keyed Entry) :
    staleNames (Entry.outlineAll entries) = staleNames entries := by
  rw [staleNames, Entry.outlineAll_eq_map, List.filter_map, Keyed.names, List.map_map]
  simp only [Function.comp_def, Entry.isFolder_outline]
  rfl

theorem sweep_alike (hnames : files.SameNames other) (halike : disk.Alike later) :
    (files.sweep disk).2.Alike (other.sweep later).2 := by
  rcases halike.list other.folder with
    ⟨refusal, hfirst, hsecond⟩ | ⟨entries, found, hfirst, hsecond, hsame⟩
  · simp only [sweep, hnames.folder, hfirst, hsecond]
    exact halike
  · have hlist : disk.list files.folder = .ok entries := by rw [hnames.folder, hfirst]
    rw [sweep_snd hlist, sweep_snd hsecond, ← staleNames_outlineAll entries, hsame,
      staleNames_outlineAll]
    exact (removeAll_alike hnames (staleNames found) halike).2

/-- A refused flush has only used up a serial number. -/
theorem flush_refused (hdisk : disk.WellFormed) {name : String} {table : Table}
    {refusal : Refusal} (hflush : (files.flush name table disk).1 = .error refusal) :
    ∃ serial, disk.nextSerial ≤ serial ∧
      (files.flush name table disk).2 = { disk with nextSerial := serial } := by
  simp only [flush] at hflush ⊢
  cases hcreate : disk.create (files.freshTemporary name disk) (files.encode name table) with
  | error found => exact ⟨disk.nextSerial, le_rfl, rfl⟩
  | ok written =>
      simp only [hcreate] at hflush ⊢
      cases hrename : written.rename (files.freshTemporary name disk) (files.path name) with
      | ok renamed => simp [hrename] at hflush
      | error found =>
          refine ⟨disk.nextSerial + 1, disk.nextSerial.le_succ, ?_⟩
          rw [Disk.remove_create hdisk hcreate]
          rfl

end TableFiles

end DocumentStore
