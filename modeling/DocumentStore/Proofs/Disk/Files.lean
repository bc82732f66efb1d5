import DocumentStore.Proofs.Disk.Opening

/-!
# Files on a disk

`Disk.FileAt` says which file a path leads to.  Putting an entry in place of a file or of nothing makes
a difference to one path alone, making folders changes no file, and a creation adds one.
-/

namespace DocumentStore

namespace Entry

/-- The path leads to a file with this serial number and content. -/
def HasFile (entries : Keyed Entry) (path : List String) (serial : Nat) (content : Bytes) : Prop :=
  find path (folder entries) = .ok (file serial content)

variable {entries inner changed : Keyed Entry} {name : String} {serial : Nat} {content : Bytes}

theorem not_hasFile_nil : ¬ HasFile entries [] serial content := nofun

theorem hasFile_cons_iff {rest : List String} :
    HasFile entries (name :: rest) serial content ↔ checkEntryName name = .ok () ∧
      ∃ next, Keyed.find? name entries = some next ∧ find rest next = .ok (file serial content) :=
  find_cons_eq_ok_iff

theorem hasFile_cons_congr {other : Keyed Entry}
    (hsame : Keyed.find? name entries = Keyed.find? name other) (rest : List String) :
    HasFile entries (name :: rest) serial content ↔
      HasFile other (name :: rest) serial content := by
  rw [hasFile_cons_iff, hasFile_cons_iff, hsame]

theorem hasFile_cons_folder {next : Keyed Entry}
    (hnext : Keyed.find? name entries = some (folder next)) (rest : List String) :
    HasFile entries (name :: rest) serial content ↔
      checkEntryName name = .ok () ∧ HasFile next rest serial content := by
  rw [hasFile_cons_iff, hnext]
  simp [HasFile]

/-- There is no file below the entry, though it can be a file itself. -/
def IsBare (present : Option Entry) : Prop :=
  ∀ inner, present = some (folder inner) → inner = []

theorem IsBare.not_hasFile {step : String} {rest : List String}
    (hbare : IsBare (Keyed.find? name entries)) :
    ¬ HasFile entries (name :: step :: rest) serial content := by
  rw [hasFile_cons_iff]
  rintro ⟨-, next, hnext, hrest⟩
  cases next with
  | file number bytes => cases hrest
  | folder found =>
      obtain rfl := hbare found hnext
      obtain ⟨-, below, hbelow, -⟩ := find_cons_eq_ok_iff.mp hrest
      cases hbelow

/-- A refill that changes one bare entry changes no file at another path. -/
theorem hasFile_refill_of_ne {dir path : List String}
    (hdir : find dir (folder entries) = .ok (folder inner))
    (hothers : ∀ key, key ≠ name → Keyed.find? key changed = Keyed.find? key inner)
    (hold : IsBare (Keyed.find? name inner)) (hnew : IsBare (Keyed.find? name changed))
    (hpath : path ≠ dir ++ [name]) :
    HasFile (refill changed dir entries) path serial content ↔
      HasFile entries path serial content := by
  induction dir generalizing entries path with
  | nil =>
      cases hdir
      change HasFile changed path serial content ↔ _
      cases path with
      | nil => simp only [not_hasFile_nil]
      | cons key rest =>
          by_cases hkey : key = name
          · subst hkey
            cases rest with
            | nil => exact absurd rfl hpath
            | cons step later => simp only [hold.not_hasFile, hnew.not_hasFile]
          · exact hasFile_cons_congr (hothers key hkey) rest
  | cons first later ih =>
      obtain ⟨-, next, hnext, hlater⟩ := find_cons_folder hdir
      rw [refill_cons hnext]
      cases path with
      | nil => simp only [not_hasFile_nil]
      | cons key rest =>
          by_cases hkey : key = first
          · subst hkey
            have hrest : rest ≠ later ++ [name] := fun heq => hpath (by rw [heq]; rfl)
            rw [hasFile_cons_folder (Keyed.find?_insert_self ..), hasFile_cons_folder hnext,
              ih hlater hrest]
          · refine hasFile_cons_congr ?_ rest
            rw [Keyed.find?_insert, if_neg hkey]

end Entry

namespace Disk

variable {disk later : Disk} {location : Location} {path : List String}

def FileAt (disk : Disk) (path : List String) (serial : Nat) (content : Bytes) : Prop :=
  Entry.HasFile disk.entries path serial content

theorem fileAt_append_singleton {dir : List String} {name : String} {inner : Keyed Entry}
    (hfind : disk.find dir = .ok (.folder inner)) (hcheck : checkEntryName name = .ok ())
    (serial : Nat) (content : Bytes) :
    disk.FileAt (dir ++ [name]) serial content ↔
      Keyed.find? name inner = some (.file serial content) := by
  rw [FileAt, Entry.HasFile, Entry.find_append, ← Disk.find, hfind]
  change Entry.find [name] (.folder inner) = _ ↔ _
  rw [Entry.find_cons_eq_ok_iff]
  simp [hcheck, Entry.find]

/-- A bare entry that is put in place of a bare entry makes a difference to the file at one path
alone. -/
theorem fileAt_refill_put (hdisk : disk.WellFormed) {dir : List String} {name : String}
    {inner : Keyed Entry} (hfind : disk.find dir = .ok (.folder inner))
    (hcheck : checkEntryName name = .ok ()) (hold : Entry.IsBare (Keyed.find? name inner))
    {new : Option Entry} (hnew : Entry.IsBare new) :
    (∀ serial content, (disk.refill (put name new inner) dir).FileAt (dir ++ [name]) serial
        content ↔ new = some (.file serial content)) ∧
      ∀ path, path ≠ dir ++ [name] → ∀ serial content,
        (disk.refill (put name new inner) dir).FileAt path serial content ↔
          disk.FileAt path serial content := by
  have hinner : Keyed.Sorted inner := (hdisk.find hfind).sorted
  have hself : Keyed.find? name (put name new inner) = new := by
    cases new with
    | none => exact hinner.find?_erase_self
    | some entry => exact Keyed.find?_insert_self ..
  have hothers : ∀ key, key ≠ name →
      Keyed.find? key (put name new inner) = Keyed.find? key inner := by
    intro key hkey
    cases new with
    | none => exact Keyed.find?_erase_of_ne hkey inner
    | some entry => rw [put, Keyed.find?_insert, if_neg hkey]
  have hrefilled : (disk.refill (put name new inner) dir).find dir =
      .ok (.folder (put name new inner)) := Entry.find_refill hfind _
  constructor
  · intro serial content
    rw [fileAt_append_singleton hrefilled hcheck, hself]
  · intro path hpath serial content
    exact Entry.hasFile_refill_of_ne hfind hothers hold (hself.symm ▸ hnew) hpath

/-- A change of a bare entry to a bare entry makes a difference to the file at one path alone. -/
theorem fileAt_change (hdisk : disk.WellFormed)
    {change : Option Entry → Except Refusal (Option Entry)}
    (hchange : disk.change location change = .ok later)
    (hbare : ∀ old new, change old = .ok new → Entry.IsBare old ∧ Entry.IsBare new) :
    ∃ target old new, disk.resolve location = .ok target ∧ change old = .ok new ∧
      (∀ serial content, disk.FileAt target serial content ↔ old = some (.file serial content)) ∧
      (∀ serial content, later.FileAt target serial content ↔ new = some (.file serial content)) ∧
      ∀ path, path ≠ target → ∀ serial content,
        later.FileAt path serial content ↔ disk.FileAt path serial content := by
  obtain ⟨dir, name, inner, new, -, hresolve, hfind, hcheck, hnew, rfl⟩ := change_eq_ok hchange
  obtain ⟨hold, hbareNew⟩ := hbare _ _ hnew
  exact ⟨dir ++ [name], Keyed.find? name inner, new, hresolve, hnew,
    fileAt_append_singleton hfind hcheck, fileAt_refill_put hdisk hfind hcheck hold hbareNew⟩

theorem nextSerial_change {change : Option Entry → Except Refusal (Option Entry)}
    (hchange : disk.change location change = .ok later) : later.nextSerial = disk.nextSerial := by
  obtain ⟨dir, name, inner, present, -, -, -, -, -, rfl⟩ := change_eq_ok hchange
  rfl

theorem fileAt_makeFolder (hdisk : disk.WellFormed)
    (hmake : disk.makeFolder location = .ok later) (path : List String) (serial : Nat)
    (content : Bytes) : later.FileAt path serial content ↔ disk.FileAt path serial content := by
  obtain ⟨target, old, new, -, hnew, hfirst, hsecond, hothers⟩ :=
    fileAt_change hdisk hmake fun old new hnew => by
      cases old <;> cases hnew
      simp [Entry.IsBare]
  by_cases hpath : path = target
  · subst hpath
    rw [hfirst, hsecond]
    cases old <;> cases hnew
    simp
  · exact hothers path hpath serial content

theorem fileAt_create (hdisk : disk.WellFormed) {bytes : Bytes}
    (hcreate : disk.create location bytes = .ok later) :
    ∃ target, disk.resolve location = .ok target ∧ ∀ path serial content,
      later.FileAt path serial content ↔
        (path = target ∧ serial = disk.nextSerial ∧ content = bytes) ∨
          disk.FileAt path serial content := by
  rw [create, bind_eq_ok_iff] at hcreate
  obtain ⟨changed, hchanged, heq⟩ := hcreate
  cases heq
  obtain ⟨target, old, new, hresolve, hnew, hfirst, hsecond, hothers⟩ :=
    fileAt_change hdisk hchanged fun old new hnew => by
      cases old <;> cases hnew
      simp [Entry.IsBare]
  cases old <;> cases hnew
  have habsent : ∀ serial content, ¬ disk.FileAt target serial content := by simp [hfirst]
  refine ⟨target, hresolve, fun path serial content => ?_⟩
  by_cases hpath : path = target
  · subst hpath
    have hcreated := hsecond serial content
    change changed.FileAt path serial content ↔ _
    rw [Option.some.injEq, Entry.file.injEq, eq_comm, eq_comm (a := bytes)] at hcreated
    simpa only [true_and, habsent, or_false] using hcreated
  · simp only [hpath, false_and, false_or]
    exact hothers path hpath serial content

/-- The disks have the same files, and the same serial number comes next. -/
structure SameFiles (disk later : Disk) : Prop where
  nextSerial : later.nextSerial = disk.nextSerial
  files : ∀ path serial content,
    later.FileAt path serial content ↔ disk.FileAt path serial content

theorem SameFiles.refl (disk : Disk) : disk.SameFiles disk :=
  ⟨rfl, fun _ _ _ => Iff.rfl⟩

theorem SameFiles.trans {first second third : Disk} (hfirst : first.SameFiles second)
    (hsecond : second.SameFiles third) : first.SameFiles third :=
  ⟨hsecond.nextSerial.trans hfirst.nextSerial, fun path serial content =>
    (hsecond.files path serial content).trans (hfirst.files path serial content)⟩

theorem sameFiles_ensureFolder (hdisk : disk.WellFormed)
    (hensure : disk.ensureFolder location = .ok later) : disk.SameFiles later := by
  unfold ensureFolder at hensure
  split at hensure
  next =>
      cases hensure
      exact SameFiles.refl disk
  next => cases hensure
  next => exact ⟨nextSerial_change hensure, fileAt_makeFolder hdisk hensure⟩

theorem sameFiles_makeFolders (hdisk : disk.WellFormed)
    (hmake : disk.makeFolders location = .ok later) : disk.SameFiles later := by
  have hall : ∀ (places : List Location) {disk : Disk}, disk.WellFormed →
      places.foldlM (fun disk place => disk.ensureFolder place) disk = .ok later →
      disk.SameFiles later := by
    intro places
    induction places with
    | nil =>
        intro disk _ hfold
        cases hfold
        exact SameFiles.refl _
    | cons place rest ih =>
        intro disk hdisk hfold
        rw [List.foldlM_cons, bind_eq_ok_iff] at hfold
        obtain ⟨middle, hmiddle, hrest⟩ := hfold
        exact (sameFiles_ensureFolder hdisk hmiddle).trans
          (ih (ensureFolder_eq_ok hdisk hmiddle).1 hrest)
  exact hall location.way hdisk hmake

/-! ## Files of a folder -/

/-- Joining a simple name to a location leads to a place in the folder that the location leads to, if
it leads to a folder. -/
theorem resolve_join_eq_ok {name : String} (hname : IsSimpleName name)
    (hresolve : disk.resolve (location.join name) = .ok path) :
    ∃ dir, path = dir ++ [name] ∧
      ∀ inner, disk.find dir = .ok (.folder inner) → disk.resolve location = .ok dir := by
  rw [Location.join_simple hname, Disk.resolve, List.foldlM_append, bind_eq_ok_iff] at hresolve
  obtain ⟨dir, hdir, hstep⟩ := hresolve
  rw [List.foldlM_cons, bind_eq_ok_iff] at hstep
  obtain ⟨last, hlast, heq⟩ := hstep
  cases heq
  rw [step, if_neg (by simp [hname.ne_empty, hname.ne_dot, hname.ne_dots])] at hlast
  cases hlast
  refine ⟨dir, rfl, fun inner hinner => ?_⟩
  split_ifs at hdir with hempty
  · rw [Disk.resolve, ← List.dropLast_append_getLast? "" hempty, List.foldlM_append, hdir]
    simp [bind, Except.bind, step, hinner, pure, Except.pure]
  · exact hdir

/-- An operation on a joined name takes place in the folder that the location leads to. -/
theorem folderAt_of_resolve_join {name last : String} (hname : IsSimpleName name)
    {dir : List String} {inner : Keyed Entry}
    (hresolve : disk.resolve (location.join name) = .ok (dir ++ [last]))
    (hfind : disk.find dir = .ok (.folder inner)) :
    last = name ∧ disk.FolderAt location dir inner := by
  obtain ⟨base, hbase, hdir⟩ := resolve_join_eq_ok hname hresolve
  obtain ⟨rfl, hlast⟩ := List.append_inj' hbase rfl
  exact ⟨by simpa using hlast, hdir inner hfind, hfind⟩

/-- A file that is found by its name stands in the folder that the location leads to. -/
theorem lookup_join_eq_file_iff {name : String} (hname : IsSimpleName name) {serial : Nat}
    {content : Bytes} :
    disk.lookup (location.join name) = .ok (.file serial content) ↔
      ∃ dir, disk.resolve location = .ok dir ∧ disk.FileAt (dir ++ [name]) serial content := by
  have hfolder : ∀ {dir : List String}, disk.FileAt (dir ++ [name]) serial content →
      ∃ inner, disk.find dir = .ok (.folder inner) := by
    intro dir hfile
    rw [FileAt, Entry.HasFile, Entry.find_append, bind_eq_ok_iff] at hfile
    obtain ⟨entry, hentry, hlast⟩ := hfile
    cases entry with
    | file number bytes => cases hlast
    | folder inner => exact ⟨inner, hentry⟩
  constructor
  · intro hlookup
    rw [lookup, bind_eq_ok_iff] at hlookup
    obtain ⟨path, hpath, hfile⟩ := hlookup
    obtain ⟨dir, rfl, hdir⟩ := resolve_join_eq_ok hname hpath
    obtain ⟨inner, hinner⟩ := hfolder hfile
    exact ⟨dir, hdir inner hinner, hfile⟩
  · rintro ⟨dir, hdir, hfile⟩
    obtain ⟨inner, hinner⟩ := hfolder hfile
    have hjoin := FolderAt.resolve_join ⟨hdir, hinner⟩ hname
    rw [lookup, hjoin]
    exact hfile

end Disk

end DocumentStore
