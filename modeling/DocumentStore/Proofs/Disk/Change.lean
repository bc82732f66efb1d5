import DocumentStore.Disk.Basic
import DocumentStore.Proofs.Disk.Tree

/-!
# Changes of the disk

A successful operation on the disk refills one folder.  It keeps every folder of the tree, so a
location that led somewhere before it leads there afterwards, and removing a file that was created
restores the tree.
-/

namespace DocumentStore

namespace Disk

/-- The entries of every folder stand in name order, and files have simple names. -/
def WellFormed (disk : Disk) : Prop :=
  (Entry.folder disk.entries).WellFormed

theorem wellFormed_empty : empty.WellFormed := by
  rw [WellFormed, Entry.wellFormed_folder_iff]
  simp [empty]

def refill (inner : Keyed Entry) (path : List String) (disk : Disk) : Disk :=
  { disk with entries := Entry.refill inner path disk.entries }

def KeepsFolders (disk later : Disk) : Prop :=
  ∀ path inner, disk.find path = .ok (.folder inner) →
    ∃ found, later.find path = .ok (.folder found)

theorem KeepsFolders.refl (disk : Disk) : disk.KeepsFolders disk :=
  fun _ inner hfind => ⟨inner, hfind⟩

theorem KeepsFolders.trans {first second third : Disk} (hfirst : first.KeepsFolders second)
    (hsecond : second.KeepsFolders third) : first.KeepsFolders third := by
  intro path inner hfind
  obtain ⟨found, hfound⟩ := hfirst path inner hfind
  exact hsecond path found hfound

theorem keepsFolders_refill {disk : Disk} {path : List String} {old inner : Keyed Entry}
    (hfind : disk.find path = .ok (.folder old)) (hkeeps : Entry.KeepsFolders old inner) :
    disk.KeepsFolders (disk.refill inner path) :=
  fun _ _ hother => Entry.find_folder_refill hfind hkeeps hother

/-- A location that leads somewhere leads there as long as the folders are kept. -/
theorem KeepsFolders.resolve_eq {disk later : Disk} (hkeeps : disk.KeepsFolders later)
    {location : Location} {path : List String} (hresolve : disk.resolve location = .ok path) :
    later.resolve location = .ok path := by
  have hstep : ∀ {start next : List String} {name : String}, disk.step start name = .ok next →
      later.step start name = .ok next := by
    intro start next name hstep
    unfold step at hstep ⊢
    by_cases hspecial : name = "" ∨ name = "." ∨ name = ".."
    · rw [if_pos hspecial] at hstep ⊢
      cases hfind : disk.find start with
      | error refusal => simp [hfind] at hstep
      | ok entry =>
          cases entry with
          | file serial content => simp [hfind] at hstep
          | folder inner =>
              obtain ⟨found, hfound⟩ := hkeeps start inner hfind
              rw [hfind] at hstep
              rw [hfound]
              exact hstep
    · rw [if_neg hspecial] at hstep ⊢
      exact hstep
  have hwalk : ∀ (steps : List String) {start path : List String},
      steps.foldlM disk.step start = .ok path → steps.foldlM later.step start = .ok path := by
    intro steps
    induction steps with
    | nil => exact fun h => h
    | cons name rest ih =>
        intro start path hwalk
        rw [List.foldlM_cons, bind_eq_ok_iff] at hwalk ⊢
        obtain ⟨next, hnext, hrest⟩ := hwalk
        exact ⟨next, hstep hnext, ih hrest⟩
  exact hwalk location.steps hresolve

theorem WellFormed.find {disk : Disk} (hdisk : disk.WellFormed) {path : List String}
    {entry : Entry} (hfind : disk.find path = .ok entry) : entry.WellFormed :=
  Entry.WellFormed.find hdisk hfind

theorem WellFormed.refill {disk : Disk} (hdisk : disk.WellFormed) {inner : Keyed Entry}
    (hinner : (Entry.folder inner).WellFormed) (path : List String) :
    (disk.refill inner path).WellFormed :=
  Entry.WellFormed.refill hdisk hinner

theorem WellFormed.refill_self {disk : Disk} (hdisk : disk.WellFormed) {path : List String}
    {inner : Keyed Entry} (hfind : disk.find path = .ok (.folder inner)) :
    disk.refill inner path = disk := by
  rw [Disk.refill, Entry.refill_self hdisk hfind]

theorem WellFormed.refill_refill {disk : Disk} (hdisk : disk.WellFormed) {path : List String}
    {old : Keyed Entry} (hfind : disk.find path = .ok (.folder old)) (first second : Keyed Entry) :
    (disk.refill first path).refill second path = disk.refill second path := by
  simp only [Disk.refill, Entry.refill_refill hdisk hfind]

/-! ## Operations at any location -/

section Operations

variable {disk later : Disk} {location : Location}

theorem change_of_resolve {dir : List String} {name : String} {inner : Keyed Entry}
    (hresolve : disk.resolve location = .ok (dir ++ [name]))
    (hfind : disk.find dir = .ok (.folder inner))
    (change : Option Entry → Except Refusal (Option Entry)) :
    disk.change location change = (do
      disk.permit location
      checkEntryName name
      let present ← change (Keyed.find? name inner)
      return disk.refill (put name present inner) dir) := by
  rw [Disk.change, hresolve]
  cases disk.permit location with
  | error refusal => rfl
  | ok =>
      simp only [bind, Except.bind, alter_append hfind]
      cases checkEntryName name with
      | error refusal => rfl
      | ok => cases change (Keyed.find? name inner) <;> rfl

theorem change_eq_ok {change : Option Entry → Except Refusal (Option Entry)}
    (hchange : disk.change location change = .ok later) :
    ∃ dir name inner present, disk.permit location = .ok () ∧
      disk.resolve location = .ok (dir ++ [name]) ∧ disk.find dir = .ok (.folder inner) ∧
      checkEntryName name = .ok () ∧ change (Keyed.find? name inner) = .ok present ∧
      later = disk.refill (put name present inner) dir := by
  unfold Disk.change at hchange
  simp only [bind_eq_ok_iff] at hchange
  obtain ⟨⟨⟩, hpermit, path, hresolve, changed, halter, heq⟩ := hchange
  obtain ⟨dir, name, inner, present, rfl, hfind, hname, hpresent, rfl⟩ := alter_eq_ok halter
  cases heq
  exact ⟨dir, name, inner, present, hpermit, hresolve, hfind, hname, hpresent, rfl⟩

theorem create_eq_ok {content : Bytes} (hcreate : disk.create location content = .ok later) :
    ∃ dir name inner, disk.permit location = .ok () ∧
      disk.resolve location = .ok (dir ++ [name]) ∧ disk.find dir = .ok (.folder inner) ∧
      checkEntryName name = .ok () ∧ Keyed.find? name inner = none ∧
      later = { disk with
        entries := Entry.refill (Keyed.insert name (.file disk.nextSerial content) inner) dir
          disk.entries
        nextSerial := disk.nextSerial + 1 } := by
  rw [create, bind_eq_ok_iff] at hcreate
  obtain ⟨changed, hchanged, heq⟩ := hcreate
  cases heq
  obtain ⟨dir, name, inner, present, hpermit, hresolve, hfind, hname, hpresent, rfl⟩ :=
    change_eq_ok hchanged
  split at hpresent
  next hnone =>
      cases hpresent
      exact ⟨dir, name, inner, hpermit, hresolve, hfind, hname, hnone, rfl⟩
  next => simp at hpresent

end Operations

theorem keepsFolders_put {name : String} {entries : Keyed Entry}
    (hname : ∀ inner, Keyed.find? name entries ≠ some (.folder inner)) (present : Option Entry) :
    Entry.KeepsFolders entries (put name present entries) := by
  intro key inner hfind
  have hne : key ≠ name := by
    rintro rfl
    exact hname inner hfind
  rw [find?_put_of_ne hne, hfind]

theorem keepsFolders_change {disk later : Disk} {location : Location}
    {change : Option Entry → Except Refusal (Option Entry)}
    (hfolder : ∀ inner present, change (some (.folder inner)) ≠ .ok present)
    (hchange : disk.change location change = .ok later) : disk.KeepsFolders later := by
  obtain ⟨dir, name, inner, present, -, -, hfind, -, hpresent, rfl⟩ := change_eq_ok hchange
  refine keepsFolders_refill hfind (keepsFolders_put ?_ present)
  intro sub hsub
  rw [hsub] at hpresent
  exact hfolder sub present hpresent

theorem keepsFolders_create {disk later : Disk} {location : Location} {content : Bytes}
    (hcreate : disk.create location content = .ok later) : disk.KeepsFolders later := by
  rw [create, bind_eq_ok_iff] at hcreate
  obtain ⟨changed, hchanged, heq⟩ := hcreate
  cases heq
  have hkeeps : disk.KeepsFolders changed := by
    refine keepsFolders_change ?_ hchanged
    simp
  exact hkeeps

/-- A file that was created can be removed again, and this restores the tree. -/
theorem remove_create {disk written : Disk} (hdisk : disk.WellFormed) {location : Location}
    {content : Bytes} (hcreate : disk.create location content = .ok written) :
    written.remove location = .ok { disk with nextSerial := disk.nextSerial + 1 } := by
  obtain ⟨dir, name, inner, hpermit, hresolve, hfind, hname, hnone, rfl⟩ := create_eq_ok hcreate
  generalize hnew : Keyed.insert name (.file disk.nextSerial content) inner = new
  have hnotFolder : ∀ sub, Keyed.find? name inner ≠ some (.folder sub) := by simp [hnone]
  have hkeeps : disk.KeepsFolders
      { disk with
        entries := Entry.refill new dir disk.entries
        nextSerial := disk.nextSerial + 1 } := by
    rw [← hnew]
    exact fun _ _ hother => Entry.find_folder_refill hfind
      (keepsFolders_put hnotFolder (some (.file disk.nextSerial content))) hother
  have herase : Keyed.erase name new = inner := by
    rw [← hnew, Keyed.erase_insert_of_find?_none hnone]
  have hfile : Keyed.find? name new = some (.file disk.nextSerial content) := by
    rw [← hnew, Keyed.find?_insert_self]
  have hrestored : Entry.refill inner dir (Entry.refill new dir disk.entries) = disk.entries := by
    rw [Entry.refill_refill hdisk hfind, Entry.refill_self hdisk hfind]
  have hpermitted : permit location
      { disk with
        entries := Entry.refill new dir disk.entries
        nextSerial := disk.nextSerial + 1 } = .ok () := hpermit
  rw [remove, change_of_resolve (hkeeps.resolve_eq hresolve) (Entry.find_refill hfind new),
    hpermitted, hname]
  simp only [bind, Except.bind, hfile, pure, Except.pure, put, herase, refill, hrestored]

end Disk

end DocumentStore
