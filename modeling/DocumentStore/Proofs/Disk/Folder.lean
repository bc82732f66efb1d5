import DocumentStore.Proofs.Disk.Change

/-!
# Operations in one folder

`Disk.FolderAt` says that a location is a folder with these entries.  The operations on a file of the
folder are given by its entries alone, and what they leave behind is the folder with one entry put in
or taken out.
-/

namespace DocumentStore

theorem Chars.splitOn_of_notMem {separator : Char} {chars : List Char}
    (hchars : separator ∉ chars) : Chars.splitOn separator chars = [chars] := by
  induction chars with
  | nil => rfl
  | cons c rest ih =>
      rw [List.mem_cons, not_or] at hchars
      rw [Chars.splitOn, if_neg (Ne.symm hchars.1), ih hchars.2]

/-- Joining a simple name adds one step, in place of an empty last one. -/
theorem Location.join_simple {name : String} (hname : IsSimpleName name) (location : Location) :
    location.join name =
      ⟨(if location.steps.getLast? = some "" then location.steps.dropLast else location.steps) ++
        [name]⟩ := by
  have hsteps : Location.ofText name = ⟨[name]⟩ := by
    rw [Location.ofText, Chars.splitOn_of_notMem hname.noSlash]
    simp
  have hhead : name.toList.head? ≠ some '/' := fun hslash =>
    hname.noSlash (List.mem_of_mem_head? hslash)
  rw [Location.join, hsteps, if_neg hhead]
  split_ifs <;> rfl

namespace Disk

/-- The location leads along this path to a folder with these entries. -/
structure FolderAt (disk : Disk) (location : Location) (path : List String)
    (entries : Keyed Entry) : Prop where
  resolve : disk.resolve location = .ok path
  find : disk.find path = .ok (.folder entries)

namespace FolderAt

variable {disk : Disk} {location : Location} {path : List String} {entries : Keyed Entry}

theorem list_eq (hfolder : disk.FolderAt location path entries) :
    disk.list location = .ok entries := by
  rw [list, lookup, hfolder.resolve]
  simp only [bind, Except.bind, hfolder.find]
  rfl

theorem congr (hfolder : disk.FolderAt location path entries) {other : Disk}
    (hentries : other.entries = disk.entries) : other.FolderAt location path entries := by
  have hfind : ∀ path, other.find path = disk.find path := by
    intro path
    rw [Disk.find, Disk.find, hentries]
  have hkeeps : disk.KeepsFolders other := fun path inner hinner =>
    ⟨inner, (hfind path).trans hinner⟩
  exact ⟨hkeeps.resolve_eq hfolder.resolve, (hfind path).trans hfolder.find⟩

theorem resolve_join (hfolder : disk.FolderAt location path entries) {name : String}
    (hname : IsSimpleName name) : disk.resolve (location.join name) = .ok (path ++ [name]) := by
  have hstep : ∀ start, disk.step start name = .ok (start ++ [name]) := by
    intro start
    rw [step, if_neg]
    simp [hname.ne_empty, hname.ne_dot, hname.ne_dots]
  have hresolve := hfolder.resolve
  unfold Disk.resolve at hresolve
  have hbase : (if location.steps.getLast? = some "" then location.steps.dropLast
      else location.steps).foldlM disk.step [] = .ok path := by
    split_ifs with hlast
    · rw [← List.dropLast_append_getLast? "" hlast, List.foldlM_append, bind_eq_ok_iff] at hresolve
      obtain ⟨start, hstart, hempty⟩ := hresolve
      rw [List.foldlM_cons, bind_eq_ok_iff] at hempty
      obtain ⟨next, hnext, heq⟩ := hempty
      cases heq
      rw [step, if_pos (Or.inl rfl)] at hnext
      split at hnext
      next inner hinner =>
          cases hnext
          exact hstart
      next => simp at hnext
      next => simp at hnext
    · exact hresolve
  rw [Location.join_simple hname, Disk.resolve, List.foldlM_append, hbase]
  simp only [bind, Except.bind, List.foldlM_cons, hstep]
  rfl

theorem lookup_join (hfolder : disk.FolderAt location path entries) {name : String}
    (hname : IsSimpleName name) :
    disk.lookup (location.join name) = (do
      checkEntryName name
      match Keyed.find? name entries with
      | some entry => .ok entry
      | none => .error .notFound) := by
  have hfind : disk.find (path ++ [name]) = Entry.find [name] (.folder entries) := by
    rw [Disk.find, Entry.find_append, ← Disk.find, hfolder.find]
    rfl
  rw [lookup, hfolder.resolve_join hname]
  exact hfind

theorem lookup_join_eq_ok_iff (hfolder : disk.FolderAt location path entries) {name : String}
    (hname : IsSimpleName name) {entry : Entry} :
    disk.lookup (location.join name) = .ok entry ↔
      checkEntryName name = .ok () ∧ Keyed.find? name entries = some entry := by
  rw [hfolder.lookup_join hname, bind_eq_ok_iff]
  constructor
  · rintro ⟨⟨⟩, hcheck, hbody⟩
    cases hfind : Keyed.find? name entries with
    | none => simp [hfind] at hbody
    | some found => exact ⟨hcheck, by simpa [hfind] using hbody⟩
  · rintro ⟨hcheck, hfind⟩
    exact ⟨(), hcheck, by rw [hfind]⟩

theorem read_join_eq_ok_iff (hfolder : disk.FolderAt location path entries) {name : String}
    (hname : IsSimpleName name) {content : Bytes} :
    disk.read (location.join name) = .ok content ↔
      checkEntryName name = .ok () ∧
        ∃ serial, Keyed.find? name entries = some (.file serial content) := by
  rw [read, bind_eq_ok_iff]
  simp only [hfolder.lookup_join_eq_ok_iff hname]
  constructor
  · rintro ⟨entry, ⟨hcheck, hfind⟩, hbody⟩
    cases entry with
    | folder inner => simp at hbody
    | file serial found =>
        cases hbody
        exact ⟨hcheck, serial, hfind⟩
  · rintro ⟨hcheck, serial, hfind⟩
    exact ⟨_, ⟨hcheck, hfind⟩, rfl⟩

theorem remove_join (hfolder : disk.FolderAt location path entries) {name : String}
    (hname : IsSimpleName name) :
    disk.remove (location.join name) = (do
      disk.permit (location.join name)
      checkEntryName name
      match Keyed.find? name entries with
      | some (.file _ _) => .ok (disk.refill (Keyed.erase name entries) path)
      | some (.folder _) => .error .isFolder
      | none => .error .notFound) := by
  rw [remove, change_of_resolve (hfolder.resolve_join hname) hfolder.find]
  cases Keyed.find? name entries with
  | none => rfl
  | some entry => cases entry <;> rfl

theorem create_join_eq (hfolder : disk.FolderAt location path entries) {name : String}
    (hname : IsSimpleName name) (content : Bytes) :
    disk.create (location.join name) content = (do
      disk.permit (location.join name)
      checkEntryName name
      match Keyed.find? name entries with
      | some _ => .error .alreadyExists
      | none => .ok { disk with
          entries := Entry.refill (Keyed.insert name (.file disk.nextSerial content) entries) path
            disk.entries
          nextSerial := disk.nextSerial + 1 }) := by
  rw [create, change_of_resolve (hfolder.resolve_join hname) hfolder.find]
  cases disk.permit (location.join name) with
  | error refusal => rfl
  | ok =>
      cases checkEntryName name with
      | error refusal => rfl
      | ok => cases Keyed.find? name entries <;> rfl

theorem create_join_eq_ok (hfolder : disk.FolderAt location path entries) {name : String}
    (hname : IsSimpleName name) {content : Bytes} {later : Disk}
    (hcreate : disk.create (location.join name) content = .ok later) :
    checkEntryName name = .ok () ∧ Keyed.find? name entries = none ∧
      later = { disk with
        entries := Entry.refill (Keyed.insert name (.file disk.nextSerial content) entries) path
          disk.entries
        nextSerial := disk.nextSerial + 1 } := by
  simp only [hfolder.create_join_eq hname, bind_eq_ok_iff] at hcreate
  obtain ⟨⟨⟩, -, ⟨⟩, hcheck, hbody⟩ := hcreate
  split at hbody
  next => cases hbody
  next hnone =>
      cases hbody
      exact ⟨hcheck, hnone, rfl⟩

/-- A location stays a folder when its entries change and its folders are kept. -/
theorem refill (hfolder : disk.FolderAt location path entries) {inner : Keyed Entry}
    (hkeeps : Entry.KeepsFolders entries inner) :
    (disk.refill inner path).FolderAt location path inner :=
  ⟨(keepsFolders_refill hfolder.find hkeeps).resolve_eq hfolder.resolve,
    Entry.find_refill hfolder.find inner⟩

theorem put (hfolder : disk.FolderAt location path entries) {name : String}
    (hname : ∀ inner, Keyed.find? name entries ≠ some (.folder inner)) (present : Option Entry) :
    (disk.refill (put name present entries) path).FolderAt location path
      (put name present entries) :=
  hfolder.refill (keepsFolders_put hname present)

theorem create_join (hfolder : disk.FolderAt location path entries) (hdisk : disk.WellFormed)
    {name : String} (hname : IsSimpleName name) {content : Bytes} {later : Disk}
    (hcreate : disk.create (location.join name) content = .ok later) :
    later.WellFormed ∧ later.FolderAt location path
      (Keyed.insert name (.file disk.nextSerial content) entries) := by
  obtain ⟨-, hnone, rfl⟩ := hfolder.create_join_eq_ok hname hcreate
  have hentries := (hdisk.find hfolder.find).insert
    (show (Entry.file disk.nextSerial content).WellFormed from trivial) fun _ => hname
  have hfree : ∀ inner, Keyed.find? name entries ≠ some (.folder inner) := by simp [hnone]
  exact ⟨hdisk.refill hentries path,
    (hfolder.put hfree (some (.file disk.nextSerial content))).congr rfl⟩

/-- A file that is renamed within its folder takes the place of a file or of nothing. -/
theorem rename_join_eq (hfolder : disk.FolderAt location path entries)
    (hdisk : disk.WellFormed) {source target : String} (hsource : IsSimpleName source)
    (htarget : IsSimpleName target) (hne : source ≠ target) {serial : Nat} {content : Bytes}
    (hcheck : checkEntryName source = .ok ())
    (hfile : Keyed.find? source entries = some (.file serial content)) :
    disk.rename (location.join source) (location.join target) = (do
      disk.permit (location.join source)
      disk.permit (location.join target)
      checkEntryName target
      match Keyed.find? target entries with
      | some (.folder _) => .error .isFolder
      | _ => .ok (disk.refill
          (Keyed.erase source (Keyed.insert target (.file serial content) entries)) path)) := by
  have hpaths : ¬ path ++ [source] = path ++ [target] := by simpa using hne
  have hfind : disk.find (path ++ [source]) = .ok (.file serial content) := by
    have hlookup := (hfolder.lookup_join_eq_ok_iff hsource).mpr ⟨hcheck, hfile⟩
    rw [lookup, hfolder.resolve_join hsource] at hlookup
    exact hlookup
  have hmoved : ∀ inner : Keyed Entry,
      alter (fun _ => .ok none) (path ++ [source]) (Entry.refill inner path disk.entries) =
        .ok (Entry.refill (Keyed.erase source inner) path disk.entries) := by
    intro inner
    rw [alter_append (Entry.find_refill hfolder.find inner), hcheck]
    simp only [bind, Except.bind, pure, Except.pure, DocumentStore.put]
    rw [Entry.refill_refill hdisk hfolder.find]
  rw [rename, hfolder.resolve_join hsource, hfolder.resolve_join htarget]
  refine bind_congr fun _ => bind_congr fun _ => ?_
  simp only [bind, Except.bind, hfind, if_neg hpaths, Entry.isFolder, Bool.false_and,
    Bool.false_eq_true, if_false, alter_append hfolder.find]
  cases checkEntryName target with
  | error refusal => rfl
  | ok =>
      rcases Keyed.find? target entries with _ | _ | _
      all_goals simp only [replaceable, DocumentStore.put, pure, Except.pure, hmoved]
      all_goals rfl

theorem rename_join_eq_ok (hfolder : disk.FolderAt location path entries)
    (hdisk : disk.WellFormed) {source target : String} (hsource : IsSimpleName source)
    (htarget : IsSimpleName target) (hne : source ≠ target) {serial : Nat} {content : Bytes}
    (hcheck : checkEntryName source = .ok ())
    (hfile : Keyed.find? source entries = some (.file serial content)) {later : Disk}
    (hrename : disk.rename (location.join source) (location.join target) = .ok later) :
    checkEntryName target = .ok () ∧
      (∀ inner, Keyed.find? target entries ≠ some (.folder inner)) ∧
      later = disk.refill (Keyed.erase source (Keyed.insert target (.file serial content) entries))
        path := by
  simp only [hfolder.rename_join_eq hdisk hsource htarget hne hcheck hfile, bind_eq_ok_iff]
    at hrename
  obtain ⟨⟨⟩, -, ⟨⟩, -, ⟨⟩, htargetCheck, hbody⟩ := hrename
  split at hbody
  next => cases hbody
  next hfree =>
      cases hbody
      exact ⟨htargetCheck, hfree, rfl⟩

end FolderAt

end Disk

end DocumentStore
