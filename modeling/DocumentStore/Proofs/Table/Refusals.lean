import DocumentStore.Proofs.Edit
import DocumentStore.Proofs.Table.Files

/-!
# When table files are refused

Whether a flush or a removal of a table is refused depends on the changes that the system denies and
on the files of that table: the one that is replaced, and the temporary files that are in the way.
Files of other tables make no difference.
-/

namespace DocumentStore

/-- The folders have the same file and the same temporary files of a table. -/
structure Format.SameFiles (format : Format) (name : String) (entries found : Keyed Entry) :
    Prop where
  table : Keyed.find? (format.tableFile name) entries = Keyed.find? (format.tableFile name) found
  temporary : ∀ tag, Keyed.find? (temporaryFile name tag) entries =
    Keyed.find? (temporaryFile name tag) found

theorem Format.SameFiles.refl (format : Format) (name : String) (entries : Keyed Entry) :
    format.SameFiles name entries entries :=
  ⟨rfl, fun _ => rfl⟩

theorem Format.sameFiles_apply {format : Format} {name other : String} (hne : name ≠ other)
    (hother : isTableName other = true) (edit : Edit Entry) (entries : Keyed Entry) :
    format.SameFiles name entries (edit.apply (format.tableFile other) entries) := by
  refine ⟨?_, fun tag => ?_⟩
  · rw [Edit.find?_apply_of_ne ((tableFile_injective format).ne hne)]
  · rw [Edit.find?_apply_of_ne (temporaryFile_ne_tableFile hother name tag format)]

theorem Disk.permit_congr {disk later : Disk} (hdenied : disk.denied = later.denied)
    (location : Location) : disk.permit location = later.permit location := by
  rw [permit, permit, hdenied]

namespace TableFiles

variable {files : TableFiles} {disk later : Disk} {path way : List String}
  {entries found : Keyed Entry} {name : String}

/-! ## Temporary files -/

/-- A tag is free if there is no file of that name, be it that there can be none. -/
def IsFree (entries : Keyed Entry) (name : String) (tag : Nat) : Prop :=
  checkEntryName (temporaryFile name tag) = .ok () →
    Keyed.find? (temporaryFile name tag) entries = none

theorem has_temporary_eq_false_iff (hfolder : disk.FolderAt files.folder path entries)
    (hname : isTableName name = true) (tag : Nat) :
    disk.has (files.temporary name tag) = false ↔ IsFree entries name tag := by
  have hlookup := hfolder.lookup_join (isSimpleName_temporaryFile hname tag)
  change disk.lookup (files.temporary name tag) = _ at hlookup
  rw [Disk.has, hlookup, IsFree]
  cases checkEntryName (temporaryFile name tag) with
  | error refusal => simp [bind, Except.bind, Except.toBool]
  | ok =>
      cases Keyed.find? (temporaryFile name tag) entries <;>
        simp [bind, Except.bind, Except.toBool]

/-- The names of temporary files are distinct, so the entries cannot take one more tag than there are
entries. -/
theorem exists_isFree (name : String) (entries : Keyed Entry) :
    ∃ tag ∈ List.range (entries.length + 1), IsFree entries name tag := by
  by_contra hnone
  push Not at hnone
  have htaken : (List.range (entries.length + 1)).map (temporaryFile name) ⊆
      Keyed.names entries := by
    intro file hfile
    obtain ⟨tag, htag, rfl⟩ := List.mem_map.mp hfile
    have hpresent := hnone tag htag
    rw [IsFree, Classical.not_imp, Keyed.find?_eq_none_iff, not_not] at hpresent
    exact hpresent.2
  have hnodup := List.nodup_range.map (temporaryFile_injective name)
    (l := List.range (entries.length + 1))
  have hlength := (List.subperm_of_subset hnodup htaken).length_le
  rw [List.length_map, List.length_range, Keyed.names, List.length_map] at hlength
  omega

/-- A flush takes the least free tag. -/
theorem freshTemporary_eq (hfolder : disk.FolderAt files.folder path entries)
    (hname : isTableName name = true) :
    ∃ tag, files.freshTemporary name disk = files.temporary name tag ∧
      IsFree entries name tag ∧ ∀ earlier < tag, ¬ IsFree entries name earlier := by
  have hfree := has_temporary_eq_false_iff hfolder hname
  rw [freshTemporary, hfolder.list_eq]
  change ∃ tag, files.temporary name (((List.range (entries.length + 1)).find? _).getD _) = _ ∧ _
  cases hfind : (List.range (entries.length + 1)).find?
      fun tag => !disk.has (files.temporary name tag) with
  | none =>
      obtain ⟨tag, hmem, htag⟩ := exists_isFree name entries
      have htaken := List.find?_range_eq_none.mp hfind tag (List.mem_range.mp hmem)
      rw [(hfree tag).mpr htag] at htaken
      cases htaken
  | some tag =>
      obtain ⟨htag, -, hearlier⟩ := List.find?_range_eq_some.mp hfind
      refine ⟨tag, rfl, (hfree tag).mp (by simpa using htag), fun earlier hlt hcontra => ?_⟩
      have htaken := hearlier earlier hlt
      rw [(hfree earlier).mpr hcontra] at htaken
      cases htaken

theorem freshTemporary_congr (hfolder : disk.FolderAt files.folder path entries)
    (hother : later.FolderAt files.folder way found) (hname : isTableName name = true)
    (hsame : files.format.SameFiles name entries found) :
    files.freshTemporary name disk = files.freshTemporary name later := by
  have hfree : ∀ tag, IsFree entries name tag ↔ IsFree found name tag := fun tag => by
    rw [IsFree, IsFree, hsame.temporary]
  obtain ⟨tag, hfirst, htag, hleast⟩ := freshTemporary_eq hfolder hname
  obtain ⟨number, hsecond, hnumber, hfewest⟩ := freshTemporary_eq hother hname
  rw [hfirst, hsecond]
  rcases lt_trichotomy tag number with hlt | rfl | hgt
  · exact absurd ((hfree tag).mp htag) (hfewest tag hlt)
  · rfl
  · exact absurd ((hfree number).mpr hnumber) (hleast number hgt)

/-! ## Flushes and removals -/

private theorem flush_fst_eq_map (files : TableFiles) (name : String) (table : Table)
    (disk : Disk) :
    (files.flush name table disk).1 =
      (disk.create (files.freshTemporary name disk) (files.encode name table) >>= fun written =>
        written.rename (files.freshTemporary name disk) (files.path name)).map fun _ => () := by
  rw [flush]
  cases disk.create (files.freshTemporary name disk) (files.encode name table) with
  | error refusal => rfl
  | ok written =>
      simp only [bind, Except.bind]
      cases written.rename (files.freshTemporary name disk) (files.path name) <;> rfl

/-- A flush is refused where its temporary file or its target is denied, and by a folder in place of
the file. -/
theorem flush_fst (hdisk : disk.WellFormed) (hfolder : disk.FolderAt files.folder path entries)
    (hname : isTableName name = true) {tag : Nat}
    (htag : files.freshTemporary name disk = files.temporary name tag)
    (hfree : IsFree entries name tag) (table : Table) :
    (files.flush name table disk).1 = (do
      disk.permit (files.temporary name tag)
      checkEntryName (temporaryFile name tag)
      disk.permit (files.path name)
      match Keyed.find? (files.format.tableFile name) entries with
      | some (.folder _) => .error .isFolder
      | _ => .ok ()) := by
  have hsource := isSimpleName_temporaryFile hname tag
  have htarget := isSimpleName_tableFile hname files.format
  have hne := temporaryFile_ne_tableFile hname name tag files.format
  have hcreate := hfolder.create_join_eq hsource (files.encode name table)
  have hjoin : files.folder.join (temporaryFile name tag) = files.temporary name tag := rfl
  rw [hjoin] at hcreate
  rw [flush_fst_eq_map, htag]
  cases hpermit : disk.permit (files.temporary name tag) with
  | error refusal =>
      rw [hcreate, hpermit]
      rfl
  | ok =>
      cases hcheck : checkEntryName (temporaryFile name tag) with
      | error refusal =>
          rw [hcreate, hpermit, hcheck]
          rfl
      | ok =>
          obtain ⟨written, hwritten, hdenied⟩ : ∃ written, disk.create (files.temporary name tag)
              (files.encode name table) = .ok written ∧ written.denied = disk.denied := by
            rw [hcreate, hpermit, hcheck, hfree hcheck]
            exact ⟨_, rfl, rfl⟩
          obtain ⟨hformed, hmiddle⟩ := hfolder.create_join hdisk hsource hwritten
          have hrename := hmiddle.rename_join_eq hformed hsource htarget hne hcheck
            (Keyed.find?_insert_self ..)
          rw [Keyed.find?_insert, if_neg (Ne.symm hne), hjoin, ← path_eq,
            checkEntryName_tableFile hname, Disk.permit_congr hdenied, Disk.permit_congr hdenied,
            hpermit] at hrename
          rw [hwritten]
          simp only [bind, Except.bind] at hrename ⊢
          rw [hrename]
          cases disk.permit (files.path name) with
          | error refusal => rfl
          | ok => rcases Keyed.find? (files.format.tableFile name) entries with _ | _ | _ <;> rfl

/-- Whether a flush is refused depends on the files of its own table. -/
theorem flush_congr (hdisk : disk.WellFormed) (hlater : later.WellFormed)
    (hfolder : disk.FolderAt files.folder path entries)
    (hother : later.FolderAt files.folder way found) (hdenied : disk.denied = later.denied)
    (hname : isTableName name = true) (hsame : files.format.SameFiles name entries found)
    (table : Table) : (files.flush name table disk).1 = (files.flush name table later).1 := by
  obtain ⟨tag, htag, hfree, -⟩ := freshTemporary_eq hfolder hname
  have hnumber : files.freshTemporary name later = files.temporary name tag := by
    rw [← htag, freshTemporary_congr hfolder hother hname hsame]
  have hfound : IsFree found name tag := by
    rw [IsFree, ← hsame.temporary]
    exact hfree
  rw [flush_fst hdisk hfolder hname htag hfree, flush_fst hlater hother hname hnumber hfound,
    Disk.permit_congr hdenied, Disk.permit_congr hdenied, hsame.table]

theorem remove_fst (hfolder : disk.FolderAt files.folder path entries)
    (hname : isTableName name = true) :
    (files.remove name disk).map Prod.fst = (do
      disk.permit (files.path name)
      match Keyed.find? (files.format.tableFile name) entries with
      | some (.file _ _) => .ok true
      | some (.folder _) => .error .isFolder
      | none => .ok false) := by
  have hremove := hfolder.remove_join (isSimpleName_tableFile hname files.format)
  rw [← path_eq, checkEntryName_tableFile hname] at hremove
  rw [remove, hremove, Disk.permit]
  cases disk.denied (files.path name) with
  | some reason => rfl
  | none => rcases Keyed.find? (files.format.tableFile name) entries with _ | _ | _ <;> rfl

/-- Whether a removal is refused depends on the file of its own table. -/
theorem remove_congr (hfolder : disk.FolderAt files.folder path entries)
    (hother : later.FolderAt files.folder way found) (hdenied : disk.denied = later.denied)
    (hname : isTableName name = true) (hsame : files.format.SameFiles name entries found) :
    (files.remove name disk).map Prod.fst = (files.remove name later).map Prod.fst := by
  rw [remove_fst hfolder hname, remove_fst hother hname, hsame.table,
    Disk.permit_congr hdenied]

end TableFiles

end DocumentStore
