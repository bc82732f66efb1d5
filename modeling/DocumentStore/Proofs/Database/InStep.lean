import DocumentStore.Proofs.Database.Effect
import DocumentStore.Proofs.Disk.Opening
import DocumentStore.Proofs.Table.Agreement

/-!
# Databases in step with their disk

A database is in step with a disk if its folder is settled there, with its lock file and without
temporary files, and if its tables agree with the entries of the folder.  Opening a folder gives a
database in step, every call keeps it in step whether it succeeds or fails, and so does every run.
-/

namespace DocumentStore

/-- The location is a folder without temporary files, with the file that the lock is on. -/
structure Disk.Settled (disk : Disk) (location : Location) (serial : Nat) (path : List String)
    (entries : Keyed Entry) : Prop where
  wellFormed : disk.WellFormed
  folder : disk.FolderAt location path entries
  way : disk.IsWayOfFolders location
  clean : TableFiles.staleNames entries = []
  locked : ∃ content, Keyed.find? lockFile entries = some (.file serial content)

namespace Disk.Settled

variable {disk later : Disk} {location : Location} {serial : Nat} {path : List String}
  {entries : Keyed Entry}

theorem entries_wellFormed (hsettled : disk.Settled location serial path entries) :
    (Entry.folder entries).WellFormed :=
  hsettled.wellFormed.find hsettled.folder.find

theorem congr (hsettled : disk.Settled location serial path entries)
    (hentries : later.entries = disk.entries) : later.Settled location serial path entries := by
  have hkeeps : disk.KeepsFolders later := by
    intro path inner hfind
    exact ⟨inner, by rw [Disk.find, hentries, ← Disk.find, hfind]⟩
  have hformed : later.WellFormed := by
    rw [Disk.WellFormed, hentries]
    exact hsettled.wellFormed
  exact ⟨hformed, hsettled.folder.congr hentries, hkeeps.isWayOfFolders hsettled.way,
    hsettled.clean, hsettled.locked⟩

theorem put (hsettled : disk.Settled location serial path entries) {format : Format}
    {name : String} (hname : isTableName name = true)
    (hfree : ∀ inner, Keyed.find? (format.tableFile name) entries ≠ some (.folder inner))
    {present : Option Entry} (hpresent : ∀ entry, present = some entry → entry.WellFormed) :
    (disk.refill (put (format.tableFile name) present entries) path).Settled location serial path
      (DocumentStore.put (format.tableFile name) present entries) := by
  have hentries := hsettled.entries_wellFormed
  have hformed := hentries.put (isSimpleName_tableFile hname format) hpresent
  refine ⟨hsettled.wellFormed.refill hformed path, hsettled.folder.put hfree present, ?_, ?_, ?_⟩
  · exact (keepsFolders_refill hsettled.folder.find
      (keepsFolders_put hfree present)).isWayOfFolders hsettled.way
  · rw [← hsettled.clean]
    apply TableFiles.staleNames_congr hentries.sorted hformed.sorted
    intro file hfile
    exact find?_put_of_ne (ne_of_isTemporary hfile (isTemporary_tableFile hname format)) _ _
  · rw [find?_put_of_ne (tableFile_ne_lockFile hname format).symm]
    exact hsettled.locked

/-! ## Table files -/

section TableFiles

variable {files : TableFiles} {name : String} {table : Table}

theorem removed (hsettled : disk.Settled files.folder serial path entries)
    (hname : isTableName name = true) {removed : Bool}
    (hremove : files.remove name disk = .ok (removed, later)) :
    later.Settled files.folder serial path
      (DocumentStore.put (files.format.tableFile name) none entries) := by
  obtain ⟨hfree, rfl⟩ := TableFiles.remove_eq_ok hsettled.wellFormed hsettled.folder hname hremove
  exact hsettled.put hname hfree (by simp)

theorem flushed (hsettled : disk.Settled files.folder serial path entries)
    (hname : isTableName name = true) (hflush : files.flush name table disk = (.ok (), later)) :
    ∃ number, later.Settled files.folder serial path
      (DocumentStore.put (files.format.tableFile name)
        (some (.file number (files.encode name table))) entries) := by
  obtain ⟨hfree, number, hlater⟩ :=
    TableFiles.flush_eq_ok hsettled.wellFormed hsettled.folder hname hflush
  refine ⟨number, (hsettled.put hname hfree ?_).congr hlater⟩
  rintro entry heq
  cases heq
  trivial

theorem refused (hsettled : disk.Settled files.folder serial path entries) {refusal : Refusal}
    (hflush : files.flush name table disk = (.error refusal, later)) :
    later.Settled files.folder serial path entries := by
  obtain ⟨number, -, hnumber⟩ :=
    TableFiles.flush_refused hsettled.wellFormed (congrArg Prod.fst hflush)
  have hlater : later = { disk with nextSerial := number } := by rw [← hnumber, hflush]
  exact hsettled.congr (by rw [hlater])

end TableFiles

end Disk.Settled

namespace Database

variable {database : Database} {disk later : Disk}

/-! ## Folders -/

/-- The folder of the database is in place, with the file that the lock is on. -/
def Housed (database : Database) (disk : Disk) : Prop :=
  ∃ path entries, disk.Settled database.files.folder database.lock.serial path entries

theorem Housed.congr (hhoused : database.Housed disk) (hentries : later.entries = disk.entries) :
    database.Housed later := by
  obtain ⟨path, entries, hsettled⟩ := hhoused
  exact ⟨path, entries, hsettled.congr hentries⟩

theorem Housed.sweep_eq (hhoused : database.Housed disk) :
    database.files.sweep disk = (.ok 0, disk) := by
  obtain ⟨path, entries, hsettled⟩ := hhoused
  exact TableFiles.sweep_of_staleNames_nil hsettled.folder hsettled.clean

theorem Housed.removals {first last : Database × Disk} (hhoused : first.1.Housed first.2)
    (hremovals : Relation.ReflTransGen Removal first last) : last.1.Housed last.2 := by
  induction hremovals with
  | refl => exact hhoused
  | tail _ hremoval ih =>
      obtain ⟨path, entries, hsettled⟩ := ih
      cases hremoval with
      | take named remove => exact ⟨path, _, hsettled.removed named remove⟩

/-- After a flush the file of the table is what has been written. -/
theorem Housed.flush (hhoused : database.Housed disk) {name : String}
    (hname : isTableName name = true) {table : Table}
    (hflush : database.files.flush name table disk = (.ok (), later)) :
    database.Housed later ∧
      later.read (database.files.path name) = .ok (database.files.encode name table) := by
  obtain ⟨path, entries, hsettled⟩ := hhoused
  obtain ⟨number, hput⟩ := hsettled.flushed hname hflush
  refine ⟨⟨path, _, hput⟩, ?_⟩
  rw [TableFiles.path_eq, hput.folder.read_join_eq_ok_iff (isSimpleName_tableFile hname _)]
  exact ⟨checkEntryName_tableFile hname _, number, Keyed.find?_insert_self ..⟩

theorem Housed.effect (hhoused : database.Housed disk) {after : Database}
    (heffect : database.Effect disk after later) : after.Housed later := by
  cases heffect with
  | refused flush =>
      obtain ⟨path, entries, hsettled⟩ := hhoused
      exact ⟨path, entries, hsettled.refused flush⟩
  | put makes flush => exact (hhoused.flush makes.isName flush).1
  | removed removals => exact hhoused.removals removals
  | swept removals =>
      have hleft := hhoused.removals removals
      rw [hleft.sweep_eq]
      exact hleft

/-! ## Agreement -/

/-- Memory and disk agree, and the folder is settled. -/
def InStep (database : Database) (disk : Disk) : Prop :=
  ∃ path entries, disk.Settled database.files.folder database.lock.serial path entries ∧
    Agrees database.files.format entries database.tables

/-- Every table is smaller than the sizes that its format can write. -/
def Fits (database : Database) : Prop :=
  database.files.format = .msgpack → ∀ entry ∈ database.tables, entry.2.Fits

theorem InStep.congr (hstep : database.InStep disk) (hentries : later.entries = disk.entries) :
    database.InStep later := by
  obtain ⟨path, entries, hsettled, hagrees⟩ := hstep
  exact ⟨path, entries, hsettled.congr hentries, hagrees⟩

/-- Every table in memory has been decoded from a file, or could have been. -/
theorem InStep.readable (hstep : database.InStep disk) {name : String} {table : Table}
    (hfind : Keyed.find? name database.tables = some table) :
    table.Readable database.files.format := by
  obtain ⟨path, entries, -, hagrees⟩ := hstep
  have hname := hagrees.named name
    (Keyed.mem_names_of_mem (Keyed.mem_of_find?_eq_some hfind))
  have hstored := (hagrees.find?_eq_some_iff hname).mp hfind
  obtain ⟨serial, content, -, hdecode⟩ := Format.stored_eq_some_iff.mp hstored
  exact Table.readable_of_decode hdecode

theorem InStep.readable_of_makes (hstep : database.InStep disk) {name : String} {table : Table}
    (hmakes : database.Makes name table) : table.Readable database.files.format := by
  have hstart : ((Keyed.find? name database.tables).getD Table.empty).Readable
      database.files.format := by
    cases hfind : Keyed.find? name database.tables with
    | none => exact Table.readable_empty _
    | some start => exact hstep.readable hfind
  exact hstart.reaches hmakes.reaches

theorem InStep.housed (hstep : database.InStep disk) : database.Housed disk := by
  obtain ⟨path, entries, hsettled, -⟩ := hstep
  exact ⟨path, entries, hsettled⟩

theorem InStep.sweep_eq (hstep : database.InStep disk) :
    database.files.sweep disk = (.ok 0, disk) :=
  hstep.housed.sweep_eq

theorem InStep.discover_eq (hstep : database.InStep disk) :
    database.files.discover disk = .ok database.list := by
  obtain ⟨path, entries, hsettled, hagrees⟩ := hstep
  rw [TableFiles.discover_of_list hsettled.folder.list_eq,
    hagrees.names_eq hsettled.entries_wellFormed.sorted, list]

theorem InStep.sound (hstep : database.InStep disk) : database.Sound := by
  have hreadable : ∀ {name table}, Keyed.find? name database.tables = some table →
      table.Readable database.files.format := hstep.readable
  obtain ⟨path, entries, -, hagrees⟩ := hstep
  exact ⟨hagrees.sorted, hagrees.named, fun hfind => (hreadable hfind).valid⟩

/-! ## Calls -/

theorem InStep.put (hstep : database.InStep disk) {name : String} {table : Table}
    (hmakes : database.Makes name table)
    (hflush : database.files.flush name table disk = (.ok (), later))
    (hfits : Fits { database with tables := Keyed.insert name table database.tables }) :
    InStep { database with tables := Keyed.insert name table database.tables } later := by
  have hreadable := hstep.readable_of_makes hmakes
  obtain ⟨path, entries, hsettled, hagrees⟩ := hstep
  obtain ⟨number, hput⟩ := hsettled.flushed hmakes.isName hflush
  have hfit : database.files.format = .msgpack → table.Fits := fun hformat =>
    hfits hformat (name, table)
      (Keyed.mem_of_find?_eq_some (Keyed.find?_insert_self name table database.tables))
  have hdecode := hreadable.decode_encode hmakes.isName hfit database.files.indented
  exact ⟨path, _, hput, hagrees.insert hmakes.isName hdecode⟩

theorem InStep.removals {first last : Database × Disk} (hstep : first.1.InStep first.2)
    (hremovals : Relation.ReflTransGen Removal first last) : last.1.InStep last.2 := by
  induction hremovals with
  | refl => exact hstep
  | tail _ hremoval ih =>
      obtain ⟨path, entries, hsettled, hagrees⟩ := ih
      cases hremoval with
      | @take database disk later name removed named remove =>
          exact ⟨path, _, hsettled.removed named remove,
            hagrees.erase hsettled.entries_wellFormed.sorted name⟩

theorem InStep.effect (hstep : database.InStep disk) {after : Database}
    (heffect : database.Effect disk after later) (hfits : after.Fits) : after.InStep later := by
  cases heffect with
  | refused flush =>
      obtain ⟨path, entries, hsettled, hagrees⟩ := hstep
      exact ⟨path, entries, hsettled.refused flush, hagrees⟩
  | put makes flush => exact hstep.put makes flush hfits
  | removed removals => exact hstep.removals removals
  | swept removals =>
      have hleft := hstep.removals removals
      rw [hleft.sweep_eq]
      exact hleft

/-- Every call keeps memory and disk in step, whether it succeeds or fails. -/
theorem InStep.perform (hstep : database.InStep disk) {call : Call} (hsorted : call.Sorted)
    (hfits : (call.perform database disk).database.Fits) :
    (call.perform database disk).database.InStep (call.perform database disk).disk :=
  hstep.effect (Call.perform_effect hstep.sound.named hsorted) hfits

end Database

end DocumentStore
