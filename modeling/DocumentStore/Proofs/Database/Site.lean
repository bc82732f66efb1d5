import DocumentStore.Proofs.Database.Writes
import DocumentStore.Proofs.Disk.Contents
import DocumentStore.Proofs.Table.Refusals

/-!
# Operations on one table

An operation on one table edits this table in memory and its file in the folder, and nothing else.
Which edit this is and what it gives depends only on that table, on its files and on what the system
denies (`Site.OnTable`).  Writes and drops are such operations, and two of them on different tables
can be run in either order.
-/

namespace DocumentStore

/-! ## Edits of a folder -/

namespace TableFiles

variable {files : TableFiles} {name : String} {entries : Keyed Entry}

/-- The entries of a folder after an edit of a table.  A file that is put there is given the serial
number. -/
def edited (files : TableFiles) (name : String) (edit : Edit Table) (serial : Nat)
    (entries : Keyed Entry) : Keyed Entry :=
  (edit.map fun table => .file serial (files.encode name table)).apply
    (files.format.tableFile name) entries

theorem contentsAll_edited (files : TableFiles) (name : String) (edit : Edit Table) (serial : Nat)
    (entries : Keyed Entry) :
    Entry.contentsAll (files.edited name edit serial entries) =
      files.edited name edit 0 (Entry.contentsAll entries) := by
  rw [Entry.contentsAll_eq_mapItems, Entry.contentsAll_eq_mapItems, edited, Edit.mapItems_apply]
  cases edit <;> rfl

theorem wellFormed_edited (hentries : (Entry.folder entries).WellFormed)
    {edit : Edit Table} (hname : edit = .keep ∨ isTableName name = true) (serial : Nat) :
    (Entry.folder (files.edited name edit serial entries)).WellFormed := by
  cases edit with
  | keep => exact hentries
  | put table =>
      have hvalid := hname.resolve_left nofun
      exact hentries.insert trivial fun _ => isSimpleName_tableFile hvalid files.format
  | drop => exact hentries.erase _

theorem keepsFolders_edited
    (hfree : ∀ inner, Keyed.find? (files.format.tableFile name) entries ≠ some (.folder inner))
    (edit : Edit Table) (serial : Nat) :
    Entry.KeepsFolders entries (files.edited name edit serial entries) := by
  intro key inner hinner
  have hne : key ≠ files.format.tableFile name := by
    rintro rfl
    exact hfree inner hinner
  rw [edited, Edit.find?_apply_of_ne hne, hinner]

end TableFiles

/-! ## Outcomes -/

def Database.edited (name : String) (edit : Edit Table) (database : Database) : Database :=
  { database with tables := edit.apply name database.tables }

/-- A database whose folder is in place on a disk, with its tables in name order. -/
structure Site where
  database : Database
  disk : Disk
  path : List String
  entries : Keyed Entry
  wellFormed : disk.WellFormed
  folder : disk.FolderAt database.files.folder path entries
  sorted : Keyed.Sorted database.tables

/-- The outcome comes from an edit of one table at the site, in memory and in the folder. -/
structure Outcome.Edits {α : Type} (outcome : Outcome α) (site : Site) (name : String)
    (edit : Edit Table) (serial : Nat) : Prop where
  memory : outcome.database = site.database.edited name edit
  tree : outcome.disk.entries =
    Entry.refill (site.database.files.edited name edit serial site.entries) site.path
      site.disk.entries
  wellFormed : outcome.disk.WellFormed
  folder : outcome.disk.FolderAt site.database.files.folder site.path
    (site.database.files.edited name edit serial site.entries)
  named : edit = .keep ∨ isTableName name = true

theorem Outcome.Edits.map {α β : Type} {outcome : Outcome α} {site : Site} {name : String}
    {edit : Edit Table} {serial : Nat} (hedits : outcome.Edits site name edit serial)
    (f : α → β) : (outcome.map f).Edits site name edit serial :=
  ⟨hedits.memory, hedits.tree, hedits.wellFormed, hedits.folder, hedits.named⟩

namespace Site

variable {site other : Site} {name : String} {later : Disk} {α : Type}

theorem edits_keep (site : Site) (name : String) (result : Except Error α)
    (hlater : later.entries = site.disk.entries) :
    Outcome.Edits ⟨result, site.database, later⟩ site name .keep 0 where
  memory := rfl
  tree := hlater.trans (Entry.refill_self site.wellFormed site.folder.find).symm
  wellFormed := by
    rw [Disk.WellFormed, hlater]
    exact site.wellFormed
  folder := site.folder.congr hlater
  named := Or.inl rfl

theorem edits_of_refill (result : Except Error α) (hname : isTableName name = true)
    (hfree : ∀ inner, Keyed.find? (site.database.files.format.tableFile name) site.entries ≠
      some (.folder inner))
    {edit : Edit Table} {serial : Nat}
    (hlater : later.entries = (site.disk.refill
      (site.database.files.edited name edit serial site.entries) site.path).entries) :
    Outcome.Edits ⟨result, site.database.edited name edit, later⟩ site name edit serial where
  memory := rfl
  tree := hlater
  wellFormed := by
    have hinner := site.wellFormed.find site.folder.find
    rw [Disk.WellFormed, hlater]
    exact site.wellFormed.refill
      (TableFiles.wellFormed_edited hinner (Or.inr hname) serial) site.path
  folder := (site.folder.refill (TableFiles.keepsFolders_edited hfree edit serial)).congr hlater
  named := Or.inr hname

/-! ## Writes -/

theorem commit_of_flush_ok (site : Site) (hname : isTableName name = true) {table : Table}
    (result : α) (hflush : (site.database.files.flush name table site.disk).1 = .ok ()) :
    (site.database.commit name table result site.disk).result = .ok result ∧
      ∃ serial, (site.database.commit name table result site.disk).Edits site name (.put table)
        serial := by
  rcases hlater : site.database.files.flush name table site.disk with ⟨verdict, later⟩
  rw [hlater] at hflush
  obtain rfl : verdict = .ok () := hflush
  obtain ⟨hfree, serial, hentries⟩ :=
    TableFiles.flush_eq_ok site.wellFormed site.folder hname hlater
  have hcommit : site.database.commit name table result site.disk =
      ⟨.ok result, site.database.edited name (.put table), later⟩ := by
    rw [Database.commit, hlater]
    rfl
  rw [hcommit]
  exact ⟨rfl, serial, edits_of_refill _ hname hfree hentries⟩

theorem commit_of_flush_error (site : Site) {table : Table} (result : α) {refusal : Refusal}
    (hflush : (site.database.files.flush name table site.disk).1 = .error refusal) :
    (site.database.commit name table result site.disk).result = .error (.disk refusal) ∧
      (site.database.commit name table result site.disk).Edits site name .keep 0 := by
  obtain ⟨serial, -, hserial⟩ := TableFiles.flush_refused site.wellFormed hflush
  rcases hlater : site.database.files.flush name table site.disk with ⟨verdict, later⟩
  rw [hlater] at hflush hserial
  obtain rfl : verdict = .error refusal := hflush
  obtain rfl : later = { site.disk with nextSerial := serial } := hserial
  have hcommit : site.database.commit name table result site.disk =
      ⟨.error (.disk refusal), site.database, { site.disk with nextSerial := serial }⟩ := by
    rw [Database.commit, hlater]
  rw [hcommit]
  exact ⟨rfl, site.edits_keep name _ rfl⟩

/-- A call on the table cannot tell the sites apart. -/
structure Indistinct (site : Site) (name : String) (other : Site) : Prop where
  files : site.database.files = other.database.files
  denied : site.disk.denied = other.disk.denied
  table : Keyed.find? name site.database.tables = Keyed.find? name other.database.tables
  sameFiles : site.database.files.format.SameFiles name site.entries other.entries

theorem Indistinct.refl (site : Site) (name : String) : site.Indistinct name site :=
  ⟨rfl, rfl, rfl, Format.SameFiles.refl _ name site.entries⟩

theorem Indistinct.folder (hsame : site.Indistinct name other) :
    other.disk.FolderAt site.database.files.folder other.path other.entries := by
  rw [hsame.files]
  exact other.folder

/-- At all sites that the table cannot tell apart, the operation gives one result by one edit of the
table. -/
def OnTable (name : String) (operation : Database → Disk → Outcome α) : Prop :=
  ∀ site : Site, ∃ result edit, ∀ other : Site, site.Indistinct name other →
    (operation other.database other.disk).result = result ∧
      ∃ serial, (operation other.database other.disk).Edits other name edit serial

theorem onTable_write {change : Except Error (α × Option Table)}
    (hvalid : ∀ made, change = .ok made → isTableName name = true) :
    OnTable name fun database disk => database.write name change disk := by
  intro site
  rcases change with error | ⟨result, _ | table⟩
  · exact ⟨.error error, .keep, fun other _ => ⟨rfl, 0, other.edits_keep name _ rfl⟩⟩
  · exact ⟨.ok result, .keep, fun other _ => ⟨rfl, 0, other.edits_keep name _ rfl⟩⟩
  · have hname := hvalid _ rfl
    have hverdict : ∀ other : Site, site.Indistinct name other →
        (other.database.files.flush name table other.disk).1 =
          (site.database.files.flush name table site.disk).1 := by
      intro other hsame
      rw [← hsame.files]
      exact (TableFiles.flush_congr site.wellFormed other.wellFormed site.folder hsame.folder
        hsame.denied hname hsame.sameFiles table).symm
    cases hflush : (site.database.files.flush name table site.disk).1 with
    | error refusal =>
        refine ⟨.error (.disk refusal), .keep, fun other hsame => ?_⟩
        have hedits := other.commit_of_flush_error result ((hverdict other hsame).trans hflush)
        exact ⟨hedits.1, 0, hedits.2⟩
    | ok =>
        exact ⟨.ok result, .put table, fun other hsame =>
          other.commit_of_flush_ok hname result ((hverdict other hsame).trans hflush)⟩

/-! ## Drops -/

theorem drop_of_remove_ok (site : Site) (hname : isTableName name = true) {table : Table}
    (htable : site.database.table name = .ok table) {removed : Bool}
    (hremove : (site.database.files.remove name site.disk).map Prod.fst = .ok removed) :
    (site.database.drop name site.disk).result = .ok () ∧
      (site.database.drop name site.disk).Edits site name .drop 0 := by
  obtain ⟨⟨_, later⟩, hlater, rfl⟩ := map_eq_ok_iff.mp hremove
  obtain ⟨hfree, hentries⟩ := TableFiles.remove_eq_ok site.wellFormed site.folder hname hlater
  have hdrop : site.database.drop name site.disk =
      ⟨.ok (), site.database.edited name .drop, later⟩ := by
    rw [Database.drop, htable, hlater]
    rfl
  rw [hdrop]
  exact ⟨rfl, edits_of_refill _ hname hfree (congrArg Disk.entries hentries)⟩

theorem drop_of_remove_error (site : Site) {table : Table}
    (htable : site.database.table name = .ok table) {refusal : Refusal}
    (hremove : (site.database.files.remove name site.disk).map Prod.fst = .error refusal) :
    (site.database.drop name site.disk).result = .error (.disk refusal) ∧
      (site.database.drop name site.disk).Edits site name .keep 0 := by
  have hdrop : site.database.drop name site.disk =
      ⟨.error (.disk refusal), site.database, site.disk⟩ := by
    rw [Database.drop, htable, map_eq_error_iff.mp hremove]
  rw [hdrop]
  exact ⟨rfl, site.edits_keep name _ rfl⟩

theorem onTable_drop (name : String) :
    OnTable name fun database disk => database.drop name disk := by
  intro site
  have htable : ∀ other : Site, site.Indistinct name other →
      other.database.table name = site.database.table name := by
    intro other hsame
    rw [Database.table, Database.table, hsame.table]
  cases hfirst : site.database.table name with
  | error error =>
      refine ⟨.error error, .keep, fun other hsame => ?_⟩
      simp only [Database.drop, htable other hsame, hfirst]
      exact ⟨trivial, 0, other.edits_keep name _ rfl⟩
  | ok table =>
      have hname := (Database.table_eq_ok hfirst).1
      have hverdict : ∀ other : Site, site.Indistinct name other →
          (other.database.files.remove name other.disk).map Prod.fst =
            (site.database.files.remove name site.disk).map Prod.fst := by
        intro other hsame
        rw [← hsame.files]
        exact (TableFiles.remove_congr site.folder hsame.folder hsame.denied hname
          hsame.sameFiles).symm
      cases hremove : (site.database.files.remove name site.disk).map Prod.fst with
      | error refusal =>
          refine ⟨.error (.disk refusal), .keep, fun other hsame => ?_⟩
          have hedits := other.drop_of_remove_error ((htable other hsame).trans hfirst)
            ((hverdict other hsame).trans hremove)
          exact ⟨hedits.1, 0, hedits.2⟩
      | ok removed =>
          refine ⟨.ok (), .drop, fun other hsame => ?_⟩
          have hedits := other.drop_of_remove_ok hname ((htable other hsame).trans hfirst)
            ((hverdict other hsame).trans hremove)
          exact ⟨hedits.1, 0, hedits.2⟩

/-! ## Two operations -/

/-- The site while the system denies these changes. -/
def permitting (denied : Location → Option String) (site : Site) : Site :=
  { site with
    disk := { site.disk with denied }
    wellFormed := site.wellFormed
    folder := site.folder.congr rfl }

end Site

section Edits

variable {α β : Type} {outcome : Outcome α} {reply : Outcome β} {site : Site}
  {name other : String} {edit change : Edit Table} {serial number : Nat}

/-- The site that an operation leaves behind. -/
def Outcome.Edits.after (hedits : outcome.Edits site name edit serial) : Site where
  database := outcome.database
  disk := outcome.disk
  path := site.path
  entries := site.database.files.edited name edit serial site.entries
  wellFormed := hedits.wellFormed
  folder := by
    rw [hedits.memory]
    exact hedits.folder
  sorted := by
    rw [hedits.memory]
    exact Edit.sorted_apply site.sorted edit

theorem Outcome.Edits.files_eq (hedits : outcome.Edits site name edit serial) :
    outcome.database.files = site.database.files := by
  rw [hedits.memory]
  rfl

/-- An operation on one table is not noticed at any other. -/
theorem Outcome.Edits.indistinct (hedits : outcome.Edits site name edit serial)
    (hne : other ≠ name) (denied : Location → Option String) :
    (site.permitting denied).Indistinct other (hedits.after.permitting denied) where
  files := hedits.files_eq.symm
  denied := rfl
  table := by
    change Keyed.find? other site.database.tables = Keyed.find? other outcome.database.tables
    rw [hedits.memory]
    exact (Edit.find?_apply_of_ne hne edit site.database.tables).symm
  sameFiles := by
    rcases hedits.named with rfl | hname
    · exact Format.SameFiles.refl _ other site.entries
    · exact Format.sameFiles_apply hne hname _ site.entries

theorem Outcome.Edits.tree_twice (hedits : outcome.Edits site name edit serial)
    {denied : Location → Option String}
    (hreply : reply.Edits (hedits.after.permitting denied) other change number) :
    Entry.contentsAll reply.disk.entries =
      Entry.refill (site.database.files.edited other change 0
        (site.database.files.edited name edit 0 (Entry.contentsAll site.entries))) site.path
        (Entry.contentsAll site.disk.entries) := by
  have htree := hreply.tree
  change reply.disk.entries = Entry.refill (outcome.database.files.edited other change number
    (site.database.files.edited name edit serial site.entries)) site.path outcome.disk.entries
    at htree
  rw [htree, hedits.files_eq, hedits.tree,
    Entry.refill_refill site.wellFormed site.folder.find, Entry.contentsAll_refill,
    TableFiles.contentsAll_edited, TableFiles.contentsAll_edited]

end Edits

namespace Site

variable {name other : String} {α β : Type} {first : Database → Disk → Outcome α}
  {second : Database → Disk → Outcome β}

/-- Operations on two tables give in either order the same results, the same tables and the same
contents of the disk. -/
theorem OnTable.comm (hfirst : OnTable name first) (hsecond : OnTable other second)
    (hne : name ≠ other) (site : Site) (denied refused : Location → Option String) :
    let alone := first site.database { site.disk with denied }
    let after := second alone.database { alone.disk with denied := refused }
    let early := second site.database { site.disk with denied := refused }
    let late := first early.database { early.disk with denied }
    alone.result = late.result ∧ early.result = after.result ∧
      after.database = late.database ∧ after.disk.SameContents late.disk := by
  intro alone after early late
  obtain ⟨result, edit, hedit⟩ := hfirst (site.permitting denied)
  obtain ⟨reply, change, hchange⟩ := hsecond (site.permitting refused)
  obtain ⟨halone, serial, haloneEdits⟩ := hedit _ (Indistinct.refl _ name)
  obtain ⟨hearly, number, hearlyEdits⟩ := hchange _ (Indistinct.refl _ other)
  obtain ⟨hlate, later, hlateEdits⟩ := hedit _ (hearlyEdits.indistinct hne denied)
  obtain ⟨hafter, latest, hafterEdits⟩ :=
    hchange _ (haloneEdits.indistinct (Ne.symm hne) refused)
  refine ⟨halone.trans hlate.symm, hearly.trans hafter.symm, ?_, ?_⟩
  · have hmiddle : alone.database = site.database.edited name edit := haloneEdits.memory
    have hother : early.database = site.database.edited other change := hearlyEdits.memory
    have hlast : after.database = alone.database.edited other change := hafterEdits.memory
    have hswapped : late.database = early.database.edited name edit := hlateEdits.memory
    rw [hlast, hswapped, hmiddle, hother]
    simp only [Database.edited, Edit.apply_comm hne site.sorted]
  · have hsorted := Entry.sorted_contentsAll (site.wellFormed.find site.folder.find).sorted
    have hfiles := (tableFile_injective site.database.files.format).ne hne
    have hforward := haloneEdits.tree_twice hafterEdits
    have hbackward := hearlyEdits.tree_twice hlateEdits
    refine hforward.trans (Eq.trans ?_ hbackward.symm)
    exact congrArg (fun inner => Entry.refill inner site.path
      (Entry.contentsAll site.disk.entries)) (Edit.apply_comm hfiles hsorted _ _)

end Site

end DocumentStore
