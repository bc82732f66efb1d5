import DocumentStore.Proofs.Table.Files
import DocumentStore.Proofs.Table.JsonDocument
import DocumentStore.Proofs.Table.PackDocument

/-!
# Agreement of tables and files

Tables in memory agree with the entries of a folder if every table name leads to the same table in
both.  Writing a table to its file and taking it over keeps the agreement, and so does removing a
file with its table.  In the other direction, the entries determine the tables that agree with them.
-/

namespace DocumentStore

namespace Table

/-- A file of the format can give the table back. -/
structure Readable (format : Format) (table : Table) : Prop where
  valid : table.Valid
  holds : table.Holds format.Holds

theorem readable_empty (format : Format) : empty.Readable format :=
  ⟨valid_empty, holds_empty⟩

theorem Readable.reaches {format : Format} {start table : Table} (hstart : start.Readable format)
    (hreaches : start.Reaches table) : table.Readable format :=
  ⟨hstart.valid.reaches hreaches, hstart.holds.reaches format.holds_of_storable hreaches⟩

theorem readable_of_decode {format : Format} {name : String} {input : Bytes} {table : Table}
    (hdecode : decode format name input = .ok table) : table.Readable format := by
  obtain ⟨hvalid, hread⟩ := eq_of_decode hdecode
  refine ⟨hvalid, ?_⟩
  cases format with
  | json => exact Document.holds_of_ofJson? hread
  | msgpack => exact Document.holds_of_ofPack? hread

theorem Readable.decode_encode {format : Format} {table : Table} (htable : table.Readable format)
    {name : String} (hname : isTableName name = true) (hfits : format = .msgpack → table.Fits)
    (indented : Bool) : decode format name (table.encode format indented name) = .ok table := by
  cases format with
  | json => exact decode_encode_json htable.valid htable.holds indented
  | msgpack => exact decode_encode_msgpack hname htable.valid htable.holds (hfits rfl) indented

end Table

/-- Every table name leads to the same table in memory and in the folder. -/
structure Agrees (format : Format) (entries : Keyed Entry) (tables : Keyed Table) : Prop where
  sorted : Keyed.Sorted tables
  named : ∀ name ∈ Keyed.names tables, isTableName name = true
  stored : ∀ name, isTableName name = true →
    format.stored name entries = (Keyed.find? name tables).map Except.ok

namespace Agrees

variable {format : Format} {entries : Keyed Entry} {tables : Keyed Table}

/-! ## Changes of one table -/

theorem stored_insert_of_ne {name other : String} (hne : other ≠ name) (entry : Entry) :
    format.stored other (Keyed.insert (format.tableFile name) entry entries) =
      format.stored other entries := by
  have hfiles := (tableFile_injective format).ne hne
  rw [Format.stored, Format.stored, Keyed.find?_insert, if_neg hfiles]

theorem stored_erase_of_ne {name other : String} (hne : other ≠ name) :
    format.stored other (Keyed.erase (format.tableFile name) entries) =
      format.stored other entries := by
  have hfiles := (tableFile_injective format).ne hne
  rw [Format.stored, Format.stored, Keyed.find?_erase_of_ne hfiles]

/-- A table that is decoded from the file that was put in is taken over. -/
theorem insert (hagrees : Agrees format entries tables) {name : String}
    (hname : isTableName name = true) {serial : Nat} {content : Bytes} {table : Table}
    (hdecode : Table.decode format name content = .ok table) :
    Agrees format (put (format.tableFile name) (some (.file serial content)) entries)
      (Keyed.insert name table tables) := by
  refine ⟨Keyed.sorted_insert hagrees.sorted, fun other hother => ?_, fun other hother => ?_⟩
  · rcases Keyed.mem_names_insert.mp hother with rfl | hold
    · exact hname
    · exact hagrees.named other hold
  · rw [put, Keyed.find?_insert]
    split_ifs with heq
    · subst heq
      rw [Format.stored, Keyed.find?_insert_self]
      simp [hdecode]
    · rw [stored_insert_of_ne heq, hagrees.stored other hother]

theorem erase (hagrees : Agrees format entries tables) (hentries : Keyed.Sorted entries)
    (name : String) :
    Agrees format (put (format.tableFile name) none entries) (Keyed.erase name tables) := by
  refine ⟨Keyed.sorted_erase hagrees.sorted, fun other hother => ?_, fun other hother => ?_⟩
  · obtain ⟨⟨key, table⟩, hmem, rfl⟩ := List.mem_map.mp hother
    exact hagrees.named _ (Keyed.mem_names_of_mem (Keyed.mem_of_mem_erase hmem))
  · rw [put, hagrees.sorted.find?_erase]
    split_ifs with heq
    · subst heq
      rw [Format.stored, hentries.find?_erase_self]
      rfl
    · rw [stored_erase_of_ne heq, hagrees.stored other hother]

/-! ## Listing and loading -/

theorem find?_eq_some_iff (hagrees : Agrees format entries tables) {name : String}
    (hname : isTableName name = true) {table : Table} :
    Keyed.find? name tables = some table ↔ format.stored name entries = some (.ok table) := by
  rw [hagrees.stored name hname]
  cases Keyed.find? name tables <;> simp

theorem names_eq {files : TableFiles} (hagrees : Agrees files.format entries tables)
    (hentries : Keyed.Sorted entries) :
    (files.tablesOf entries).mergeSort = Keyed.names tables := by
  apply (TableFiles.pairwise_tablesOf hentries).eq_of_mem_iff hagrees.sorted
  intro name
  have hnames : name ∈ Keyed.names tables ↔ (Keyed.find? name tables).isSome = true := by
    rw [← not_iff_not, ← Keyed.find?_eq_none_iff, Option.not_isSome_iff_eq_none]
  rw [List.mem_mergeSort, TableFiles.mem_tablesOf hentries]
  constructor
  · rintro ⟨hname, hstored⟩
    rw [hagrees.stored name hname, Option.isSome_map] at hstored
    exact hnames.mpr hstored
  · intro hfound
    have hname := hagrees.named name hfound
    rw [hagrees.stored name hname, Option.isSome_map]
    exact ⟨hname, hnames.mp hfound⟩

theorem of_stored {files : TableFiles} (hentries : Keyed.Sorted entries)
    (hnames : Keyed.names tables = (files.tablesOf entries).mergeSort)
    (hstored : ∀ entry ∈ tables, files.format.stored entry.1 entries = some (.ok entry.2)) :
    Agrees files.format entries tables := by
  have hmem : ∀ name, name ∈ Keyed.names tables ↔ name ∈ files.tablesOf entries := by
    intro name
    rw [hnames, List.mem_mergeSort]
  have hsorted : Keyed.Sorted tables := by
    rw [Keyed.Sorted, hnames]
    exact TableFiles.pairwise_tablesOf hentries
  refine ⟨hsorted, fun name hname => ?_, fun name hname => ?_⟩
  · exact ((TableFiles.mem_tablesOf hentries).mp ((hmem name).mp hname)).1
  · cases hfind : Keyed.find? name tables with
    | some table => exact hstored _ (Keyed.mem_of_find?_eq_some hfind)
    | none =>
        have habsent := (Keyed.find?_eq_none_iff name tables).mp hfind
        rw [hmem, TableFiles.mem_tablesOf hentries, not_and, Option.not_isSome_iff_eq_none]
          at habsent
        exact habsent hname

end Agrees

/-- Loading gives the names in their order, each with the table that its file contains. -/
theorem Database.loadTables_eq_ok_iff {files : TableFiles} {disk : Disk} {names : List String}
    {tables : Keyed Table} :
    loadTables files disk names = .ok tables ↔ Keyed.names tables = names ∧
      ∀ entry ∈ tables, files.load entry.1 disk = .ok entry.2 := by
  induction names generalizing tables with
  | nil =>
      rw [loadTables, Except.ok.injEq]
      constructor
      · rintro rfl
        exact ⟨rfl, by simp⟩
      · rintro ⟨hnames, -⟩
        exact (List.map_eq_nil_iff.mp hnames).symm
  | cons name rest ih =>
      simp only [loadTables, bind_eq_ok_iff, ih]
      constructor
      · rintro ⟨table, htable, loaded, ⟨hnames, hloaded⟩, heq⟩
        cases heq
        rw [List.forall_mem_cons]
        exact ⟨congrArg (name :: ·) hnames, htable, hloaded⟩
      · rintro ⟨hnames, hloaded⟩
        cases tables with
        | nil => cases hnames
        | cons entry later =>
            obtain ⟨rfl, hlater⟩ := List.cons.inj hnames
            rw [List.forall_mem_cons] at hloaded
            exact ⟨entry.2, hloaded.1, later, ⟨hlater, hloaded.2⟩, rfl⟩

theorem Database.agrees_of_loadTables {files : TableFiles} {disk : Disk} {path : List String}
    {entries : Keyed Entry} (hentries : Keyed.Sorted entries)
    (hfolder : disk.FolderAt files.folder path entries) {tables : Keyed Table}
    (hload : loadTables files disk (files.tablesOf entries).mergeSort = .ok tables) :
    Agrees files.format entries tables := by
  obtain ⟨hnames, hloaded⟩ := loadTables_eq_ok_iff.mp hload
  apply Agrees.of_stored hentries hnames
  intro entry hentry
  have hmem : entry.1 ∈ files.tablesOf entries := by
    rw [← List.mem_mergeSort, ← hnames]
    exact Keyed.mem_names_of_mem hentry
  have hname := ((TableFiles.mem_tablesOf hentries).mp hmem).1
  exact (TableFiles.load_eq_ok_iff hfolder hname).mp (hloaded entry hentry)

/-- Loading fails like the first table that cannot be loaded. -/
theorem Database.loadTables_eq_error {files : TableFiles} {disk : Disk} {names : List String}
    {error : Error} (hload : loadTables files disk names = .error error) :
    ∃ before name later, names = before ++ name :: later ∧
      (∀ earlier ∈ before, ∃ table, files.load earlier disk = .ok table) ∧
      files.load name disk = .error error := by
  induction names with
  | nil => cases hload
  | cons name rest ih =>
      simp only [loadTables] at hload
      cases htable : files.load name disk with
      | error found =>
          rw [htable] at hload
          cases hload
          exact ⟨[], name, rest, rfl, by simp, htable⟩
      | ok table =>
          cases hrest : loadTables files disk rest with
          | ok tables =>
              rw [htable, hrest] at hload
              cases hload
          | error found =>
              rw [htable, hrest] at hload
              cases hload
              obtain ⟨before, other, later, hsplit, hbefore, hother⟩ := ih hrest
              refine ⟨name :: before, other, later, by rw [hsplit, List.cons_append], ?_, hother⟩
              rw [List.forall_mem_cons]
              exact ⟨⟨table, htable⟩, hbefore⟩

end DocumentStore
