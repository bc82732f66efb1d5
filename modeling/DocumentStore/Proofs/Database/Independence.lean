import DocumentStore.Proofs.Database.Reachable
import DocumentStore.Proofs.Database.TableCall

/-!
# Independent tables

Requests on two tables of a reachable database can be served in either order.  A request on one table
leaves every other table with its file, the files of the other format, the lock file and every entry
of the folder that is not its own file, and one on a name that is no table name leaves everything.
-/

namespace DocumentStore

/-- Everything but one table and its file is as it was. -/
structure Outcome.TouchesOnly {α : Type} (outcome : Outcome α) (name : String)
    (database : Database) (disk : Disk) : Prop where
  tables : ∀ other, other ≠ name →
    Keyed.find? other outcome.database.tables = Keyed.find? other database.tables
  rest : outcome.database = { database with tables := outcome.database.tables }
  /-- The folder has other entries at most under the name of the file, and it is the only folder that
  has changed. -/
  folder : ∃ path entries later, disk.FolderAt database.files.folder path entries ∧
    outcome.disk.FolderAt database.files.folder path later ∧
    outcome.disk.entries = Entry.refill later path disk.entries ∧
    (∀ file, file ≠ database.files.format.tableFile name →
      Keyed.find? file later = Keyed.find? file entries) ∧
    (∀ (format : Format) (table : String), (format, table) ≠ (database.files.format, name) →
      Keyed.find? (format.tableFile table) later =
        Keyed.find? (format.tableFile table) entries) ∧
    Keyed.find? lockFile later = Keyed.find? lockFile entries

namespace Database

variable {database : Database} {disk : Disk}

theorem Reachable.exists_site (hreachable : database.Reachable disk) :
    ∃ site : Site, site.database = database ∧ site.disk = disk := by
  obtain ⟨path, entries, hsettled⟩ := hreachable.housed
  exact ⟨⟨database, disk, path, entries, hsettled.wellFormed, hsettled.folder,
    hreachable.sound.sorted⟩, rfl, rfl⟩

end Database

namespace Site

theorem OnTable.touchesOnly {name : String} {α : Type} {operation : Database → Disk → Outcome α}
    (hoperation : OnTable name operation) (site : Site) (denied : Location → Option String) :
    (operation site.database { site.disk with denied }).TouchesOnly name site.database
      site.disk := by
  obtain ⟨result, edit, hedit⟩ := hoperation (site.permitting denied)
  obtain ⟨-, serial, hedits⟩ := hedit _ (Indistinct.refl _ name)
  have hmemory : (operation site.database { site.disk with denied }).database =
      site.database.edited name edit := hedits.memory
  have hother : ∀ file, file ≠ site.database.files.format.tableFile name →
      Keyed.find? file (site.database.files.edited name edit serial site.entries) =
        Keyed.find? file site.entries :=
    fun file hne => Edit.find?_apply_of_ne hne _ site.entries
  refine ⟨fun other hne => ?_, ?_, site.path, site.entries, _, site.folder, hedits.folder,
    hedits.tree, hother, fun format table hne => hother _ fun hsame => ?_, ?_⟩
  · rw [hmemory]
    exact Edit.find?_apply_of_ne hne edit site.database.tables
  · rw [hmemory]
    rfl
  · obtain rfl := format_eq_of_tableFile_eq hsame
    exact hne (congrArg (Prod.mk _) (tableFile_injective _ hsame))
  · rcases hedits.named with rfl | hname
    · rfl
    · exact hother _ (tableFile_ne_lockFile hname _).symm

end Site

namespace Database

/-- Two requests on different tables give the same results, the same tables and the same contents of
the disk whichever is served first.  Each leaves all that does not belong to its own table, and
leaves the database and the disk as they are if its name is no table name. -/
theorem Reachable.tables_are_independent {database : Database} {disk : Disk}
    (hreachable : database.Reachable disk) {first second : Request} {name other : String}
    (hfirst : first.call.table? = some name) (hsecond : second.call.table? = some other)
    (hne : name ≠ other) :
    (∃ answer reply, answers [first, second] database disk = [answer, reply] ∧
      answers [second, first] database disk = [reply, answer]) ∧
    (serveAll [first, second] database disk).1 = (serveAll [second, first] database disk).1 ∧
    Disk.SameContents (serveAll [first, second] database disk).2
      (serveAll [second, first] database disk).2 ∧
    (second.serve database disk).TouchesOnly other database disk ∧
    (isTableName other = false → ∃ error, second.serve database disk =
      ⟨.error error, database, { disk with denied := second.denied }⟩) := by
  obtain ⟨site, rfl, rfl⟩ := hreachable.exists_site
  obtain ⟨hresult, hreply, hdatabase, hdisk⟩ := (Call.onTable hfirst).comm (Call.onTable hsecond)
    hne site first.denied second.denied
  refine ⟨⟨_, _, rfl, ?_⟩, hdatabase, hdisk, ?_, fun hname => ?_⟩
  · exact congrArg₂ (fun reply answer => [reply, answer]) hreply hresult.symm
  · exact (Call.onTable hsecond).touchesOnly site second.denied
  · exact Call.perform_of_invalid hsecond hname _ _

private def addTo (name : String) : Request :=
  ⟨.add name (.map []) Validator.none, fun _ => none⟩

theorem tables_are_independent_fresh :
    (serveAll [addTo "users", addTo "posts"] fresh freshDisk).1 =
        (serveAll [addTo "posts", addTo "users"] fresh freshDisk).1 ∧
      (serveAll [addTo "users", addTo "posts"] fresh freshDisk).1.list = ["posts", "users"] ∧
      ((addTo "posts").serve fresh freshDisk).TouchesOnly "posts" fresh freshDisk ∧
      ∃ error, (addTo "no/name").serve fresh freshDisk = ⟨.error error, fresh, freshDisk⟩ := by
  have husers : (addTo "users").call.table? = some "users" := rfl
  have hposts : (addTo "posts").call.table? = some "posts" := rfl
  have hslash : (addTo "no/name").call.table? = some "no/name" := rfl
  have hvalid := reachable_fresh.tables_are_independent husers hposts (by decide)
  have hinvalid := reachable_fresh.tables_are_independent husers hslash (by decide)
  exact ⟨hvalid.2.1, by decide +kernel, hvalid.2.2.2.1, hinvalid.2.2.2.2 (by decide)⟩

end Database

end DocumentStore
