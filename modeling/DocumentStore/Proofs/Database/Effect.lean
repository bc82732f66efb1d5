import DocumentStore.Proofs.Database.Writes
import DocumentStore.Proofs.Table.FileNames

/-!
# What a call can do

`Database.Effect` lists all that a call can do to a database and its disk: a flush is refused, one
table is put in memory and into its file, or tables are taken out of both one after the other.  What
every call keeps is shown for these effects alone.
-/

namespace DocumentStore

theorem TableFiles.isTableName_of_discover {files : TableFiles} {disk : Disk}
    {names : List String} (hdiscover : files.discover disk = .ok names) {name : String}
    (hname : name ∈ names) : isTableName name = true := by
  simp only [discover, bind_eq_ok_iff, pure_eq_ok_iff] at hdiscover
  obtain ⟨entries, -, rfl⟩ := hdiscover
  rw [List.mem_mergeSort, List.mem_filterMap] at hname
  obtain ⟨⟨file, entry⟩, -, htable⟩ := hname
  simp only [Option.ite_none_left_eq_some, tableOf?_eq_some_iff] at htable
  exact htable.2.2

namespace Database

/-- A table is taken out of memory and its file, if there is one, out of the folder. -/
inductive Removal : Database × Disk → Database × Disk → Prop
  | take {database : Database} {disk later : Disk} {name : String} {removed : Bool}
      (named : isTableName name = true)
      (remove : database.files.remove name disk = .ok (removed, later)) :
      Removal (database, disk)
        ({ database with tables := Keyed.erase name database.tables }, later)

/-- One call leads from the database and the disk to the others.  A call that does nothing makes no
removals. -/
inductive Effect (database : Database) (disk : Disk) : Database → Disk → Prop
  | refused {name : String} {table : Table} {refusal : Refusal} {later : Disk}
      (flush : database.files.flush name table disk = (.error refusal, later)) :
      Effect database disk database later
  | put {name : String} {table : Table} {later : Disk} (makes : database.Makes name table)
      (flush : database.files.flush name table disk = (.ok (), later)) :
      Effect database disk { database with tables := Keyed.insert name table database.tables } later
  | removed {emptied : Database} {left : Disk}
      (removals : Relation.ReflTransGen Removal (database, disk) (emptied, left)) :
      Effect database disk emptied left
  | swept {emptied : Database} {left : Disk}
      (removals : Relation.ReflTransGen Removal (database, disk) (emptied, left)) :
      Effect database disk emptied (emptied.files.sweep left).2

variable {database : Database} {disk : Disk}

theorem Effect.nothing : database.Effect disk database disk :=
  .removed .refl

/-! ## Calls -/

theorem write_effect {α : Type} {name : String} {change : Except Error (α × Option Table)}
    (hmakes : ∀ result table, change = .ok (result, some table) → database.Makes name table) :
    database.Effect disk (database.write name change disk).database
      (database.write name change disk).disk := by
  rcases change with error | ⟨result, _ | table⟩
  · exact Effect.nothing
  · exact Effect.nothing
  · rw [write, commit]
    rcases hflush : database.files.flush name table disk with ⟨refusal | ⟨⟩, later⟩
    · exact Effect.refused hflush
    · exact Effect.put (hmakes result table rfl) hflush

theorem drop_effect (name : String) :
    database.Effect disk (database.drop name disk).database (database.drop name disk).disk := by
  unfold drop
  cases htable : database.table name with
  | error error => exact Effect.nothing
  | ok table =>
      cases hremove : database.files.remove name disk with
      | error refusal => exact Effect.nothing
      | ok left => exact Effect.removed (.single (.take (table_eq_ok htable).1 hremove))

theorem burnAll_removals {names : List String} (hnames : ∀ name ∈ names, isTableName name = true)
    (burned : List String) :
    let outcome := burnAll burned names database disk
    Relation.ReflTransGen Removal (database, disk) (outcome.database, outcome.disk) := by
  induction names generalizing burned database disk with
  | nil => exact .refl
  | cons name rest ih =>
      rw [List.forall_mem_cons] at hnames
      unfold burnAll
      cases hremove : database.files.remove name disk with
      | error refusal => exact .refl
      | ok left => exact .head (.take hnames.1 hremove) (ih hnames.2 (name :: burned))

theorem isTableName_of_allNames (hnamed : ∀ name ∈ database.list, isTableName name = true)
    {names : List String} (hnames : database.allNames disk = .ok names) :
    ∀ name ∈ names, isTableName name = true := by
  simp only [allNames, bind_eq_ok_iff, pure_eq_ok_iff] at hnames
  obtain ⟨found, hfound, rfl⟩ := hnames
  intro name hname
  obtain ⟨⟨key, _⟩, hmem, rfl⟩ := List.mem_map.mp hname
  obtain ⟨listed, hlisted, heq⟩ := List.mem_map.mp (Keyed.mem_of_mem_ofList hmem)
  cases heq
  rcases List.mem_append.mp hlisted with hlist | hdiscovered
  · exact hnamed _ hlist
  · exact TableFiles.isTableName_of_discover hfound hdiscovered

theorem burn_effect (hnamed : ∀ name ∈ database.list, isTableName name = true) :
    database.Effect disk (database.burn disk).database (database.burn disk).disk := by
  rw [burn]
  cases hnames : database.allNames disk with
  | error refusal => exact Effect.nothing
  | ok names =>
      have hremovals : Relation.ReflTransGen Removal (database, disk)
          ((burnAll [] names database disk).database, (burnAll [] names database disk).disk) :=
        burnAll_removals (isTableName_of_allNames hnamed hnames) []
      dsimp only
      rcases hburned : burnAll [] names database disk with ⟨_ | burned, emptied, left⟩
      · rw [hburned] at hremovals
        exact Effect.removed hremovals
      · rw [hburned] at hremovals
        exact Effect.swept hremovals

end Database

/-- Every call has an effect, whether it succeeds or fails. -/
theorem Call.perform_effect {database : Database} {disk : Disk} {call : Call}
    (hnamed : ∀ name ∈ database.list, isTableName name = true) (hsorted : call.Sorted) :
    database.Effect disk (call.perform database disk).database
      (call.perform database disk).disk := by
  cases call with
  | add name fields validator =>
      have hmakes : ∀ result table,
          (database.appended name [fields] validator).map
            (fun found => (found.1.headD .null, found.2)) = .ok (result, some table) →
          database.Makes name table := by
        intro result table hchange
        obtain ⟨⟨ids, made⟩, happended, heq⟩ := map_eq_ok_iff.mp hchange
        cases heq
        exact Database.appended_makes (by simpa [Call.Sorted] using hsorted) happended
      exact Database.write_effect hmakes
  | addAll name records validator =>
      exact Database.write_effect fun _ _ hchange => Database.appended_makes hsorted hchange
  | update name changes filters =>
      exact Database.write_effect fun _ _ hchange => Database.updated_makes hsorted hchange
  | delete name filters =>
      exact Database.write_effect fun _ _ hchange => Database.deleted_makes hchange
  | truncate name =>
      exact Database.write_effect fun _ _ hchange => Database.truncated_makes hchange
  | drop name => exact Database.drop_effect name
  | burn => exact Database.burn_effect hnamed
  | find | count | list => exact Database.Effect.nothing

namespace Database

/-! ## Tables -/

/-- What holds of the tables of any database, however its tables came about. -/
structure Sound (database : Database) : Prop where
  sorted : Keyed.Sorted database.tables
  named : ∀ name ∈ database.list, isTableName name = true
  valid : ∀ {name table}, Keyed.find? name database.tables = some table → table.Valid

variable {database : Database} {disk : Disk}

theorem Sound.valid_getD (hsound : database.Sound) (name : String) :
    ((Keyed.find? name database.tables).getD Table.empty).Valid := by
  cases hfind : Keyed.find? name database.tables with
  | none => exact Table.valid_empty
  | some table => exact hsound.valid hfind

theorem Sound.put (hsound : database.Sound) {name : String} {table : Table}
    (hmakes : database.Makes name table) :
    Sound { database with tables := Keyed.insert name table database.tables } := by
  refine ⟨Keyed.sorted_insert hsound.sorted, fun other hother => ?_, fun {other found} hfind => ?_⟩
  · rcases Keyed.mem_names_insert.mp hother with rfl | hold
    · exact hmakes.isName
    · exact hsound.named other hold
  · rw [Keyed.find?_insert] at hfind
    split_ifs at hfind with heq
    · cases hfind
      exact (hsound.valid_getD name).reaches hmakes.reaches
    · exact hsound.valid hfind

theorem Removal.find?_eq_some {first last : Database × Disk}
    (hsorted : Keyed.Sorted first.1.tables) (hremoval : Removal first last) {name : String}
    {table : Table} (hfind : Keyed.find? name last.1.tables = some table) :
    Keyed.find? name first.1.tables = some table := by
  cases hremoval with
  | take named remove =>
      rw [hsorted.find?_erase] at hfind
      split_ifs at hfind
      exact hfind

theorem Sound.removal {first last : Database × Disk} (hsound : first.1.Sound)
    (hremoval : Removal first last) : last.1.Sound := by
  have hkept : ∀ {name table}, Keyed.find? name last.1.tables = some table →
      Keyed.find? name first.1.tables = some table :=
    hremoval.find?_eq_some hsound.sorted
  cases hremoval with
  | take named remove =>
      refine ⟨Keyed.sorted_erase hsound.sorted, fun name hname => ?_, fun hfind =>
        hsound.valid (hkept hfind)⟩
      obtain ⟨⟨key, table⟩, hmem, rfl⟩ := List.mem_map.mp hname
      exact hsound.named _ (Keyed.mem_names_of_mem (Keyed.mem_of_mem_erase hmem))

/-- Removals leave the tables that they do not take as they are. -/
theorem Sound.removals {first last : Database × Disk} (hsound : first.1.Sound)
    (hremovals : Relation.ReflTransGen Removal first last) :
    last.1.Sound ∧ ∀ {name table}, Keyed.find? name last.1.tables = some table →
      Keyed.find? name first.1.tables = some table := by
  induction hremovals with
  | refl => exact ⟨hsound, id⟩
  | tail _ hremoval ih =>
      exact ⟨ih.1.removal hremoval, fun hfind =>
        ih.2 (hremoval.find?_eq_some ih.1.sorted hfind)⟩

theorem Sound.effect (hsound : database.Sound) {after : Database} {later : Disk}
    (heffect : database.Effect disk after later) : after.Sound := by
  cases heffect with
  | refused flush => exact hsound
  | put makes flush => exact hsound.put makes
  | removed removals | swept removals => exact (hsound.removals removals).1

/-- A table after a call comes, by operations on tables, from the one that had its name before. -/
theorem Effect.reaches {after : Database} {later : Disk}
    (heffect : database.Effect disk after later) (hsound : database.Sound) {name : String}
    {table : Table} (hfind : Keyed.find? name after.tables = some table) :
    ((Keyed.find? name database.tables).getD Table.empty).Reaches table := by
  cases heffect with
  | refused flush =>
      rw [hfind]
      exact .refl
  | removed removals | swept removals =>
      rw [(hsound.removals removals).2 hfind]
      exact .refl
  | put makes flush =>
      rw [Keyed.find?_insert] at hfind
      split_ifs at hfind with heq
      · cases hfind
        rw [heq]
        exact makes.reaches
      · rw [hfind]
        exact .refl

end Database

end DocumentStore
