import DocumentStore.Proofs.Table.Agreement
import DocumentStore.Proofs.Table.Refusals

/-!
# Table files as a map

The table files of a folder act as a map from names to tables: a flush puts a table under its name, a
removal takes it away, and loading and discovering see just that.  The rest of the folder is spared
by all of them, and a sweep takes out nothing but temporary files.

These laws hold in every folder (`actsAsMap`), so they hold in every folder that a run of calls
leads to, whatever the system refuses on the way.
-/

namespace DocumentStore

/-! ## Calls -/

inductive FileCall where
  | flush (name : String) (table : Table)
  | load (name : String)
  | remove (name : String)
  | discover
  | sweep

inductive FileAnswer where
  | written
  | table (table : Table)
  | existed (existed : Bool)
  | names (names : List String)
  | count (count : Nat)

namespace FileCall

def perform (files : TableFiles) (disk : Disk) : FileCall → Except Error FileAnswer × Disk
  | flush name table =>
    let (result, later) := files.flush name table disk
    ((result.mapError Error.disk).map fun _ => .written, later)
  | load name => ((files.load name disk).map .table, disk)
  | remove name =>
    match files.remove name disk with
    | .ok (existed, later) => (.ok (.existed existed), later)
    | .error refusal => (.error (.disk refusal), disk)
  | discover => (((files.discover disk).mapError Error.disk).map .names, disk)
  | sweep =>
    let (result, later) := files.sweep disk
    ((result.mapError Error.disk).map .count, later)

/-- The call reads the folder without changing it. -/
def Reads : FileCall → Prop
  | load _ | discover => True
  | flush _ _ | remove _ | sweep => False

/-- What the call puts under a name, or that it takes away what is there. -/
def change? : FileCall → Option (String × Option Table)
  | flush name table => some (name, some table)
  | remove name => some (name, none)
  | load _ | discover | sweep => none

end FileCall

/-- A file of the format gives the table back. -/
structure Table.Storable (format : Format) (table : Table) : Prop where
  readable : table.Readable format
  fits : format = .msgpack → table.Fits

/-- The call is on a valid name, and on a table that can be stored. -/
def FileCall.Admissible (format : Format) : FileCall → Prop
  | flush name table => isTableName name = true ∧ table.Storable format
  | load name | remove name => isTableName name = true
  | discover | sweep => True

structure FileRequest where
  call : FileCall
  denied : Location → Option String

/-- What loading a name gives when this is stored under it. -/
def loadedAs (name : String) (table? : Option Table) : Except Error Table :=
  table?.elim (.error (.tableNotFound name)) .ok

/-- The map after a call that was answered like this. -/
def recorded (tables : String → Except Error Table)
    (step : FileCall × Except Error FileAnswer) (name : String) : Except Error Table :=
  match step.1.change?, step.2 with
  | some (changed, table?), .ok _ => if name = changed then loadedAs name table? else tables name
  | _, _ => tables name

namespace TableFiles

/-- Performs the calls while the system denies what each request says, and gives them with their
answers. -/
def run (files : TableFiles) :
    List FileRequest → Disk → List (FileCall × Except Error FileAnswer) × Disk
  | [], disk => ([], disk)
  | request :: rest, disk =>
    let (answer, later) := request.call.perform files { disk with denied := request.denied }
    let (steps, last) := run files rest later
    ((request.call, answer) :: steps, last)

/-! ## Laws -/

/-- The later folder stores this table, or none, under the name, and it is otherwise the same. -/
structure Stores (files : TableFiles) (path : List String) (entries : Keyed Entry)
    (disk later : Disk) (name : String) (table? : Option Table) : Prop where
  folder : ∃ inner, later.WellFormed ∧ later.entries = Entry.refill inner path disk.entries ∧
    later.FolderAt files.folder path inner ∧
    ∀ file, file ≠ files.format.tableFile name →
      Keyed.find? file inner = Keyed.find? file entries
  own : files.load name later = loadedAs name table?
  others : ∀ other, isTableName other = true → other ≠ name →
    files.load other later = files.load other disk
  discovered : ∀ names, files.discover disk = .ok names →
    ∃ found, files.discover later = .ok found ∧ found.Pairwise (· < ·) ∧
      ∀ other, other ∈ found ↔ if other = name then table?.isSome = true else other ∈ names

/-- The later folder lacks these files, and it is otherwise the same. -/
structure Lacks (files : TableFiles) (path : List String) (entries : Keyed Entry)
    (disk later : Disk) (removed : List String) : Prop where
  folder : ∃ inner, later.WellFormed ∧ later.entries = Entry.refill inner path disk.entries ∧
    later.FolderAt files.folder path inner ∧
    ∀ file, Keyed.find? file inner = if file ∈ removed then none else Keyed.find? file entries
  loaded : ∀ name, isTableName name = true → files.load name later = files.load name disk
  discovered : files.discover later = files.discover disk

/-- The table files of a folder act as a map on the disk as it is, with what the system refuses
there.  A failing call other than a sweep changes nothing, like one that only reads. -/
structure ActsAsMap (files : TableFiles) (path : List String) (entries : Keyed Entry)
    (disk : Disk) : Prop where
  discovers : ∃ names, files.discover disk = .ok names ∧ names.Pairwise (· < ·) ∧
    ∀ name, name ∈ names ↔ isTableName name = true ∧ ∃ serial content,
      Keyed.find? (files.format.tableFile name) entries = some (.file serial content)
  flushed : ∀ {name table later}, isTableName name = true → table.Storable files.format →
    files.flush name table disk = (.ok (), later) →
    files.Stores path entries disk later name (some table)
  squatted : ∀ {name inner}, isTableName name = true →
    Keyed.find? (files.format.tableFile name) entries = some (.folder inner) →
    ∀ table, ∃ refusal, (files.flush name table disk).1 = .error refusal
  removed : ∀ {name existed later}, isTableName name = true →
    files.remove name disk = .ok (existed, later) →
    (existed = true ↔ ∃ serial content,
      Keyed.find? (files.format.tableFile name) entries = some (.file serial content)) ∧
      files.Stores path entries disk later name none
  swept : ∃ removed, removed <+: staleNames entries ∧
    files.Lacks path entries disk (files.sweep disk).2 removed ∧
    ∀ count, (files.sweep disk).1 = .ok count →
      removed = staleNames entries ∧ count = removed.length
  sweeps : (∀ file ∈ staleNames entries, checkEntryName file = .ok () ∧
    disk.permit (files.folder.join file) = .ok ()) → ∃ count, (files.sweep disk).1 = .ok count
  stale : ∀ file, file ∈ staleNames entries ↔ isTemporary file = true ∧
    ∃ serial content, Keyed.find? file entries = some (.file serial content)
  spared : ∀ file ∈ staleNames entries, file ≠ lockFile ∧
    ∀ format name, isTableName name = true → file ≠ Format.tableFile format name
  idle : ∀ {call : FileCall} {answer later}, call.perform files disk = (answer, later) →
    call ≠ .sweep → call.Reads ∨ (∃ error, answer = .error error) → later.entries = disk.entries

variable {files : TableFiles} {disk later : Disk} {path : List String}
  {entries inner : Keyed Entry}

/-! ## What the calls leave behind -/

theorem load_congr (hfolder : disk.FolderAt files.folder path entries)
    (hinner : later.FolderAt files.folder path inner) {name : String}
    (hname : isTableName name = true)
    (hsame : Keyed.find? (files.format.tableFile name) inner =
      Keyed.find? (files.format.tableFile name) entries) :
    files.load name later = files.load name disk := by
  rw [load_eq hinner hname, load_eq hfolder hname, hsame]

theorem mem_discovered_iff_file (hentries : Keyed.Sorted entries)
    (hfolder : disk.FolderAt files.folder path entries) {names : List String}
    (hnames : files.discover disk = .ok names) {name : String} :
    name ∈ names ↔ isTableName name = true ∧ ∃ serial content,
      Keyed.find? (files.format.tableFile name) entries = some (.file serial content) := by
  rw [mem_discovered hentries hfolder hnames, Option.isSome_iff_exists]
  simp only [Format.stored_eq_some_iff]
  constructor
  · rintro ⟨hname, found, serial, content, hfile, -⟩
    exact ⟨hname, serial, content, hfile⟩
  · rintro ⟨hname, serial, content, hfile⟩
    exact ⟨hname, _, serial, content, hfile, rfl⟩

theorem discover_eq_ok (hentries : Keyed.Sorted entries)
    (hfolder : disk.FolderAt files.folder path entries) :
    ∃ names, files.discover disk = .ok names ∧ names.Pairwise (· < ·) :=
  ⟨_, discover_of_list hfolder.list_eq, pairwise_tablesOf hentries⟩

/-- A folder with one file put in, or taken out, stores what that file contains. -/
theorem stores_put (hdisk : disk.WellFormed)
    (hfolder : disk.FolderAt files.folder path entries) {name : String}
    (hname : isTableName name = true)
    (hfree : ∀ sub, Keyed.find? (files.format.tableFile name) entries ≠ some (.folder sub))
    {present : Option Entry} (hlater : later.entries =
      (disk.refill (put (files.format.tableFile name) present entries) path).entries)
    {table? : Option Table}
    (hpresent : match table? with
      | some table => ∃ serial content, present = some (.file serial content) ∧
          Table.decode files.format name content = .ok table
      | none => present = none) :
    files.Stores path entries disk later name table? := by
  have hentries := hdisk.find hfolder.find
  have hsorted := hentries.sorted
  have hentry : ∀ entry, present = some entry → entry.WellFormed := by
    rintro entry rfl
    cases table? with
    | none => cases hpresent
    | some table =>
        obtain ⟨serial, content, heq, -⟩ := hpresent
        cases heq
        trivial
  have hplaced := hentries.put (isSimpleName_tableFile hname files.format) hentry
  have hformed : later.WellFormed := by
    rw [Disk.WellFormed, hlater]
    exact hdisk.refill hplaced path
  have hinner : later.FolderAt files.folder path
      (put (files.format.tableFile name) present entries) :=
    (hfolder.put hfree present).congr hlater
  have hself := find?_put_self hsorted (files.format.tableFile name) present
  refine ⟨⟨_, hformed, hlater, hinner, fun file hne => find?_put_of_ne hne present entries⟩,
    ?_, fun other hother hne => ?_, fun names hnames => ?_⟩
  · rw [load_eq hinner hname, hself]
    cases table? with
    | none =>
        rw [hpresent]
        rfl
    | some table =>
        obtain ⟨serial, content, heq, hdecode⟩ := hpresent
        rw [heq]
        simp only [decode, hdecode]
        rfl
  · exact load_congr hfolder hinner hother
      (find?_put_of_ne ((tableFile_injective files.format).ne hne) present entries)
  · obtain ⟨found, hfound, hordered⟩ := discover_eq_ok hplaced.sorted hinner
    refine ⟨found, hfound, hordered, fun other => ?_⟩
    rw [mem_discovered_iff_file hplaced.sorted hinner hfound]
    split_ifs with heq
    · rw [heq, hself]
      cases table? with
      | none => simp [hpresent]
      | some table =>
          obtain ⟨serial, content, hfile, -⟩ := hpresent
          simp [hname, hfile]
    · rw [find?_put_of_ne ((tableFile_injective files.format).ne heq),
        mem_discovered_iff_file hsorted hfolder hnames]

theorem stores_flush (hdisk : disk.WellFormed)
    (hfolder : disk.FolderAt files.folder path entries) {name : String}
    (hname : isTableName name = true) {table : Table} (htable : table.Storable files.format)
    (hflush : files.flush name table disk = (.ok (), later)) :
    files.Stores path entries disk later name (some table) := by
  obtain ⟨hfree, serial, hlater⟩ := flush_eq_ok hdisk hfolder hname hflush
  exact stores_put hdisk hfolder hname hfree hlater
    ⟨serial, _, rfl, htable.readable.decode_encode hname htable.fits files.indented⟩

theorem stores_remove (hdisk : disk.WellFormed)
    (hfolder : disk.FolderAt files.folder path entries) {name : String}
    (hname : isTableName name = true) {existed : Bool}
    (hremove : files.remove name disk = .ok (existed, later)) :
    (existed = true ↔ ∃ serial content,
      Keyed.find? (files.format.tableFile name) entries = some (.file serial content)) ∧
      files.Stores path entries disk later name none := by
  obtain ⟨hfree, rfl⟩ := remove_eq_ok hdisk hfolder hname hremove
  refine ⟨?_, stores_put hdisk hfolder hname hfree rfl rfl⟩
  have hexisted := remove_fst hfolder hname
  rw [hremove] at hexisted
  obtain ⟨⟨⟩, -, hbody⟩ := bind_eq_ok_iff.mp hexisted.symm
  rcases hfind : Keyed.find? (files.format.tableFile name) entries with _ | ⟨serial, content⟩ | sub
  · rw [hfind] at hbody
    cases hbody
    simp
  · rw [hfind] at hbody
    cases hbody
    simp
  · exact absurd hfind (hfree sub)

theorem lacks_sweep (hdisk : disk.WellFormed)
    (hfolder : disk.FolderAt files.folder path entries) :
    ∃ removed, removed <+: staleNames entries ∧
      files.Lacks path entries disk (files.sweep disk).2 removed ∧
      ∀ count, (files.sweep disk).1 = .ok count →
        removed = staleNames entries ∧ count = removed.length := by
  have hsorted := (hdisk.find hfolder.find).sorted
  obtain ⟨removed, hstale, hswept, hall⟩ := sweep_spec hdisk hfolder
  obtain ⟨hformed, -, hinner⟩ := folderAt_sweep hdisk hfolder hstale
  rw [hswept]
  have hfound := hsorted.find?_eraseAll removed
  have hkept : ∀ name, isTableName name = true →
      Keyed.find? (files.format.tableFile name) (Keyed.eraseAll removed entries) =
        Keyed.find? (files.format.tableFile name) entries := by
    intro name hname
    have hregular := notMem_staleNames hsorted (isTemporary_tableFile hname files.format)
    rw [hfound, if_neg fun hmem => hregular (hstale.subset hmem)]
  refine ⟨removed, hstale, ⟨⟨_, hformed, rfl, hinner, hfound⟩, fun name hname => ?_, ?_⟩,
    fun count hcount => ?_⟩
  · exact load_congr hfolder hinner hname (hkept name hname)
  · obtain ⟨names, hnames, hordered⟩ := discover_eq_ok hsorted hfolder
    obtain ⟨found, hagain, hsame⟩ := discover_eq_ok (Keyed.sorted_eraseAll hsorted) hinner
    rw [hnames, hagain, hsame.eq_of_mem_iff hordered]
    intro name
    rw [mem_discovered_iff_file (Keyed.sorted_eraseAll hsorted) hinner hagain,
      mem_discovered_iff_file hsorted hfolder hnames]
    exact and_congr_right fun hname => by rw [hkept name hname]
  · obtain ⟨rfl, hlength⟩ := hall count hcount
    exact ⟨rfl, hlength⟩

theorem flush_squatted (hdisk : disk.WellFormed)
    (hfolder : disk.FolderAt files.folder path entries) {name : String} {sub : Keyed Entry}
    (hname : isTableName name = true)
    (hsquatted : Keyed.find? (files.format.tableFile name) entries = some (.folder sub))
    (table : Table) : ∃ refusal, (files.flush name table disk).1 = .error refusal := by
  rcases hflush : files.flush name table disk with ⟨refusal | ⟨⟩, later⟩
  · exact ⟨refusal, rfl⟩
  · exact absurd hsquatted ((flush_eq_ok hdisk hfolder hname hflush).1 sub)

theorem stale_ne (hentries : Keyed.Sorted entries) {file : String}
    (hfile : file ∈ staleNames entries) : file ≠ lockFile ∧
      ∀ format name, isTableName name = true → file ≠ Format.tableFile format name := by
  refine ⟨fun heq => ?_, fun format name hname heq => ?_⟩
  · rw [heq] at hfile
    exact notMem_staleNames hentries isTemporary_lockFile hfile
  · rw [heq] at hfile
    exact notMem_staleNames hentries (isTemporary_tableFile hname format) hfile

theorem perform_idle (hdisk : disk.WellFormed) {call : FileCall}
    {answer : Except Error FileAnswer} (hperform : call.perform files disk = (answer, later))
    (hsweep : call ≠ .sweep) (hidle : call.Reads ∨ ∃ error, answer = .error error) :
    later.entries = disk.entries := by
  cases call with
  | load name | discover =>
      cases hperform
      rfl
  | sweep => exact absurd rfl hsweep
  | flush name table =>
      obtain ⟨error, rfl⟩ := hidle.resolve_left nofun
      rcases hflush : files.flush name table disk with ⟨refusal | ⟨⟩, left⟩
      · have hrefused : (files.flush name table disk).1 = .error refusal := by rw [hflush]
        obtain ⟨serial, -, hleft⟩ := flush_refused hdisk hrefused
        rw [hflush] at hleft
        simp only [FileCall.perform, hflush, hleft] at hperform
        cases hperform
        rfl
      · simp only [FileCall.perform, hflush] at hperform
        cases hperform
  | remove name =>
      obtain ⟨error, rfl⟩ := hidle.resolve_left nofun
      cases hremove : files.remove name disk with
      | error refusal =>
          rw [FileCall.perform, hremove] at hperform
          cases hperform
          rfl
      | ok outcome =>
          rw [FileCall.perform, hremove] at hperform
          cases hperform

/-- In every folder the table files act as a map. -/
theorem actsAsMap (hdisk : disk.WellFormed) (hfolder : disk.FolderAt files.folder path entries) :
    files.ActsAsMap path entries disk := by
  have hsorted := (hdisk.find hfolder.find).sorted
  obtain ⟨names, hnames, hordered⟩ := discover_eq_ok hsorted hfolder
  constructor
  case discovers =>
    exact ⟨names, hnames, hordered, fun name => mem_discovered_iff_file hsorted hfolder hnames⟩
  case flushed => exact fun hname htable hflush => stores_flush hdisk hfolder hname htable hflush
  case squatted => exact fun hname hsquatted => flush_squatted hdisk hfolder hname hsquatted
  case removed => exact fun hname hremove => stores_remove hdisk hfolder hname hremove
  case swept => exact lacks_sweep hdisk hfolder
  case sweeps => exact fun hpermitted => ⟨_, sweep_of_permitted hdisk hfolder hpermitted⟩
  case stale => exact fun file => mem_staleNames hsorted
  case spared => exact fun file => stale_ne hsorted
  case idle => exact fun hperform => perform_idle hdisk hperform

/-! ## Runs -/

/-- The later disk differs from the earlier one in the folder, where these tables are loaded. -/
structure Holds (files : TableFiles) (path : List String) (disk later : Disk)
    (tables : String → Except Error Table) : Prop where
  folder : ∃ inner, later.WellFormed ∧ later.entries = Entry.refill inner path disk.entries ∧
    later.FolderAt files.folder path inner
  loads : ∀ name, isTableName name = true → files.load name later = tables name

theorem holds_of_entries_eq (hdisk : disk.WellFormed)
    (hfolder : disk.FolderAt files.folder path entries) (hsame : later.entries = disk.entries) :
    files.Holds path disk later fun name => files.load name disk := by
  have hinner : later.FolderAt files.folder path entries := hfolder.congr hsame
  have hself := congrArg Disk.entries (hdisk.refill_self hfolder.find)
  refine ⟨⟨entries, ?_, hsame.trans hself.symm, hinner⟩, fun name hname => ?_⟩
  · rw [Disk.WellFormed, hsame]
    exact hdisk
  · exact load_congr hfolder hinner hname rfl

theorem Stores.holds {name : String} {table? : Option Table}
    (hstores : files.Stores path entries disk later name table?) :
    files.Holds path disk later fun other =>
      if other = name then loadedAs other table? else files.load other disk := by
  obtain ⟨inner, hformed, hlater, hinner, -⟩ := hstores.folder
  refine ⟨⟨inner, hformed, hlater, hinner⟩, fun other hother => ?_⟩
  split_ifs with heq
  · rw [heq]
    exact hstores.own
  · exact hstores.others other hother heq

theorem Lacks.holds {removed : List String}
    (hlacks : files.Lacks path entries disk later removed) :
    files.Holds path disk later fun name => files.load name disk := by
  obtain ⟨inner, hformed, hlater, hinner, -⟩ := hlacks.folder
  exact ⟨⟨inner, hformed, hlater, hinner⟩, hlacks.loaded⟩

/-- One call records in the folder what it was answered. -/
theorem holds_perform (hdisk : disk.WellFormed)
    (hfolder : disk.FolderAt files.folder path entries) {call : FileCall}
    (hcall : call.Admissible files.format) {answer : Except Error FileAnswer}
    (hperform : call.perform files disk = (answer, later)) :
    files.Holds path disk later
      (recorded (fun name => files.load name disk) (call, answer)) := by
  have hacts := actsAsMap hdisk hfolder
  have hidle := hacts.idle hperform
  cases call with
  | load name | discover =>
      exact holds_of_entries_eq hdisk hfolder (hidle (by simp) (.inl trivial))
  | sweep =>
      cases hperform
      obtain ⟨removed, -, hlacks, -⟩ := hacts.swept
      exact hlacks.holds
  | flush name table =>
      cases answer with
      | error error => exact holds_of_entries_eq hdisk hfolder (hidle (by simp) (.inr ⟨error, rfl⟩))
      | ok answer =>
          rcases hflush : files.flush name table disk with ⟨refusal | ⟨⟩, left⟩
          · simp only [FileCall.perform, hflush] at hperform
            cases hperform
          · simp only [FileCall.perform, hflush] at hperform
            cases hperform
            exact (hacts.flushed hcall.1 hcall.2 hflush).holds
  | remove name =>
      cases answer with
      | error error => exact holds_of_entries_eq hdisk hfolder (hidle (by simp) (.inr ⟨error, rfl⟩))
      | ok answer =>
          cases hremove : files.remove name disk with
          | error refusal =>
              rw [FileCall.perform, hremove] at hperform
              cases hperform
          | ok outcome =>
              rw [FileCall.perform, hremove] at hperform
              cases hperform
              exact (hacts.removed hcall hremove).2.holds

/-- What a call records under a name depends only on what was there before. -/
theorem recorded_congr {tables others : String → Except Error Table} {name : String}
    (hsame : tables name = others name) (step : FileCall × Except Error FileAnswer) :
    recorded tables step name = recorded others step name := by
  unfold recorded
  split <;> simp only [hsame]

theorem foldl_recorded_congr {tables others : String → Except Error Table} {name : String}
    (hsame : tables name = others name) (steps : List (FileCall × Except Error FileAnswer)) :
    steps.foldl recorded tables name = steps.foldl recorded others name := by
  induction steps generalizing tables others with
  | nil => exact hsame
  | cons step rest ih => exact ih (recorded_congr hsame step)

theorem holds_run (hdisk : disk.WellFormed)
    (hfolder : disk.FolderAt files.folder path entries) {requests : List FileRequest}
    (hrequests : ∀ request ∈ requests, request.call.Admissible files.format) :
    files.Holds path disk (files.run requests disk).2
      ((files.run requests disk).1.foldl recorded fun name => files.load name disk) := by
  induction requests generalizing disk entries with
  | nil => exact holds_of_entries_eq hdisk hfolder rfl
  | cons request rest ih =>
      rw [List.forall_mem_cons] at hrequests
      -- What the system refuses changes from request to request, and no table is loaded from it.
      have hformedDenied : ({ disk with denied := request.denied } : Disk).WellFormed := hdisk
      have hdenied : ({ disk with denied := request.denied } : Disk).FolderAt files.folder path
          entries := hfolder.congr rfl
      rcases hperform : request.call.perform files { disk with denied := request.denied } with
        ⟨answer, later⟩
      have hfirst := holds_perform hformedDenied hdenied hrequests.1 hperform
      obtain ⟨inner, hformed, hlater, hinner⟩ := hfirst.folder
      have hrest := ih hformed hinner hrequests.2
      obtain ⟨last, hreached, hentries, hlast⟩ := hrest.folder
      simp only [run, hperform]
      refine ⟨⟨last, hreached, ?_, hlast⟩, fun name hname => ?_⟩
      · rw [hentries, hlater]
        exact Entry.refill_refill hdisk hfolder.find inner last
      · rw [hrest.loads name hname, List.foldl_cons]
        apply foldl_recorded_congr
        rw [hfirst.loads name hname]
        exact recorded_congr (load_congr hfolder hdenied hname rfl) _

/-- Any run of calls on valid names and on tables that can be stored leaves a folder in which tables
are loaded as the calls have recorded them.  Nothing is changed outside the folder, and in the folder
that is reached the table files act as a map, whatever the system refuses. -/
theorem storage_acts_as_map (hdisk : disk.WellFormed)
    (hfolder : disk.FolderAt files.folder path entries) {requests : List FileRequest}
    (hrequests : ∀ request ∈ requests, request.call.Admissible files.format) :
    ∃ inner, let reached := files.run requests disk
      reached.2.entries = Entry.refill inner path disk.entries ∧
        reached.2.FolderAt files.folder path inner ∧
        (∀ name, isTableName name = true → files.load name reached.2 =
          reached.1.foldl recorded (fun name => files.load name disk) name) ∧
        ∀ denied, files.ActsAsMap path inner { reached.2 with denied } := by
  have hholds := holds_run hdisk hfolder hrequests
  obtain ⟨inner, hformed, hentries, hinner⟩ := hholds.folder
  refine ⟨inner, hentries, hinner, hholds.loads, fun denied => ?_⟩
  have hformedDenied : ({ (files.run requests disk).2 with denied } : Disk).WellFormed := hformed
  exact actsAsMap hformedDenied (hinner.congr rfl)

private def cabinet : TableFiles :=
  ⟨⟨["cabinet"]⟩, .json, false⟩

private def squatted : Keyed Entry :=
  [(".old.tmp", .file 0 []), (lockFile, .file 1 []), ("b.json", .folder [])]

private def squattedDisk : Disk :=
  { Disk.empty with entries := [("cabinet", .folder squatted)], nextSerial := 2 }

/-- A folder is in place of the file of `b`, and the file of `a` is removed in the end. -/
private def fileRequests : List FileRequest :=
  [⟨.flush "a" Table.empty, fun _ => none⟩, ⟨.flush "c" Table.empty, fun _ => none⟩,
    ⟨.flush "b" Table.empty, fun _ => none⟩, ⟨.sweep, fun _ => none⟩, ⟨.remove "a", fun _ => none⟩]

theorem storage_acts_as_map_squatted :
    (cabinet.run fileRequests squattedDisk).1.map Prod.snd = [.ok .written, .ok .written,
        .error (.disk .isFolder), .ok (.count 1), .ok (.existed true)] ∧
      cabinet.load "a" (cabinet.run fileRequests squattedDisk).2 = .error (.tableNotFound "a") ∧
      cabinet.load "b" (cabinet.run fileRequests squattedDisk).2 = .error (.disk .isFolder) ∧
      cabinet.load "c" (cabinet.run fileRequests squattedDisk).2 = .ok Table.empty := by
  have hdisk : squattedDisk.WellFormed := by
    simp +decide [Disk.WellFormed, squattedDisk, squatted, Entry.WellFormed, Entry.AllWellFormed,
      Keyed.Sorted, lockFile]
  have hempty : Table.empty.Storable .json := ⟨Table.readable_empty .json, by simp⟩
  have hrequests : ∀ request ∈ fileRequests, request.call.Admissible cabinet.format := by
    simp only [fileRequests, List.forall_mem_cons]
    exact ⟨⟨by decide, hempty⟩, ⟨by decide, hempty⟩, ⟨by decide, hempty⟩, trivial,
      show isTableName "a" = true by decide, by simp⟩
  obtain ⟨inner, -, -, hloads, -⟩ := storage_acts_as_map hdisk ⟨rfl, rfl⟩ hrequests
  refine ⟨by with_unfolding_all rfl, ?_, ?_, ?_⟩
  · rw [hloads "a" (by decide)]
    with_unfolding_all rfl
  · rw [hloads "b" (by decide)]
    with_unfolding_all rfl
  · rw [hloads "c" (by decide)]
    with_unfolding_all rfl

end TableFiles

end DocumentStore
