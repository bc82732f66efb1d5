import DocumentStore.Proofs.Database.Handles
import DocumentStore.Proofs.Database.Reachable

/-!
# Exclusive owners

At every moment a directory has at most one owner.  To open or to lock it is refused as long as it
has one, and it is free again when the owner is no longer alive: when the last handle on its database,
clones included, is closed, or when its lock is given up.
-/

namespace DocumentStore

namespace Host

variable {host later : Host} {owner : Owner} {dir : List String}

/-! ## Owners in one step -/

/-- An owner keeps its directory as long as it is alive. -/
theorem Follows.owns_iff (hfollows : host.Follows later) (hhost : host.Sound)
    (hlater : later.Sound) (howns : host.Owns owner dir) :
    later.Owns owner dir ↔ later.Live owner := by
  obtain ⟨serial, hholds, hlock⟩ := howns
  constructor
  · intro howns
    exact (hlater.live_iff_owns owner).mpr ⟨dir, howns⟩
  · intro hlive
    have hkept := hfollows.disk.lockAt hhost.disk hlock
    exact ⟨serial, hfollows.kept owner serial hholds hlive, hkept⟩

/-- Nobody else takes a directory in the step in which its owner leaves it. -/
theorem Follows.owned_iff (hfollows : host.Follows later) (hhost : host.Sound)
    (hlater : later.Sound) (howns : host.Owns owner dir) :
    (∃ other, later.Owns other dir) ↔ later.Live owner := by
  constructor
  · rintro ⟨other, number, hnumber, hat⟩
    obtain ⟨serial, hholds, hlock⟩ := howns
    have hkept := hfollows.disk.lockAt hhost.disk hlock
    obtain rfl := hkept.unique hat
    rcases hfollows.new other serial hnumber with hold | hnew
    · obtain rfl := hhost.unique other owner serial hold hholds
      exact (hlater.live_iff other).mpr ⟨serial, hnumber⟩
    · exact absurd ((mem_held_iff host serial).mpr ⟨owner, hholds⟩) hnew
  · intro hlive
    exact ⟨owner, (hfollows.owns_iff hhost hlater howns).mpr hlive⟩

/-- A directory whose lock file has a lock that is new was free before. -/
theorem not_owns_of_lockAt (hhost : host.Consistent) {disk : Disk}
    (hkeeps : host.disk.KeepsLocks disk) {serial : Nat} (hlock : disk.LockAt dir serial)
    (hnew : serial ∉ host.held) (owner : Owner) : ¬ host.Owns owner dir := by
  rintro ⟨number, hholds, hat⟩
  obtain rfl := (hkeeps.lockAt hhost.disk hat).unique hlock
  exact hnew ((mem_held_iff host number).mpr ⟨owner, hholds⟩)

theorem owns_withDisk_iff (hhost : host.Consistent) {disk : Disk}
    (hkeeps : host.disk.KeepsLocks disk) (owner : Owner) (dir : List String) :
    Owns { host with disk } owner dir ↔ host.Owns owner dir := by
  constructor
  · rintro ⟨serial, hholds, hlock⟩
    exact ⟨serial, hholds, (hkeeps.locks dir serial (hhost.lt_nextSerial hholds)).mp hlock⟩
  · rintro ⟨serial, hholds, hlock⟩
    exact ⟨serial, hholds, hkeeps.lockAt hhost.disk hlock⟩

/-! ## Opening -/

/-- Opening a database is refused exactly if its directory has an owner.  An attempt that fails, be it
after the lock has been taken, leaves all owners as they are. -/
structure OpensExclusively (host : Host) (options : Options) (handle : String) : Prop where
  refused_iff : (∃ text, (host.openDatabase options handle).1 = .error (.directoryLocked text)) ↔
    ∃ made dir owner, host.disk.makeFolders options.folder = .ok made ∧
      made.resolve options.folder = .ok dir ∧ host.Owns owner dir
  /-- A refusal touches no file, and nothing at all where no folder had to be made. -/
  refused : ∀ text, (host.openDatabase options handle).1 = .error (.directoryLocked text) →
    host.disk.SameFiles (host.openDatabase options handle).2.disk ∧
      (host.disk.IsWayOfFolders options.folder → (host.openDatabase options handle).2 = host)
  failed : ∀ error, (host.openDatabase options handle).1 = .error error →
    (∃ disk, (host.openDatabase options handle).2 = { host with disk }) ∧
      ∀ owner dir, (host.openDatabase options handle).2.Owns owner dir ↔ host.Owns owner dir
  /-- The new database takes a directory that was free. -/
  opened : ∀ database, (host.openDatabase options handle).1 = .ok database →
    ∃ dir entries,
      (host.openDatabase options handle).2.disk.FolderAt options.folder dir entries ∧
        (host.openDatabase options handle).2.Owns (.database host.nextDatabase) dir ∧
        ∀ owner, ¬ host.Owns owner dir

theorem Sound.isLocked_iff (hhost : host.Sound) (options : Options) :
    Database.IsLocked options host.held host.disk ↔
      ∃ made dir owner, host.disk.makeFolders options.folder = .ok made ∧
        made.resolve options.folder = .ok dir ∧ host.Owns owner dir := by
  constructor
  · rintro ⟨made, hmake, hheld⟩
    have hkeeps := Disk.keepsLocks_makeFolders hhost.disk hmake
    obtain ⟨dir, owner, hdir, howns⟩ := (isHeld_iff { host with disk := made } _).mp hheld
    exact ⟨made, dir, owner, hmake, hdir,
      (owns_withDisk_iff hhost.toConsistent hkeeps owner dir).mp howns⟩
  · rintro ⟨made, dir, owner, hmake, hdir, howns⟩
    have hkeeps := Disk.keepsLocks_makeFolders hhost.disk hmake
    exact ⟨made, hmake, (isHeld_iff { host with disk := made } _).mpr
      ⟨dir, owner, hdir, (owns_withDisk_iff hhost.toConsistent hkeeps owner dir).mpr howns⟩⟩

theorem openDatabase_fst (options : Options) (handle : String) (host : Host) :
    (host.openDatabase options handle).1 =
      (Database.openFolder options host.held host.disk).1 := by
  rcases hopen : Database.openFolder options host.held host.disk with ⟨error | database, disk⟩
  · rw [openDatabase_eq_error hopen]
  · rw [openDatabase_eq_ok hopen]

theorem holds_release_withDatabase (hhost : host.Consistent) (database : Database)
    (handle : String) :
    (host.withDatabase database handle).release.Holds (.database host.nextDatabase)
      database.lock.serial := by
  have hhandles : Keyed.Sorted (host.withDatabase database handle).handles :=
    Keyed.sorted_insert hhost.handles
  have hlocks : Keyed.Sorted (host.withDatabase database handle).locks := hhost.locks
  rw [holds_release_iff hhandles hlocks]
  exact ⟨⟨database, List.mem_cons_self, rfl⟩, handle, Keyed.find?_insert_self ..⟩

theorem Sound.opensExclusively (hhost : host.Sound) (options : Options) (handle : String) :
    host.OpensExclusively options handle := by
  have hconsistent := hhost.toConsistent
  have hlocked : (∃ text, (Database.openFolder options host.held host.disk).1 =
      .error (.directoryLocked text)) ↔ Database.IsLocked options host.held host.disk :=
    Database.openFolder_eq_directoryLocked_iff hhost.disk hhost.held_lt
  have hkeeps : host.disk.KeepsLocks (Database.openFolder options host.held host.disk).2 :=
    Database.keepsLocks_openFolder hhost.disk hhost.held_lt
  refine ⟨?_, fun text hrefused => ?_, fun error herror => ?_, fun database hopened => ?_⟩
  · rw [openDatabase_fst, hlocked, hhost.isLocked_iff]
  · rw [openDatabase_fst] at hrefused
    obtain ⟨made, hmake, hheld⟩ := hlocked.mp ⟨text, hrefused⟩
    rw [openDatabase_eq_error (Database.openFolder_of_isHeld hmake hheld)]
    refine ⟨Disk.sameFiles_makeFolders hhost.disk.wellFormed hmake, fun hway => ?_⟩
    cases (Disk.makeFolders_of_isWayOfFolders hway).symm.trans hmake
    rfl
  · rw [openDatabase_fst] at herror
    rw [openDatabase_eq_error (Prod.ext herror rfl)]
    exact ⟨⟨_, rfl⟩, owns_withDisk_iff hconsistent hkeeps⟩
  · rw [openDatabase_fst] at hopened
    have hopen : Database.openFolder options host.held host.disk =
        (.ok database, (Database.openFolder options host.held host.disk).2) := Prod.ext hopened rfl
    obtain ⟨-, hnew⟩ := Database.notMem_of_openFolder hhost.disk hhost.held_lt hopened
    obtain ⟨dir, entries, hfolder, hlock⟩ :=
      Database.lockAt_of_openFolder hhost.disk.wellFormed hopen
    have hholds := holds_release_withDatabase (hconsistent.withDisk hkeeps) database handle
    rw [openDatabase_eq_ok hopen]
    exact ⟨dir, entries, hfolder, ⟨_, hholds, hlock⟩,
      not_owns_of_lockAt hconsistent hkeeps hlock hnew⟩

/-! ## Locking -/

/-- Locking a folder is refused exactly if its directory has an owner.  An attempt that fails changes
nothing. -/
structure LocksExclusively (host : Host) (folder : Location) (name : String) : Prop where
  refused_iff :
    (∃ text, (host.lock (folder.join lockFile) name).1 = .error (.directoryLocked text)) ↔
      ∃ dir owner, host.disk.resolve folder = .ok dir ∧ host.Owns owner dir
  failed : ∀ error, (host.lock (folder.join lockFile) name).1 = .error error →
    (host.lock (folder.join lockFile) name).2 = host
  /-- The new lock takes a directory that was free. -/
  locked : ∀ lock, (host.lock (folder.join lockFile) name).1 = .ok lock →
    ∃ dir, (host.lock (folder.join lockFile) name).2.disk.resolve folder = .ok dir ∧
      (host.lock (folder.join lockFile) name).2.Owns (.lock name lock) dir ∧
      ∀ owner, ¬ host.Owns owner dir

theorem Sound.locksExclusively (hhost : host.Sound) (folder : Location) (name : String) :
    host.LocksExclusively folder name := by
  have hconsistent := hhost.toConsistent
  rcases lock_cases hconsistent folder name with
    ⟨hheld, hlock⟩ | ⟨hfree, ⟨refusal, hlock⟩ | ⟨lock, disk, hlock, hkeeps, hnew, dir, hdir, hat⟩⟩
  · refine ⟨?_, by simp [hlock], by simp [hlock]⟩
    rw [← isHeld_iff]
    simp [hlock, hheld]
  · refine ⟨?_, by simp [hlock], by simp [hlock]⟩
    rw [← isHeld_iff]
    simp [hlock, hfree]
  · refine ⟨?_, by simp [hlock], ?_⟩
    · rw [← isHeld_iff]
      simp [hlock, hfree]
    · have hmem : (name, lock) ∈ Keyed.insert name lock host.locks :=
        (Keyed.sorted_insert hconsistent.locks).find?_eq_some_iff.mp (Keyed.find?_insert_self ..)
      rw [hlock]
      rintro _ ⟨⟩
      exact ⟨dir, hdir, ⟨lock.serial, ⟨hmem, rfl⟩, hat⟩,
        not_owns_of_lockAt hconsistent hkeeps hat hnew⟩

/-! ## Closing -/

theorem live_close_iff (hhost : host.Consistent) (handle : String) (number : Nat) :
    (host.close handle).2.Live (.database number) ↔
      ∃ other, Keyed.find? other host.handles = some number ∧ other ≠ handle := by
  change (∃ other, Keyed.find? other (Keyed.erase handle host.handles) = some number) ↔ _
  simp only [hhost.handles.find?_erase, Option.ite_none_left_eq_some, and_comm, ne_eq]

/-- A directory becomes free exactly when the last handle on its database is closed. -/
theorem Sound.free_close_iff (hhost : host.Sound) {number : Nat}
    (howns : host.Owns (.database number) dir) (handle : String) :
    (∀ owner, ¬ (host.close handle).2.Owns owner dir) ↔
      ∀ other, Keyed.find? other host.handles = some number → other = handle := by
  obtain ⟨hlater, hfollows⟩ := hhost.close handle
  rw [← not_exists, hfollows.owned_iff hhost hlater howns, live_close_iff hhost.toConsistent]
  push Not
  rfl

/-- A lock that is given up leaves its directory free. -/
theorem Sound.free_unlock (hhost : host.Sound) {name : String} {lock : Lock}
    (howns : host.Owns (.lock name lock) dir) (other : Owner) :
    ¬ (host.unlock name).2.Owns other dir := by
  obtain ⟨hlater, hfollows⟩ := hhost.unlock name
  have hdead : ¬ (host.unlock name).2.Live (.lock name lock) := by
    intro hlive
    have hkept : Keyed.find? name (Keyed.erase name host.locks) = some lock := hlive
    rw [hhost.locks.find?_erase_self] at hkept
    cases hkept
  rw [← hfollows.owned_iff hhost hlater howns, not_exists] at hdead
  exact hdead other

/-! ## Every state -/

/-- In every state that opening, sharing, closing, locking and unlocking lead to, with requests in
between, a directory has at most one owner.  Opening and locking are refused exactly while there is
one, and an owner keeps its directory, which nobody else takes, exactly as long as it is alive.  A
clone is one more handle on its database, which keeps it alive when the others are closed. -/
theorem Reachable.one_owner_per_directory (hreachable : host.Reachable) :
    (∀ owner, host.Live owner ↔ ∃ dir, host.Owns owner dir) ∧
      (∀ first second dir, host.Owns first dir → host.Owns second dir → first = second) ∧
      (∀ options handle, host.OpensExclusively options handle) ∧
      (∀ folder name, host.LocksExclusively folder name) ∧
      (∀ later owner dir, host.Step later → host.Owns owner dir →
        (later.Owns owner dir ↔ later.Live owner) ∧
          ((∃ other, later.Owns other dir) ↔ later.Live owner)) ∧
      (∀ number dir handle, host.Owns (.database number) dir →
        ((∀ owner, ¬ (host.close handle).2.Owns owner dir) ↔
          ∀ other, Keyed.find? other host.handles = some number → other = handle)) ∧
      (∀ name lock dir, host.Owns (.lock name lock) dir →
        ∀ owner, ¬ (host.unlock name).2.Owns owner dir) ∧
      host.FollowsNames := by
  have hhost := hreachable.sound
  refine ⟨hhost.live_iff_owns, fun first second dir => hhost.owner_unique,
    hhost.opensExclusively, hhost.locksExclusively, fun later owner dir hstep howns => ?_,
    fun number dir handle howns => hhost.free_close_iff howns handle,
    fun name lock dir howns => hhost.free_unlock howns, hhost.followsNames⟩
  obtain ⟨hlater, hfollows⟩ := hhost.step hstep
  exact ⟨hfollows.owns_iff hhost hlater howns, hfollows.owned_iff hhost hlater howns⟩

/-- A host with one database that has one handle. -/
private def opened : Host :=
  Host.empty.act (.openDatabase { folder := ⟨["fresh"]⟩ } "a")

private theorem opened_eq :
    opened = ⟨Database.freshDisk, [(0, Database.fresh)], 1, [("a", 0)], []⟩ := by
  rw [opened, act, openDatabase_eq_ok Database.openFolder_fresh]
  rfl

private theorem reachable_opened : opened.Reachable := by
  have hempty : Disk.empty.Sound :=
    ⟨Disk.wellFormed_empty, fun path serial content hfile => by
      cases path with
      | nil => exact absurd hfile Entry.not_hasFile_nil
      | cons name rest =>
          obtain ⟨-, next, hnext, -⟩ := Entry.hasFile_cons_iff.mp hfile
          cases hnext⟩
  exact .step (.start hempty rfl rfl rfl) (.act _)

/-- The same host with a clone of the handle. -/
private def shared : Host :=
  opened.act (.clone "a" "b")

private theorem shared_eq :
    shared = ⟨Database.freshDisk, [(0, Database.fresh)], 1, [("a", 0), ("b", 0)], []⟩ := by
  rw [shared, opened_eq]
  rfl

/-- The clone when the handle that it was made from is closed. -/
private def cloned : Host :=
  shared.act (.close "a")

private theorem cloned_eq :
    cloned = ⟨Database.freshDisk, [(0, Database.fresh)], 1, [("b", 0)], []⟩ := by
  rw [cloned, shared_eq]
  rfl

/-- The clone keeps the directory when the first handle is closed: it is not opened or locked again
before the clone is closed as well. -/
theorem one_owner_per_directory_cloned :
    shared.database? "b" = opened.database? "a" ∧
      shared.Owns (.database 0) ["fresh"] ∧ (shared.close "a").2 = cloned ∧
      cloned.Owns (.database 0) ["fresh"] ∧
      (∃ text, (cloned.openDatabase { folder := ⟨["fresh"]⟩ } "c").1 =
        .error (.directoryLocked text)) ∧
      (cloned.lock (Location.join ⟨["fresh"]⟩ lockFile) "c").2 = cloned ∧
      ∀ owner, ¬ (cloned.close "b").2.Owns owner ["fresh"] := by
  have hshared : shared.Reachable := reachable_opened.step (.act (.clone "a" "b"))
  have hcloned : cloned.Reachable := hshared.step (.act (.close "a"))
  obtain ⟨-, -, -, -, -, -, -, hnames⟩ := reachable_opened.one_owner_per_directory
  obtain ⟨-, -, -, -, hsteps, -⟩ := hshared.one_owner_per_directory
  obtain ⟨-, -, hopens, hlocks, -, hcloses, -⟩ := hcloned.one_owner_per_directory
  have hclone : opened.clone "a" "b" = some shared := by
    rw [opened_eq, shared_eq]
    rfl
  have howns : shared.Owns (.database 0) ["fresh"] := by
    rw [shared_eq]
    exact ⟨0, ⟨Database.fresh, by simp, rfl⟩, [], rfl⟩
  have hlive : cloned.Live (.database 0) := by
    rw [cloned_eq]
    exact ⟨"b", rfl⟩
  have hkept : cloned.Owns (.database 0) ["fresh"] :=
    (hsteps cloned (.database 0) ["fresh"] (.act (.close "a")) howns).1.mpr hlive
  have hdir : cloned.disk.resolve ⟨["fresh"]⟩ = .ok ["fresh"] := by
    rw [cloned_eq]
    rfl
  have hmake : cloned.disk.makeFolders ⟨["fresh"]⟩ = .ok cloned.disk := by
    rw [cloned_eq]
    rfl
  obtain ⟨text, hrefused⟩ := (hlocks ⟨["fresh"]⟩ "c").refused_iff.mpr ⟨_, _, hdir, hkept⟩
  refine ⟨(hnames.cloned "a" "b" shared hclone).2.2 "b", howns, rfl, hkept,
    (hopens _ "c").refused_iff.mpr ⟨_, _, _, hmake, hdir, hkept⟩,
    (hlocks _ "c").failed _ hrefused, (hcloses 0 _ "b" hkept).mpr fun other hother => ?_⟩
  rw [cloned_eq] at hother
  simpa [Keyed.find?, eq_comm] using hother

end Host

end DocumentStore
