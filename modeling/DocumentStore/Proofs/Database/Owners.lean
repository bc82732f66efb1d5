import DocumentStore.Database.Host
import DocumentStore.Proofs.Database.Locking

/-!
# Owners of directories

A directory is owned by whoever holds the lock on its lock file: an open database with all its
handles, or a lock that is kept by itself.  `Host.Sound` says how owners, handles and serial numbers
fit together, and `Host.Follows` says what one step may do to them.
-/

namespace DocumentStore

namespace Host

inductive Owner where
  | database (number : Nat)
  | lock (name : String) (lock : Lock)
deriving DecidableEq

/-- The owner holds the lock on the file with this serial number. -/
def Holds (host : Host) : Owner → Nat → Prop
  | .database number, serial =>
    ∃ database, (number, database) ∈ host.databases ∧ database.lock.serial = serial
  | .lock name lock, serial => (name, lock) ∈ host.locks ∧ lock.serial = serial

def Owns (host : Host) (owner : Owner) (dir : List String) : Prop :=
  ∃ serial, host.Holds owner serial ∧ host.disk.LockAt dir serial

/-- The database has a handle, or the lock is still kept. -/
def Live (host : Host) : Owner → Prop
  | .database number => ∃ handle, Keyed.find? handle host.handles = some number
  | .lock name lock => Keyed.find? name host.locks = some lock

/-! ## The invariant -/

/-- Every lock that is held is on a lock file, and nobody else holds it. -/
structure Exclusive (host : Host) : Prop where
  disk : host.disk.Sound
  placed : ∀ owner serial, host.Holds owner serial → ∃ dir, host.disk.LockAt dir serial
  unique : ∀ first second serial, host.Holds first serial → host.Holds second serial →
    first = second

/-- Handles, numbers and names fit together. -/
structure Consistent (host : Host) : Prop extends host.Exclusive where
  handles : Keyed.Sorted host.handles
  locks : Keyed.Sorted host.locks
  numbers : (host.databases.map Prod.fst).Nodup
  fresh : ∀ entry ∈ host.databases, entry.1 < host.nextDatabase
  tables : ∀ entry ∈ host.databases, entry.2.Sound
  named : ∀ handle number, Keyed.find? handle host.handles = some number →
    ∃ database, (number, database) ∈ host.databases

/-- Besides, every open database has a handle. -/
structure Sound (host : Host) : Prop extends host.Consistent where
  used : ∀ entry ∈ host.databases, host.Live (.database entry.1)

variable {host later : Host}

theorem mem_held_iff (host : Host) (serial : Nat) :
    serial ∈ host.held ↔ ∃ owner, host.Holds owner serial := by
  rw [held, List.mem_append, List.mem_map, List.mem_map]
  constructor
  · rintro (⟨⟨number, database⟩, hmem, rfl⟩ | ⟨⟨name, lock⟩, hmem, rfl⟩)
    · exact ⟨.database number, database, hmem, rfl⟩
    · exact ⟨.lock name lock, hmem, rfl⟩
  · rintro ⟨number | ⟨name, lock⟩, howner⟩
    · obtain ⟨database, hmem, rfl⟩ := howner
      exact Or.inl ⟨_, hmem, rfl⟩
    · obtain ⟨hmem, rfl⟩ := howner
      exact Or.inr ⟨_, hmem, rfl⟩

theorem Exclusive.lt_nextSerial (hhost : host.Exclusive) {owner : Owner} {serial : Nat}
    (howner : host.Holds owner serial) : serial < host.disk.nextSerial := by
  obtain ⟨dir, hlock⟩ := hhost.placed owner serial howner
  exact hhost.disk.lt_nextSerial hlock

theorem Exclusive.held_lt (hhost : host.Exclusive) :
    ∀ serial ∈ host.held, serial < host.disk.nextSerial := by
  intro serial hserial
  obtain ⟨owner, howner⟩ := (mem_held_iff host serial).mp hserial
  exact hhost.lt_nextSerial howner

/-- Locks are held by one owner each as long as they are not passed on. -/
theorem Exclusive.of_holds (hhost : host.Exclusive) (hdisk : host.disk.KeepsLocks later.disk)
    (hholds : ∀ owner serial, later.Holds owner serial → host.Holds owner serial) :
    later.Exclusive where
  disk := hdisk.sound
  placed := by
    intro owner serial howner
    obtain ⟨dir, hlock⟩ := hhost.placed owner serial (hholds owner serial howner)
    exact ⟨dir, hdisk.lockAt hhost.disk hlock⟩
  unique := by
    intro first second serial hfirst hsecond
    exact hhost.unique first second serial (hholds first serial hfirst)
      (hholds second serial hsecond)

/-- The owners that are alive are those that hold a lock. -/
theorem Sound.live_iff (hhost : host.Sound) (owner : Owner) :
    host.Live owner ↔ ∃ serial, host.Holds owner serial := by
  cases owner with
  | database number =>
      constructor
      · rintro ⟨handle, hhandle⟩
        obtain ⟨database, hmem⟩ := hhost.named handle number hhandle
        exact ⟨_, database, hmem, rfl⟩
      · rintro ⟨serial, database, hmem, -⟩
        exact hhost.used _ hmem
  | lock name lock =>
      rw [Live, hhost.locks.find?_eq_some_iff]
      constructor
      · intro hmem
        exact ⟨_, hmem, rfl⟩
      · rintro ⟨serial, hmem, -⟩
        exact hmem

/-- The owners that are alive are those that own a directory. -/
theorem Sound.live_iff_owns (hhost : host.Sound) (owner : Owner) :
    host.Live owner ↔ ∃ dir, host.Owns owner dir := by
  rw [hhost.live_iff]
  constructor
  · rintro ⟨serial, hholds⟩
    obtain ⟨dir, hlock⟩ := hhost.placed owner serial hholds
    exact ⟨dir, serial, hholds, hlock⟩
  · rintro ⟨dir, serial, hholds, -⟩
    exact ⟨serial, hholds⟩

theorem Exclusive.owner_unique (hhost : host.Exclusive) {first second : Owner}
    {dir : List String} (hfirst : host.Owns first dir) (hsecond : host.Owns second dir) :
    first = second := by
  obtain ⟨serial, hholds, hlock⟩ := hfirst
  obtain ⟨number, hother, hat⟩ := hsecond
  obtain rfl := hlock.unique hat
  exact hhost.unique first second serial hholds hother

/-- A folder is locked if it leads to a directory that is owned. -/
theorem isHeld_iff (host : Host) (folder : Location) :
    Lock.IsHeld folder host.held host.disk ↔
      ∃ dir owner, host.disk.resolve folder = .ok dir ∧ host.Owns owner dir := by
  constructor
  · rintro ⟨dir, serial, hdir, hlock, hheld⟩
    obtain ⟨owner, howner⟩ := (mem_held_iff host serial).mp hheld
    exact ⟨dir, owner, hdir, serial, howner, hlock⟩
  · rintro ⟨dir, owner, hdir, serial, howner, hlock⟩
    exact ⟨dir, serial, hdir, hlock, (mem_held_iff host serial).mpr ⟨owner, howner⟩⟩

/-! ## Releasing -/

theorem mem_release_iff (hhandles : Keyed.Sorted host.handles) (entry : Nat × Database) :
    entry ∈ host.release.databases ↔
      entry ∈ host.databases ∧ host.Live (.database entry.1) := by
  simp only [release, Live, List.mem_filter, List.contains_iff_mem, hhandles.find?_eq_some_iff,
    List.mem_map, Prod.exists, exists_eq_right]

theorem holds_release_iff (hhandles : Keyed.Sorted host.handles)
    (hlocks : Keyed.Sorted host.locks) (owner : Owner) (serial : Nat) :
    host.release.Holds owner serial ↔ host.Holds owner serial ∧ host.Live owner := by
  cases owner with
  | database number =>
      simp only [Holds, mem_release_iff hhandles]
      constructor
      · rintro ⟨database, ⟨hmem, hlive⟩, hserial⟩
        exact ⟨⟨database, hmem, hserial⟩, hlive⟩
      · rintro ⟨⟨database, hmem, hserial⟩, hlive⟩
        exact ⟨database, ⟨hmem, hlive⟩, hserial⟩
  | lock name lock =>
      change (name, lock) ∈ host.locks ∧ lock.serial = serial ↔ _
      rw [Live, hlocks.find?_eq_some_iff, Holds]
      tauto

theorem Consistent.release (hhost : host.Consistent) : host.release.Sound := by
  have hholds := holds_release_iff hhost.handles hhost.locks
  have hmem := mem_release_iff hhost.handles
  have hsublist : (host.release.databases).Sublist host.databases := List.filter_sublist
  have hexclusive : host.release.Exclusive := hhost.toExclusive.of_holds (.refl hhost.disk)
    fun owner serial howner => ((hholds owner serial).mp howner).1
  have hnamed : ∀ handle number, Keyed.find? handle host.handles = some number →
      ∃ database, (number, database) ∈ host.release.databases := by
    intro handle number hhandle
    obtain ⟨database, hdatabase⟩ := hhost.named handle number hhandle
    exact ⟨database, (hmem _).mpr ⟨hdatabase, handle, hhandle⟩⟩
  exact
    { hexclusive with
      handles := hhost.handles
      locks := hhost.locks
      numbers := (hsublist.map _).nodup hhost.numbers
      fresh := fun entry hentry => hhost.fresh entry ((hmem entry).mp hentry).1
      tables := fun entry hentry => hhost.tables entry ((hmem entry).mp hentry).1
      named := hnamed
      used := fun entry hentry => ((hmem entry).mp hentry).2 }

/-! ## What a step does -/

/-- All that a step does to the owners: those that stay alive go on to hold their locks, and locks
that are new were held by nobody. -/
structure Follows (host later : Host) : Prop where
  disk : host.disk.KeepsLocks later.disk
  kept : ∀ owner serial, host.Holds owner serial → later.Live owner → later.Holds owner serial
  new : ∀ owner serial, later.Holds owner serial →
    host.Holds owner serial ∨ serial ∉ host.held

theorem Follows.of_holds (hdisk : host.disk.KeepsLocks later.disk)
    (hholds : ∀ owner serial, later.Holds owner serial ↔ host.Holds owner serial) :
    host.Follows later :=
  ⟨hdisk, fun owner serial howner _ => (hholds owner serial).mpr howner,
    fun owner serial howner => Or.inl ((hholds owner serial).mp howner)⟩

theorem Follows.release (hfollows : host.Follows later) (hlater : later.Consistent) :
    host.Follows later.release := by
  have hholds := holds_release_iff hlater.handles hlater.locks
  exact ⟨hfollows.disk,
    fun owner serial howner hlive =>
      (hholds owner serial).mpr ⟨hfollows.kept owner serial howner hlive, hlive⟩,
    fun owner serial howner => hfollows.new owner serial ((hholds owner serial).mp howner).1⟩

theorem Consistent.withDisk (hhost : host.Consistent) {disk : Disk}
    (hkeeps : host.disk.KeepsLocks disk) : Consistent { host with disk } where
  toExclusive := hhost.toExclusive.of_holds hkeeps fun _ _ howner => howner
  handles := hhost.handles
  locks := hhost.locks
  numbers := hhost.numbers
  fresh := hhost.fresh
  tables := hhost.tables
  named := hhost.named

theorem Consistent.withHandles (hhost : host.Consistent) {handles : Keyed Nat}
    (hsorted : Keyed.Sorted handles)
    (hnamed : ∀ handle number, Keyed.find? handle handles = some number →
      ∃ database, (number, database) ∈ host.databases) :
    Consistent { host with handles } where
  toExclusive := hhost.toExclusive.of_holds (.refl hhost.disk) fun _ _ howner => howner
  handles := hsorted
  locks := hhost.locks
  numbers := hhost.numbers
  fresh := hhost.fresh
  tables := hhost.tables
  named := hnamed

end Host

end DocumentStore
