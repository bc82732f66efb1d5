import DocumentStore.Proofs.Database.Owners

/-!
# Steps of a host

`Host.Action` has the steps that open, share, close, lock and unlock, and `Host.Step` adds requests
that are served and changes of the disk that touch no lock file.  Every step keeps `Host.Sound` and
does to the owners no more than `Host.Follows` allows.
-/

namespace DocumentStore

namespace Host

/-! ## Steps -/

inductive Action where
  | openDatabase (options : Options) (handle : String)
  | clone (handle other : String)
  | close (handle : String)
  | lock (folder : Location) (name : String)
  | unlock (name : String)

def act (host : Host) : Action → Host
  | .openDatabase options handle => (host.openDatabase options handle).2
  | .clone handle other => (host.clone handle other).getD host
  | .close handle => (host.close handle).2
  | .lock folder name => (host.lock (folder.join lockFile) name).2
  | .unlock name => (host.unlock name).2

/-- Besides the actions, requests are served, and the disk changes in any way that keeps the lock
files. -/
inductive Step (host : Host) : Host → Prop
  | act (action : Action) : Step host (host.act action)
  | serve {handle : String} {request : Request} {answer : Except Error Answer} {later : Host}
      (sorted : request.call.Sorted)
      (run : host.run handle (fun database disk => request.serve database disk) =
        some (answer, later)) : Step host later
  | elsewhere {disk : Disk} (keeps : host.disk.KeepsLocks disk) : Step host { host with disk }

inductive Reachable : Host → Prop
  | start {host : Host} (disk : host.disk.Sound) (databases : host.databases = [])
      (handles : host.handles = []) (locks : host.locks = []) : Reachable host
  | step {host later : Host} (reachable : Reachable host) (step : host.Step later) :
      Reachable later

variable {host later : Host}

/-! ## A new owner -/

section NewOwner

variable {owner : Owner} {serial : Nat}

/-- Nobody but this owner holds a lock that was not held before. -/
def Gains (host later : Host) (owner : Owner) (serial : Nat) : Prop :=
  ∀ other number, later.Holds other number →
    (other = owner ∧ number = serial) ∨ host.Holds other number

/-- A new lock that nobody has held leaves every lock with one owner. -/
theorem Gains.exclusive (hgains : host.Gains later owner serial) (hhost : host.Exclusive)
    (hsame : later.disk = host.disk) (hnew : serial ∉ host.held) {dir : List String}
    (hlock : host.disk.LockAt dir serial) : later.Exclusive := by
  have hfree : ∀ other, ¬ host.Holds other serial := fun other hother =>
    hnew ((mem_held_iff host serial).mpr ⟨other, hother⟩)
  refine ⟨hsame ▸ hhost.disk, fun other number hother => ?_, fun first second number hfirst
    hsecond => ?_⟩
  · rw [hsame]
    rcases hgains other number hother with ⟨-, rfl⟩ | hold
    · exact ⟨dir, hlock⟩
    · exact hhost.placed other number hold
  · rcases hgains first number hfirst with ⟨rfl, rfl⟩ | hold
    · rcases hgains second number hsecond with ⟨rfl, -⟩ | hother
      · rfl
      · exact absurd hother (hfree second)
    · rcases hgains second number hsecond with ⟨rfl, rfl⟩ | hother
      · exact absurd hold (hfree first)
      · exact hhost.unique first second number hold hother

theorem Gains.new (hgains : host.Gains later owner serial) (hnew : serial ∉ host.held)
    (other : Owner) (number : Nat) (hother : later.Holds other number) :
    host.Holds other number ∨ number ∉ host.held := by
  rcases hgains other number hother with ⟨-, rfl⟩ | hold
  · exact Or.inr hnew
  · exact Or.inl hold

/-- The host with a database that has just been opened, before other databases are released. -/
def withDatabase (database : Database) (handle : String) (host : Host) : Host :=
  { host with
    databases := (host.nextDatabase, database) :: host.databases
    nextDatabase := host.nextDatabase + 1
    handles := Keyed.insert handle host.nextDatabase host.handles }

theorem gains_withDatabase (database : Database) (handle : String) (host : Host) :
    host.Gains (host.withDatabase database handle) (.database host.nextDatabase)
      database.lock.serial := by
  rintro (number | ⟨name, lock⟩) serial howner
  · obtain ⟨found, hmem, rfl⟩ := howner
    rcases List.mem_cons.mp hmem with heq | hold
    · cases heq
      exact Or.inl ⟨rfl, rfl⟩
    · exact Or.inr ⟨found, hold, rfl⟩
  · exact Or.inr howner

theorem Consistent.withDatabase (hhost : host.Consistent) {database : Database}
    (hdatabase : database.Sound) (hnew : database.lock.serial ∉ host.held) {dir : List String}
    (hlock : host.disk.LockAt dir database.lock.serial) (handle : String) :
    (host.withDatabase database handle).Consistent where
  toExclusive := (gains_withDatabase database handle host).exclusive hhost.toExclusive rfl hnew
    hlock
  handles := Keyed.sorted_insert hhost.handles
  locks := hhost.locks
  numbers := by
    refine List.nodup_cons.mpr ⟨fun hmem => ?_, hhost.numbers⟩
    obtain ⟨entry, hentry, heq⟩ := List.mem_map.mp hmem
    exact absurd (hhost.fresh entry hentry) (heq ▸ lt_irrefl _)
  fresh := by
    intro entry hmem
    rcases List.mem_cons.mp hmem with rfl | hold
    · exact Nat.lt_succ_self _
    · exact (hhost.fresh entry hold).trans (Nat.lt_succ_self _)
  tables := List.forall_mem_cons.mpr ⟨hdatabase, hhost.tables⟩
  named := by
    intro other number hother
    change Keyed.find? other (Keyed.insert handle host.nextDatabase host.handles) = _ at hother
    rw [Keyed.find?_insert] at hother
    split_ifs at hother with heq
    · cases hother
      exact ⟨database, List.mem_cons_self⟩
    · obtain ⟨found, hfound⟩ := hhost.named other number hother
      exact ⟨found, List.mem_cons_of_mem _ hfound⟩

theorem follows_withDatabase (hhost : host.Consistent) {database : Database}
    (hnew : database.lock.serial ∉ host.held) (handle : String) :
    host.Follows (host.withDatabase database handle) := by
  refine ⟨.refl hhost.disk, ?_, (gains_withDatabase database handle host).new hnew⟩
  rintro (number | ⟨name, lock⟩) serial howner -
  · obtain ⟨found, hmem, rfl⟩ := howner
    exact ⟨found, List.mem_cons_of_mem _ hmem, rfl⟩
  · exact howner

theorem gains_withLock (name : String) (lock : Lock) (host : Host) :
    host.Gains { host with locks := Keyed.insert name lock host.locks } (.lock name lock)
      lock.serial := by
  rintro (number | ⟨other, found⟩) serial howner
  · exact Or.inr howner
  · obtain ⟨hmem, rfl⟩ := howner
    rcases Keyed.mem_insert hmem with heq | hold
    · cases heq
      exact Or.inl ⟨rfl, rfl⟩
    · exact Or.inr ⟨hold, rfl⟩

theorem Sound.withLocks (hhost : host.Sound) {locks : Keyed Lock} (hlocks : Keyed.Sorted locks)
    (hexclusive : Exclusive { host with locks }) : Sound { host with locks } :=
  { hexclusive with
    handles := hhost.handles
    locks := hlocks
    numbers := hhost.numbers
    fresh := hhost.fresh
    tables := hhost.tables
    named := hhost.named
    used := hhost.used }

/-- Locks that are still kept under their names are still held. -/
theorem follows_withLocks (hdisk : host.disk.Sound) {locks : Keyed Lock}
    (hlocks : Keyed.Sorted locks)
    (hnew : ∀ owner serial, Holds { host with locks } owner serial →
      host.Holds owner serial ∨ serial ∉ host.held) :
    host.Follows { host with locks } := by
  refine ⟨.refl hdisk, ?_, hnew⟩
  rintro (number | ⟨name, lock⟩) serial howner hlive
  · exact howner
  · exact ⟨(hlocks.find?_eq_some_iff).mp hlive, howner.2⟩

end NewOwner

/-! ## Every step -/

theorem Follows.of_disk {disk : Disk} (hkeeps : host.disk.KeepsLocks disk)
    (hfollows : Follows { host with disk } later) : host.Follows later :=
  ⟨hkeeps.trans hfollows.disk, hfollows.kept, hfollows.new⟩

theorem Sound.withDisk (hhost : host.Sound) {disk : Disk}
    (hkeeps : host.disk.KeepsLocks disk) :
    Sound { host with disk } ∧ host.Follows { host with disk } :=
  ⟨⟨hhost.toConsistent.withDisk hkeeps, hhost.used⟩, .of_holds hkeeps fun _ _ => Iff.rfl⟩

theorem openDatabase_eq_error {options : Options} {handle : String} {error : Error} {disk : Disk}
    (hopen : Database.openFolder options host.held host.disk = (.error error, disk)) :
    host.openDatabase options handle = (.error error, { host with disk }) := by
  rw [openDatabase, hopen]

theorem openDatabase_eq_ok {options : Options} {handle : String} {database : Database}
    {disk : Disk}
    (hopen : Database.openFolder options host.held host.disk = (.ok database, disk)) :
    host.openDatabase options handle =
      (.ok database, (({ host with disk } : Host).withDatabase database handle).release) := by
  rw [openDatabase, hopen]
  rfl

theorem Sound.openDatabase (hhost : host.Sound) (options : Options) (handle : String) :
    (host.openDatabase options handle).2.Sound ∧
      host.Follows (host.openDatabase options handle).2 := by
  have hkeeps : host.disk.KeepsLocks (Database.openFolder options host.held host.disk).2 :=
    Database.keepsLocks_openFolder hhost.disk hhost.held_lt
  rcases hopen : Database.openFolder options host.held host.disk with ⟨error | database, disk⟩
  · rw [hopen] at hkeeps
    rw [openDatabase_eq_error hopen]
    exact hhost.withDisk hkeeps
  · rw [hopen] at hkeeps
    rw [openDatabase_eq_ok hopen]
    have hnew := (Database.notMem_of_openFolder hhost.disk hhost.held_lt
      (congrArg Prod.fst hopen)).2
    obtain ⟨dir, entries, -, hlock⟩ := Database.lockAt_of_openFolder hhost.disk.wellFormed hopen
    have hdatabase := (Database.inStep_of_openFolder hhost.disk.wellFormed hopen).1.sound
    have hmiddle := (hhost.withDisk hkeeps).1.toConsistent
    have hopened := hmiddle.withDatabase hdatabase hnew hlock handle
    exact ⟨hopened.release,
      .of_disk hkeeps ((follows_withDatabase hmiddle hnew handle).release hopened)⟩

theorem Sound.withHandles (hhost : host.Sound) {handles : Keyed Nat}
    (hsorted : Keyed.Sorted handles)
    (hnamed : ∀ handle number, Keyed.find? handle handles = some number →
      ∃ other, Keyed.find? other host.handles = some number) :
    (release { host with handles }).Sound ∧ host.Follows (release { host with handles }) := by
  have hchanged : Consistent { host with handles } := by
    refine hhost.toConsistent.withHandles hsorted fun handle number hhandle => ?_
    obtain ⟨other, hother⟩ := hnamed handle number hhandle
    exact hhost.named other number hother
  have hfollows : host.Follows { host with handles } :=
    .of_holds (.refl hhost.disk) fun _ _ => Iff.rfl
  exact ⟨hchanged.release, hfollows.release hchanged⟩

theorem clone_eq (handle other : String) (host : Host) :
    host.clone handle other = (Keyed.find? handle host.handles).map fun number =>
      release { host with handles := Keyed.insert other number host.handles } := by
  rw [Host.clone]
  cases Keyed.find? handle host.handles <;> rfl

theorem Sound.clone (hhost : host.Sound) (handle other : String) :
    ((host.clone handle other).getD host).Sound ∧
      host.Follows ((host.clone handle other).getD host) := by
  rw [clone_eq]
  cases hnumber : Keyed.find? handle host.handles with
  | none => exact hhost.withDisk (.refl hhost.disk)
  | some number =>
      refine hhost.withHandles (Keyed.sorted_insert hhost.handles) fun key found hkey => ?_
      rw [Keyed.find?_insert] at hkey
      split_ifs at hkey with heq
      · cases hkey
        exact ⟨handle, hnumber⟩
      · exact ⟨key, hkey⟩

theorem Sound.close (hhost : host.Sound) (handle : String) :
    (host.close handle).2.Sound ∧ host.Follows (host.close handle).2 := by
  refine hhost.withHandles (Keyed.sorted_erase hhost.handles) fun key number hkey => ?_
  rw [hhost.handles.find?_erase] at hkey
  split_ifs at hkey
  exact ⟨key, hkey⟩

/-- Locking a folder is refused with no change, or gives a lock that nobody has held. -/
theorem lock_cases (hhost : host.Consistent) (folder : Location) (name : String) :
    (Lock.IsHeld folder host.held host.disk ∧ host.lock (folder.join lockFile) name =
        (.error (.directoryLocked (folder.join lockFile).text), host)) ∨
      ¬ Lock.IsHeld folder host.held host.disk ∧
        ((∃ refusal, host.lock (folder.join lockFile) name = (.error (.disk refusal), host)) ∨
          ∃ lock disk, host.lock (folder.join lockFile) name =
              (.ok lock, { host with disk, locks := Keyed.insert name lock host.locks }) ∧
            host.disk.KeepsLocks disk ∧ lock.serial ∉ host.held ∧
            ∃ dir, disk.resolve folder = .ok dir ∧ disk.LockAt dir lock.serial) := by
  by_cases hheld : Lock.IsHeld folder host.held host.disk
  · refine Or.inl ⟨hheld, ?_⟩
    rw [Host.lock, Lock.acquire_of_isHeld hheld]
  · refine Or.inr ⟨hheld, ?_⟩
    rcases Lock.acquire_of_not_isHeld hhost.disk hhost.held_lt hheld with
      ⟨refusal, hacquire⟩ | ⟨lock, disk, hacquire, hkeeps, hnew, hdir⟩
    · refine Or.inl ⟨refusal, ?_⟩
      rw [Host.lock, hacquire]
    · refine Or.inr ⟨lock, disk, ?_, hkeeps, hnew, hdir⟩
      rw [Host.lock, hacquire]

theorem Sound.lock (hhost : host.Sound) (folder : Location) (name : String) :
    (host.lock (folder.join lockFile) name).2.Sound ∧
      host.Follows (host.lock (folder.join lockFile) name).2 := by
  have hsame := hhost.withDisk (.refl hhost.disk)
  rcases lock_cases hhost.toConsistent folder name with
    ⟨-, hlock⟩ | ⟨-, ⟨refusal, hlock⟩ | ⟨lock, disk, hlock, hkeeps, hnew, dir, -, hat⟩⟩
  · rw [hlock]
    exact hsame
  · rw [hlock]
    exact hsame
  · rw [hlock]
    have hmiddle := (hhost.withDisk hkeeps).1
    have hlocks : Keyed.Sorted (Keyed.insert name lock host.locks) :=
      Keyed.sorted_insert hhost.locks
    have hgains := gains_withLock name lock { host with disk }
    exact ⟨hmiddle.withLocks hlocks (hgains.exclusive hmiddle.toExclusive rfl hnew hat),
      .of_disk hkeeps (follows_withLocks hkeeps.sound hlocks (hgains.new hnew))⟩

theorem Sound.unlock (hhost : host.Sound) (name : String) :
    (host.unlock name).2.Sound ∧ host.Follows (host.unlock name).2 := by
  have hholds : ∀ owner serial, Holds (host.unlock name).2 owner serial →
      host.Holds owner serial := by
    rintro (number | ⟨other, lock⟩) serial howner
    · exact howner
    · exact ⟨Keyed.mem_of_mem_erase howner.1, howner.2⟩
  have hlocks : Keyed.Sorted (Keyed.erase name host.locks) := Keyed.sorted_erase hhost.locks
  exact ⟨hhost.withLocks hlocks (hhost.toExclusive.of_holds (.refl hhost.disk) hholds),
    follows_withLocks hhost.disk hlocks fun owner serial howner =>
      Or.inl (hholds owner serial howner)⟩

section MapDatabases

variable {change : Nat × Database → Nat × Database}

theorem holds_database_iff (host : Host) (number serial : Nat) :
    host.Holds (.database number) serial ↔
      ∃ entry ∈ host.databases, entry.1 = number ∧ entry.2.lock.serial = serial := by
  constructor
  · rintro ⟨database, hmem, hserial⟩
    exact ⟨_, hmem, rfl, hserial⟩
  · rintro ⟨⟨_, database⟩, hmem, rfl, hserial⟩
    exact ⟨database, hmem, hserial⟩

theorem holds_mapDatabases_iff (hchange : ∀ entry ∈ host.databases,
      (change entry).1 = entry.1 ∧ (change entry).2.lock = entry.2.lock)
    (owner : Owner) (serial : Nat) :
    Holds { host with databases := host.databases.map change } owner serial ↔
      host.Holds owner serial := by
  cases owner with
  | database number =>
      rw [holds_database_iff, holds_database_iff]
      constructor
      · rintro ⟨_, hmem, hnumber, hserial⟩
        obtain ⟨old, hold, rfl⟩ := List.mem_map.mp hmem
        obtain ⟨hsame, hlock⟩ := hchange old hold
        exact ⟨old, hold, hsame.symm.trans hnumber, hlock ▸ hserial⟩
      · rintro ⟨old, hold, hnumber, hserial⟩
        obtain ⟨hsame, hlock⟩ := hchange old hold
        exact ⟨_, List.mem_map_of_mem hold, hsame.trans hnumber, hlock.symm ▸ hserial⟩
  | lock name lock => exact Iff.rfl

/-- Databases may change as long as they keep their numbers and their locks. -/
theorem Sound.mapDatabases (hhost : host.Sound) (hchange : ∀ entry ∈ host.databases,
      (change entry).1 = entry.1 ∧ (change entry).2.lock = entry.2.lock)
    (hsound : ∀ entry ∈ host.databases, (change entry).2.Sound) :
    Sound { host with databases := host.databases.map change } ∧
      host.Follows { host with databases := host.databases.map change } := by
  have hholds := holds_mapDatabases_iff hchange
  have hnumbers : (host.databases.map change).map Prod.fst = host.databases.map Prod.fst := by
    rw [List.map_map]
    exact List.map_congr_left fun entry hmem => (hchange entry hmem).1
  have hexclusive : Exclusive { host with databases := host.databases.map change } :=
    hhost.toExclusive.of_holds (.refl hhost.disk) fun owner serial => (hholds owner serial).mp
  refine ⟨{ hexclusive with
    handles := hhost.handles
    locks := hhost.locks
    numbers := hnumbers.symm ▸ hhost.numbers
    fresh := List.forall_mem_map.mpr fun entry hmem => ?_
    tables := List.forall_mem_map.mpr hsound
    named := fun handle number hhandle => ?_
    used := List.forall_mem_map.mpr fun entry hmem => ?_ }, .of_holds (.refl hhost.disk) hholds⟩
  · rw [(hchange entry hmem).1]
    exact hhost.fresh entry hmem
  · obtain ⟨database, hmem⟩ := hhost.named handle number hhandle
    have hnumber : (change (number, database)).1 = number := (hchange _ hmem).1
    exact ⟨(change (number, database)).2, List.mem_map.mpr ⟨_, hmem, Prod.ext hnumber rfl⟩⟩
  · rw [(hchange entry hmem).1]
    exact hhost.used entry hmem

end MapDatabases

theorem Sound.replaceDatabase (hhost : host.Sound) {number : Nat} {database after : Database}
    (hmem : (number, database) ∈ host.databases) (hlock : after.lock = database.lock)
    (hafter : after.Sound) :
    let later : Host :=
      { host with
        databases := host.databases.map fun entry =>
          if entry.1 = number then (number, after) else entry }
    later.Sound ∧ host.Follows later := by
  have hentry : ∀ entry ∈ host.databases, entry.1 = number → entry = (number, database) :=
    fun entry hentry hnumber => List.inj_on_of_nodup_map hhost.numbers hentry hmem hnumber
  refine hhost.mapDatabases (fun entry hold => ?_) fun entry hold => ?_
  · split_ifs with hnumber
    · rw [hentry entry hold hnumber]
      exact ⟨rfl, hlock⟩
    · exact ⟨rfl, rfl⟩
  · split_ifs
    · exact hafter
    · exact hhost.tables entry hold

theorem Sound.serve (hhost : host.Sound) {handle : String} {request : Request}
    {answer : Except Error Answer} (hsorted : request.call.Sorted)
    (hrun : host.run handle (fun database disk => request.serve database disk) =
      some (answer, later)) : later.Sound ∧ host.Follows later := by
  obtain ⟨⟨number, database⟩, hfound, heq⟩ := Option.bind_eq_some_iff.mp hrun
  cases heq
  obtain ⟨named, -, hfind⟩ := Option.bind_eq_some_iff.mp hfound
  have hmem : (number, database) ∈ host.databases := List.mem_of_find?_eq_some hfind
  have hdatabase := hhost.tables _ hmem
  obtain ⟨hkeeps, hlock⟩ := Database.keepsLocks_serve hdatabase hhost.disk hsorted
  have hmiddle := (hhost.withDisk hkeeps).1
  obtain ⟨hlater, hfollows⟩ := hmiddle.replaceDatabase hmem hlock (hdatabase.serve hsorted)
  exact ⟨hlater, .of_disk hkeeps hfollows⟩

theorem Sound.step (hhost : host.Sound) (hstep : host.Step later) :
    later.Sound ∧ host.Follows later := by
  cases hstep with
  | act action =>
      cases action with
      | openDatabase options handle => exact hhost.openDatabase options handle
      | clone handle other => exact hhost.clone handle other
      | close handle => exact hhost.close handle
      | lock folder name => exact hhost.lock folder name
      | unlock name => exact hhost.unlock name
  | serve sorted run => exact hhost.serve sorted run
  | elsewhere keeps => exact hhost.withDisk keeps

theorem Reachable.sound (hreachable : host.Reachable) : host.Sound := by
  induction hreachable with
  | @start host disk databases handles locks =>
      have hholds : ∀ owner serial, ¬ host.Holds owner serial := by
        rintro (number | ⟨name, lock⟩) serial howner
        · simp [Holds, databases] at howner
        · simp [Holds, locks] at howner
      have hexclusive : host.Exclusive :=
        ⟨disk, fun owner serial howner => absurd howner (hholds owner serial),
          fun first _ serial hfirst => absurd hfirst (hholds first serial)⟩
      exact
        { hexclusive with
          handles := by simp [handles]
          locks := by simp [locks]
          numbers := by simp [databases]
          fresh := by simp [databases]
          tables := by simp [databases]
          named := by simp [handles]
          used := by simp [databases] }
  | step _ step ih => exact (ih.step step).1

end Host

end DocumentStore
