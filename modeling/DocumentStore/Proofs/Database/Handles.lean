import DocumentStore.Proofs.Database.OwnerSteps

/-!
# Handles and the databases behind them

A handle leads to a database by its number, so two handles may lead to the same one.
`Host.FollowsNames` says where the handles lead after each step, and which locks are kept: a clone
leads to the database of the handle that it is made from, and a step leaves all names alone but the
one that it is about.
-/

namespace DocumentStore

namespace Host

variable {host later : Host}

/-! ## Looking a handle up -/

/-- Only databases that no handle leads to are released. -/
theorem database?_release (handle : String) (host : Host) :
    host.release.database? handle = host.database? handle := by
  cases hnumber : Keyed.find? handle host.handles with
  | none => simp [database?, release, hnumber]
  | some number =>
      have hused : number ∈ host.handles.map Prod.snd :=
        List.mem_map.mpr ⟨_, Keyed.mem_of_find?_eq_some hnumber, rfl⟩
      simp only [database?, release, hnumber, bind, Option.bind_some, List.find?_filter]
      congr 1
      funext entry
      by_cases hentry : entry.1 = number
      · simp [hentry, hused]
      · simp [hentry]

/-- Every handle leads to a database that is open. -/
theorem Consistent.map_database? (hhost : host.Consistent) (handle : String) :
    (host.database? handle).map Prod.fst = Keyed.find? handle host.handles := by
  cases hnumber : Keyed.find? handle host.handles with
  | none => simp [database?, hnumber]
  | some number =>
      obtain ⟨database, hmem⟩ := hhost.named handle number hnumber
      have hfound : (host.databases.find? fun entry => entry.1 == number).isSome :=
        List.find?_isSome.mpr ⟨_, hmem, by simp⟩
      obtain ⟨entry, hentry⟩ := Option.isSome_iff_exists.mp hfound
      have heq : entry.1 = number := by simpa using List.find?_some hentry
      simp [database?, hnumber, hentry, heq]

/-! ## After a step -/

theorem database?_withDatabase (hhost : host.Consistent) (database : Database)
    (handle name : String) :
    (host.withDatabase database handle).database? name =
      if name = handle then some (host.nextDatabase, database) else host.database? name := by
  simp only [database?, withDatabase, Keyed.find?_insert]
  split_ifs with hname
  · simp
  · cases hnumber : Keyed.find? name host.handles with
    | none => rfl
    | some number =>
        -- The new number is larger than all numbers in use.
        obtain ⟨found, hmem⟩ := hhost.named name number hnumber
        have hne : host.nextDatabase ≠ number := (hhost.fresh _ hmem).ne'
        simp [hne]

theorem Sound.database?_openDatabase (hhost : host.Sound) {options : Options} {handle : String}
    {database : Database} (hopened : (host.openDatabase options handle).1 = .ok database) :
    (host.openDatabase options handle).2.locks = host.locks ∧
      ∀ name, (host.openDatabase options handle).2.database? name =
        if name = handle then some (host.nextDatabase, database) else host.database? name := by
  have hkeeps : host.disk.KeepsLocks (Database.openFolder options host.held host.disk).2 :=
    Database.keepsLocks_openFolder hhost.disk hhost.held_lt
  rcases hopen : Database.openFolder options host.held host.disk with ⟨error | found, disk⟩
  · rw [openDatabase_eq_error hopen] at hopened
    cases hopened
  · rw [hopen] at hkeeps
    rw [openDatabase_eq_ok hopen] at hopened ⊢
    cases hopened
    refine ⟨rfl, fun name => ?_⟩
    rw [database?_release]
    exact database?_withDatabase (hhost.withDisk hkeeps).1.toConsistent database handle name

theorem database?_clone {handle other : String} (hclone : host.clone handle other = some later) :
    later.disk = host.disk ∧ later.locks = host.locks ∧
      ∀ name, later.database? name =
        if name = other then host.database? handle else host.database? name := by
  rw [clone_eq] at hclone
  obtain ⟨number, hnumber, rfl⟩ := Option.map_eq_some_iff.mp hclone
  refine ⟨rfl, rfl, fun name => ?_⟩
  rw [database?_release]
  simp only [database?, Keyed.find?_insert]
  split_ifs
  · rw [hnumber]
  · rfl

theorem database?_close (hhost : host.Consistent) (handle name : String) :
    (host.close handle).2.database? name =
      if name = handle then none else host.database? name := by
  rw [close, database?_release]
  simp only [database?, hhost.handles.find?_erase]
  split_ifs
  · rfl
  · rfl

theorem database?_run {α : Type} {handle : String} {operation : Database → Disk → Outcome α}
    {result : Except Error α} (hrun : host.run handle operation = some (result, later)) :
    ∃ number database, host.database? handle = some (number, database) ∧
      let outcome := operation database host.disk
      result = outcome.result ∧ later.disk = outcome.disk ∧ later.locks = host.locks ∧
        ∀ name, later.database? name = (host.database? name).map fun entry =>
          if entry.1 = number then (number, outcome.database) else entry := by
  obtain ⟨⟨number, database⟩, hfound, heq⟩ := Option.bind_eq_some_iff.mp hrun
  cases heq
  refine ⟨number, database, hfound, rfl, rfl, rfl, fun name => ?_⟩
  simp only [database?]
  cases Keyed.find? name host.handles with
  | none => rfl
  | some other =>
      simp only [bind, Option.bind_some, List.find?_map]
      congr 2
      funext entry
      simp only [Function.comp_apply]
      split_ifs with hentry
      · rw [hentry]
      · rfl

/-- Where the handles lead after each step, and which locks are kept. -/
structure FollowsNames (host : Host) : Prop where
  leads : ∀ handle, (host.database? handle).map Prod.fst = Keyed.find? handle host.handles
  opened : ∀ options handle database, (host.openDatabase options handle).1 = .ok database →
    (host.openDatabase options handle).2.locks = host.locks ∧
      ∀ name, (host.openDatabase options handle).2.database? name =
        if name = handle then some (host.nextDatabase, database) else host.database? name
  cloned_iff : ∀ handle other,
    (host.clone handle other).isSome ↔ (host.database? handle).isSome
  /-- The clone shares the database, and no other handle is touched. -/
  cloned : ∀ handle other later, host.clone handle other = some later →
    later.disk = host.disk ∧ later.locks = host.locks ∧
      ∀ name, later.database? name =
        if name = other then host.database? handle else host.database? name
  closed : ∀ handle, (host.close handle).1 = (host.database? handle).isSome ∧
    (host.close handle).2.disk = host.disk ∧ (host.close handle).2.locks = host.locks ∧
      ∀ name, (host.close handle).2.database? name =
        if name = handle then none else host.database? name
  locked : ∀ (folder : Location) name lock,
    (host.lock (folder.join lockFile) name).1 = .ok lock →
      (∀ handle, (host.lock (folder.join lockFile) name).2.database? handle =
        host.database? handle) ∧
      ∀ other, Keyed.find? other (host.lock (folder.join lockFile) name).2.locks =
        if other = name then some lock else Keyed.find? other host.locks
  unlocked : ∀ name, (host.unlock name).1 = (Keyed.find? name host.locks).isSome ∧
    (host.unlock name).2.disk = host.disk ∧
      (∀ handle, (host.unlock name).2.database? handle = host.database? handle) ∧
        ∀ other, Keyed.find? other (host.unlock name).2.locks =
          if other = name then none else Keyed.find? other host.locks
  /-- A request is answered by the database that the handle leads to, and every handle on that
  database sees what becomes of it. -/
  served : ∀ handle (request : Request) answer later,
    host.run handle (fun database disk => request.serve database disk) = some (answer, later) →
      ∃ number database, host.database? handle = some (number, database) ∧
        let outcome := request.serve database host.disk
        answer = outcome.result ∧ later.disk = outcome.disk ∧ later.locks = host.locks ∧
          ∀ name, later.database? name = (host.database? name).map fun entry =>
            if entry.1 = number then (number, outcome.database) else entry

theorem Sound.followsNames (hhost : host.Sound) : host.FollowsNames where
  leads := hhost.map_database?
  opened options handle database := hhost.database?_openDatabase
  cloned_iff := by
    intro handle other
    rw [clone_eq, Option.isSome_map, ← hhost.map_database?, Option.isSome_map]
  cloned handle other later := database?_clone
  closed := by
    intro handle
    refine ⟨?_, rfl, rfl, database?_close hhost.toConsistent handle⟩
    rw [Host.close, Keyed.contains, ← hhost.map_database?, Option.isSome_map]
  locked := by
    intro folder name lock hlocked
    rcases lock_cases hhost.toConsistent folder name with
      ⟨-, hlock⟩ | ⟨-, ⟨refusal, hlock⟩ | ⟨found, disk, hlock, -⟩⟩
    · rw [hlock] at hlocked
      cases hlocked
    · rw [hlock] at hlocked
      cases hlocked
    · rw [hlock] at hlocked ⊢
      cases hlocked
      exact ⟨fun handle => rfl, fun other => Keyed.find?_insert name other lock host.locks⟩
  unlocked name := ⟨rfl, rfl, fun handle => rfl, hhost.locks.find?_erase⟩
  served handle request answer later := database?_run

end Host

end DocumentStore
