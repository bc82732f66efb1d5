import DocumentStore.Database.Basic

/-!
# Hosts

A host is where databases are opened: a disk, the databases that are open on it and the locks that
are held besides.  Databases are used through named handles, and several handles may share one
database.  A database is closed, and its lock is free, when the last of its handles is.
-/

namespace DocumentStore

structure Host where
  disk : Disk
  databases : List (Nat × Database)
  nextDatabase : Nat
  handles : Keyed Nat
  locks : Keyed Lock

namespace Host

def empty : Host :=
  ⟨Disk.empty, [], 0, [], []⟩

def held (host : Host) : List Nat :=
  host.databases.map (fun entry => entry.2.lock.serial) ++
    host.locks.map fun entry => entry.2.serial

def database? (handle : String) (host : Host) : Option (Nat × Database) := do
  let number ← Keyed.find? handle host.handles
  host.databases.find? fun entry => entry.1 == number

def release (host : Host) : Host :=
  let used := host.handles.map Prod.snd
  { host with databases := host.databases.filter fun entry => used.contains entry.1 }

/-- Opens a database and names a handle on it.  A handle of the same name goes on to hold its
database until the new one is open. -/
def openDatabase (options : Options) (handle : String) (host : Host) :
    Except Error Database × Host :=
  match Database.openFolder options host.held host.disk with
  | (.error error, disk) => (.error error, { host with disk })
  | (.ok database, disk) =>
    let opened : Host :=
      { host with
        disk
        databases := (host.nextDatabase, database) :: host.databases
        nextDatabase := host.nextDatabase + 1
        handles := Keyed.insert handle host.nextDatabase host.handles }
    (.ok database, opened.release)

/-- Names another handle on the database of a handle; `none` if there is no such handle. -/
def clone (handle other : String) (host : Host) : Option Host := do
  let number ← Keyed.find? handle host.handles
  return { host with handles := Keyed.insert other number host.handles }.release

def close (handle : String) (host : Host) : Bool × Host :=
  (Keyed.contains handle host.handles,
    { host with handles := Keyed.erase handle host.handles }.release)

/-- Runs an operation on the database of a handle; `none` if there is no such handle. -/
def run {α : Type} (handle : String) (operation : Database → Disk → Outcome α) (host : Host) :
    Option (Except Error α × Host) := do
  let (number, database) ← host.database? handle
  let outcome := operation database host.disk
  let databases := host.databases.map fun entry =>
    if entry.1 = number then (number, outcome.database) else entry
  return (outcome.result, { host with disk := outcome.disk, databases })

/-- Locks a file and keeps the lock under a name; a lock of the same name is freed afterwards. -/
def lock (location : Location) (name : String) (host : Host) : Except Error Lock × Host :=
  match Lock.acquire location host.held host.disk with
  | (.error error, disk) => (.error error, { host with disk })
  | (.ok lock, disk) =>
    (.ok lock, { host with disk, locks := Keyed.insert name lock host.locks })

def unlock (name : String) (host : Host) : Bool × Host :=
  (Keyed.contains name host.locks, { host with locks := Keyed.erase name host.locks })

def onDisk (operation : Disk → Except Refusal Disk) (host : Host) : Except Refusal Host :=
  (operation host.disk).map fun disk => { host with disk }

end Host

end DocumentStore
