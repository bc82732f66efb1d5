import DocumentStore.Disk.Location
import DocumentStore.Disk.Tree

/-!
# The disk

A `Disk` is a tree of files with the next unused serial number.  Its operations take locations,
which are first resolved to a path from the top: dots and empty steps ask for a folder to stand
in.  An operation that is refused gives the reason and no new disk.

Besides what the tree does not allow, the system may refuse any change for reasons that the tree
does not show, such as missing rights or a lack of space.  `Disk.denied` holds these refusals.
-/

namespace DocumentStore

structure Disk where
  entries : Keyed Entry
  nextSerial : Nat
  /-- The locations at which the system allows no change, with its reasons.  All changes at one
  location are allowed or refused alike, so a file that could be created there can be removed. -/
  denied : Location → Option String := fun _ => none
deriving Inhabited

namespace Disk

def empty : Disk :=
  { entries := [], nextSerial := 0 }

/-- Refuses a change at a location where the system allows none. -/
def permit (location : Location) (disk : Disk) : Except Refusal Unit :=
  match disk.denied location with
  | some reason => .error (.denied reason)
  | none => .ok ()

def find (path : List String) (disk : Disk) : Except Refusal Entry :=
  Entry.find path (.folder disk.entries)

def step (disk : Disk) (path : List String) (name : String) : Except Refusal (List String) :=
  if name = "" ∨ name = "." ∨ name = ".." then
    match disk.find path with
    | .ok (.folder _) => .ok (if name = ".." then path.dropLast else path)
    | .ok (.file _ _) => .error .notFolder
    | .error refusal => .error refusal
  else .ok (path ++ [name])

def resolve (disk : Disk) (location : Location) : Except Refusal (List String) :=
  location.steps.foldlM disk.step []

def lookup (location : Location) (disk : Disk) : Except Refusal Entry := do
  disk.find (← disk.resolve location)

def has (location : Location) (disk : Disk) : Bool :=
  (disk.lookup location).toBool

def list (location : Location) (disk : Disk) : Except Refusal (Keyed Entry) := do
  match ← disk.lookup location with
  | .folder entries => return entries
  | .file _ _ => .error .notFolder

def read (location : Location) (disk : Disk) : Except Refusal Bytes := do
  match ← disk.lookup location with
  | .file _ content => return content
  | .folder _ => .error .isFolder

def change (location : Location) (f : Option Entry → Except Refusal (Option Entry))
    (disk : Disk) : Except Refusal Disk := do
  disk.permit location
  let path ← disk.resolve location
  return { disk with entries := ← alter f path disk.entries }

def create (location : Location) (content : Bytes) (disk : Disk) : Except Refusal Disk := do
  let changed ← disk.change location fun
    | none => .ok (some (.file disk.nextSerial content))
    | some _ => .error .alreadyExists
  return { changed with nextSerial := disk.nextSerial + 1 }

/-- Writes a file, which stays the same file if it was there. -/
def write (location : Location) (content : Bytes) (disk : Disk) : Except Refusal Disk := do
  let changed ← disk.change location fun
    | none => .ok (some (.file disk.nextSerial content))
    | some (.file serial _) => .ok (some (.file serial content))
    | some (.folder _) => .error .isFolder
  return { changed with nextSerial := disk.nextSerial + 1 }

def remove (location : Location) (disk : Disk) : Except Refusal Disk :=
  disk.change location fun
    | some (.file _ _) => .ok none
    | some (.folder _) => .error .isFolder
    | none => .error .notFound

def makeFolder (location : Location) (disk : Disk) : Except Refusal Disk :=
  disk.change location fun
    | none => .ok (some (.folder []))
    | some _ => .error .alreadyExists

def ensureFolder (location : Location) (disk : Disk) : Except Refusal Disk :=
  match disk.lookup location with
  | .ok (.folder _) => .ok disk
  | .ok (.file _ _) => .error .alreadyExists
  | .error _ => disk.makeFolder location

def makeFolders (location : Location) (disk : Disk) : Except Refusal Disk :=
  let places := (List.range location.steps.length).map fun n =>
    (⟨location.steps.take (n + 1)⟩ : Location)
  places.foldlM (fun disk place => disk.ensureFolder place) disk

def removeFolder (location : Location) (disk : Disk) : Except Refusal Disk :=
  disk.change location fun
    | some (.folder _) => .ok none
    | some (.file _ _) => .error .notFolder
    | none => .error .notFound

def replaceable (entry : Entry) (present : Option Entry) : Except Refusal (Option Entry) :=
  match entry, present with
  | _, none => .ok (some entry)
  | .file _ _, some (.file _ _) => .ok (some entry)
  | .file _ _, some (.folder _) => .error .isFolder
  | .folder _, some (.folder []) => .ok (some entry)
  | .folder _, some (.folder _) => .error .notEmpty
  | .folder _, some (.file _ _) => .error .notFolder

/-- Moves an entry.  A file takes the place of a file and a folder that of an empty folder; a
folder cannot move into itself. -/
def rename (source target : Location) (disk : Disk) : Except Refusal Disk := do
  disk.permit source
  disk.permit target
  let path ← disk.resolve source
  let goal ← disk.resolve target
  let entry ← disk.find path
  if path = goal then return disk
  if entry.isFolder && path.isPrefixOf goal then .error .invalidPath
  let entries ← alter (replaceable entry) goal disk.entries
  return { disk with entries := ← alter (fun _ => .ok none) path entries }

end Disk

end DocumentStore
