import DocumentStore.Disk.Basic
import DocumentStore.Error

/-!
# Locks on files

A lock belongs to a file, not to its name: it is held by the serial number of the file, and moving
the file moves the lock along.  A file has at most one lock at a time.
-/

namespace DocumentStore

structure Lock where
  location : Location
  serial : Nat
deriving DecidableEq, Repr

namespace Lock

/-- The file at a location, which is created if there is nothing. -/
def openFile (location : Location) (disk : Disk) : Except Refusal (Nat × Disk) :=
  match disk.lookup location with
  | .ok (.file serial _) => .ok (serial, disk)
  | .ok (.folder _) => .error .isFolder
  | .error _ => do return (disk.nextSerial, ← disk.create location [])

/-- Locks the file at a location unless it is among the files that are `held`.  The file stays
there in any case. -/
def acquire (location : Location) (held : List Nat) (disk : Disk) : Except Error Lock × Disk :=
  match openFile location disk with
  | .error refusal => (.error (.disk refusal), disk)
  | .ok (serial, disk) =>
    if held.contains serial then (.error (.directoryLocked location.text), disk)
    else (.ok ⟨location, serial⟩, disk)

end Lock

end DocumentStore
