import DocumentStore.Bytes
import DocumentStore.Keyed

/-!
# Trees of files

A folder holds entries in name order, and an entry is a file or again a folder.  Every file has a
serial number, which tells a file apart from another one that later takes its name.

`Entry.find` looks a path up and `alter` changes, adds or removes the entry a path leads to.  Both
are refused as a file system refuses them.
-/

namespace DocumentStore

inductive Entry where
  | file (serial : Nat) (content : Bytes)
  | folder (entries : List (String × Entry))
deriving Inhabited

inductive Refusal where
  | notFound
  | notFolder
  | isFolder
  | alreadyExists
  | notEmpty
  | nameTooLong
  | invalidPath
  | busy
  /-- The system gives a reason of its own. -/
  | denied (reason : String)
deriving DecidableEq, Repr, Inhabited

def Refusal.name : Refusal → String
  | notFound => "no such file or folder"
  | notFolder => "not a folder"
  | isFolder => "is a folder"
  | alreadyExists => "already exists"
  | notEmpty => "folder not empty"
  | nameTooLong => "name too long"
  | invalidPath => "invalid path"
  | busy => "in use"
  | denied reason => reason

def maxEntryName : Nat :=
  255

def checkEntryName (name : String) : Except Refusal Unit :=
  if name.toList.contains '\x00' then .error .invalidPath
  else if maxEntryName < name.utf8ByteSize then .error .nameTooLong
  else .ok ()

namespace Entry

def isFolder : Entry → Bool
  | folder _ => true
  | file _ _ => false

def find : List String → Entry → Except Refusal Entry
  | [], entry => .ok entry
  | _ :: _, file _ _ => .error .notFolder
  | name :: rest, folder entries => do
    checkEntryName name
    match Keyed.find? name entries with
    | some entry => find rest entry
    | none => .error .notFound

end Entry

/-- Changes the entry that a path leads to from a folder; `change` gets the present entry and gives
the new one, `none` standing for no entry.  All folders on the way have to exist. -/
def alter (change : Option Entry → Except Refusal (Option Entry)) :
    List String → Keyed Entry → Except Refusal (Keyed Entry)
  | [], _ => .error .busy
  | [name], entries => do
    checkEntryName name
    match ← change (Keyed.find? name entries) with
    | some entry => return Keyed.insert name entry entries
    | none => return Keyed.erase name entries
  | name :: step :: rest, entries => do
    checkEntryName name
    match Keyed.find? name entries with
    | some (.folder inner) =>
      let inner ← alter change (step :: rest) inner
      return Keyed.insert name (.folder inner) entries
    | some (.file _ _) => .error .notFolder
    | none => .error .notFound

end DocumentStore
