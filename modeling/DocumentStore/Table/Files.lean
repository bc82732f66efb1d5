import DocumentStore.Disk.Basic
import DocumentStore.Table.Document
import DocumentStore.Table.Name

/-!
# Table files

The tables of a folder are stored in one file each, named for the table and the format.  A file is
never written in place: `flush` writes a temporary file in the same folder and then renames it, so
that at any time either the old or the new contents are there.  `discover` lists the tables that
have a file, and `sweep` removes temporary files that an interrupted flush left behind.

The names of the entries of a folder are texts here.  An entry whose name is not UTF-8 is left out:
it is no table and no temporary file, and neither of the two looks at it.
-/

namespace DocumentStore

structure TableFiles where
  folder : Location
  format : Format
  indented : Bool
deriving DecidableEq, Repr

def temporarySuffix : String :=
  ".tmp"

namespace TableFiles

def path (files : TableFiles) (table : String) : Location :=
  files.folder.join s!"{table}.{files.format.extension}"

def encode (files : TableFiles) (name : String) (table : Table) : Bytes :=
  table.encode files.format files.indented name

def decode (files : TableFiles) (path : String) (name : String) (input : Bytes) :
    Except Error Table :=
  (Table.decode files.format name input).mapError (.corruptFile path)

def load (files : TableFiles) (name : String) (disk : Disk) : Except Error Table :=
  match disk.read (files.path name) with
  | .ok input => files.decode (files.path name).text name input
  | .error .notFound => .error (.tableNotFound name)
  | .error refusal => .error (.disk refusal)

/-- The location of a temporary file for a table, which starts with a dot as no table does. -/
def temporary (files : TableFiles) (name : String) (tag : Nat) : Location :=
  files.folder.join s!".{name}.{tag}{temporarySuffix}"

/-- A temporary file that is not there.  Among one more tags than there are entries one is free. -/
def freshTemporary (files : TableFiles) (name : String) (disk : Disk) : Location :=
  let entries := ((disk.list files.folder).toOption.getD []).length
  let tags := List.range (entries + 1)
  files.temporary name ((tags.find? fun tag => !disk.has (files.temporary name tag)).getD entries)

/-- Replaces the file of a table.  A refusal leaves the folder as it was: the temporary file is
removed again. -/
def flush (files : TableFiles) (name : String) (table : Table) (disk : Disk) :
    Except Refusal Unit × Disk :=
  let temporary := files.freshTemporary name disk
  match disk.create temporary (files.encode name table) with
  | .error refusal => (.error refusal, disk)
  | .ok written =>
    match written.rename temporary (files.path name) with
    | .ok renamed => (.ok (), renamed)
    | .error refusal => (.error refusal, (written.remove temporary).toOption.getD written)

def remove (files : TableFiles) (name : String) (disk : Disk) : Except Refusal (Bool × Disk) :=
  match disk.remove (files.path name) with
  | .ok disk => .ok (true, disk)
  | .error .notFound => .ok (false, disk)
  | .error refusal => .error refusal

def tableOf? (files : TableFiles) (name : String) : Option String :=
  let chars := name.toList
  let ending := s!".{files.format.extension}".toList
  let table := String.ofList (chars.take (chars.length - ending.length))
  if ending.isSuffixOf chars && isTableName table then some table else none

/-- The tables that have a file, in name order.  Folders and other files are passed over. -/
def discover (files : TableFiles) (disk : Disk) : Except Refusal (List String) := do
  let entries ← disk.list files.folder
  let tables := entries.filterMap fun (name, entry) =>
    if entry.isFolder then none else files.tableOf? name
  return tables.mergeSort

def isTemporary (name : String) : Bool :=
  name.toList.head? == some '.' && temporarySuffix.toList.isSuffixOf name.toList

/-- Removes files of the folder one after the other until one is refused.  `sweep` gives them in
name order, while a system may list a folder in any order: after a refusal other files may be left
than here. -/
def removeAll (files : TableFiles) : List String → Disk → Except Refusal Unit × Disk
  | [], disk => (.ok (), disk)
  | name :: rest, disk =>
    match disk.remove (files.folder.join name) with
    | .ok disk => removeAll files rest disk
    | .error refusal => (.error refusal, disk)

/-- Removes the temporary files and tells how many there were.  A refusal leaves the files that come
after the refused one. -/
def sweep (files : TableFiles) (disk : Disk) : Except Refusal Nat × Disk :=
  match disk.list files.folder with
  | .error refusal => (.error refusal, disk)
  | .ok entries =>
    let stale := entries.filter fun (name, entry) => !entry.isFolder && isTemporary name
    match files.removeAll (Keyed.names stale) disk with
    | (.ok (), disk) => (.ok stale.length, disk)
    | (.error refusal, disk) => (.error refusal, disk)

/-- Removes all temporary files, if none is refused, and tells how many there were. -/
def removeStale (files : TableFiles) (disk : Disk) : Except Refusal (Nat × Disk) :=
  match files.sweep disk with
  | (.ok count, disk) => .ok (count, disk)
  | (.error refusal, _) => .error refusal

end TableFiles

end DocumentStore
