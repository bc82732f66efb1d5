import DocumentStore.Disk.Lock
import DocumentStore.Query
import DocumentStore.Table.Files
import DocumentStore.Validator

/-!
# Databases

A database owns a folder: it holds the lock on a file there and all tables of one format in memory.
Opening one makes the folder, locks it, removes stale temporary files and loads every table.

Every write works on a copy of a table.  The copy is written to disk first and takes the place of
the old table only when that has succeeded, so a write that fails changes neither.  A write gives
its outcome with the database and the disk that it leaves behind.
-/

namespace DocumentStore

/-- How far a write waits for the disk.  It makes no difference but in a crash. -/
inductive Sync where
  | full
  | none
deriving DecidableEq, Repr, Inhabited

def Sync.name : Sync → String
  | full => "full"
  | none => "none"

def lockFile : String :=
  ".shelfdb.lock"

structure Options where
  folder : Location
  format : Format := .json
  indented : Bool := false
  sync : Sync := .full
deriving DecidableEq, Repr

/-- Only tables that exist have an entry.  One that was asked for but not made, as by an addition
that failed, is the same as one that was never named. -/
structure Database where
  files : TableFiles
  sync : Sync
  tables : Keyed Table
  lock : Lock
deriving Repr

/-- What an operation on a database gives, and what it leaves behind. -/
structure Outcome (α : Type) where
  result : Except Error α
  database : Database
  disk : Disk

namespace Database

def loadTables (files : TableFiles) (disk : Disk) : List String → Except Error (Keyed Table)
  | [] => .ok []
  | name :: rest => do
    let table ← files.load name disk
    let tables ← loadTables files disk rest
    return (name, table) :: tables

def load (options : Options) (lock : Lock) (disk : Disk) : Except Error Database × Disk :=
  let files : TableFiles := ⟨options.folder, options.format, options.indented⟩
  match files.sweep disk with
  | (.error refusal, disk) => (.error (.disk refusal), disk)
  | (.ok _, disk) =>
    match files.discover disk with
    | .error refusal => (.error (.disk refusal), disk)
    | .ok names =>
      let tables := loadTables files disk names
      (tables.map fun tables => ⟨files, options.sync, tables, lock⟩, disk)

/-- Opens the database in a folder, given the files that are locked already. -/
def openFolder (options : Options) (held : List Nat) (disk : Disk) :
    Except Error Database × Disk :=
  match disk.makeFolders options.folder with
  | .error refusal => (.error (.disk refusal), disk)
  | .ok disk =>
    match Lock.acquire (options.folder.join lockFile) held disk with
    | (.error error, disk) => (.error error, disk)
    | (.ok lock, disk) => load options lock disk

def list (database : Database) : List String :=
  Keyed.names database.tables

def checkName (name : String) : Except Error Unit :=
  if isTableName name then .ok () else .error (.invalidTableName name)

def table (name : String) (database : Database) : Except Error Table := do
  checkName name
  match Keyed.find? name database.tables with
  | some table => return table
  | none => .error (.tableNotFound name)

def count (name : String) (database : Database) : Except Error Nat :=
  (database.table name).map Table.size

def find (name : String) (filters : Filters) (limit : Option Nat) (database : Database) :
    Except Error Matches := do
  let predicates ← filters
  let table ← database.table name
  return ⟨name, table.records, predicates, limit⟩

def findOne (name : String) (filters : Filters) (database : Database) : Except Error Record := do
  let found ← database.find name filters (some 1)
  match found.first? with
  | .ok (some record) => return record
  | .ok none => .error (.recordNotFound name)
  | .error error => .error (.evaluation error)

def scan (name : String) (test : Record → Bool) (database : Database) :
    Except Error (List Record) :=
  (database.table name).map fun table => table.records.filter test

def commit {α : Type} (name : String) (table : Table) (result : α) (database : Database)
    (disk : Disk) : Outcome α :=
  match database.files.flush name table disk with
  | (.ok (), disk) =>
    ⟨.ok result, { database with tables := Keyed.insert name table database.tables }, disk⟩
  | (.error refusal, disk) => ⟨.error (.disk refusal), database, disk⟩

/-- Commits the outcome of a change to a table.  A change that gives no table has changed none. -/
def write {α : Type} (name : String) (change : Except Error (α × Option Table))
    (database : Database) (disk : Disk) : Outcome α :=
  match change with
  | .error error => ⟨.error error, database, disk⟩
  | .ok (result, none) => ⟨.ok result, database, disk⟩
  | .ok (result, some table) => database.commit name table result disk

def appendAll (name : String) (validator : Validator) :
    List Value → Table → Except Error (List Value × Table)
  | [], table => .ok ([], table)
  | fields :: rest, table => do
    let (record, table) ← table.prepare name fields
    (validator record).mapError (.validationFailed name)
    let (ids, table) ← appendAll name validator rest (table.push record)
    return (record.id :: ids, table)

/-- What adding records does to a table; one that does not exist starts out empty. -/
def appended (name : String) (records : List Value) (validator : Validator)
    (database : Database) : Except Error (List Value × Option Table) := do
  checkName name
  if records.isEmpty then return ([], none)
  let table := (Keyed.find? name database.tables).getD Table.empty
  let (ids, table) ← appendAll name validator records table
  return (ids, some table)

def addAll (name : String) (records : List Value) (validator : Validator) (database : Database)
    (disk : Disk) : Outcome (List Value) :=
  database.write name (database.appended name records validator) disk

def add (name : String) (fields : Value) (validator : Validator) (database : Database)
    (disk : Disk) : Outcome Value :=
  let appended := (database.appended name [fields] validator).map fun (ids, table) =>
    (ids.headD .null, table)
  database.write name appended disk

/-- A change of some records of a table; a change of none does not have to be written. -/
def changed (change : Nat × Table) : Nat × Option Table :=
  (change.1, if change.1 = 0 then none else some change.2)

def updated (name : String) (changes : Changes) (filters : Filters) (database : Database) :
    Except Error (Nat × Option Table) := do
  let fields ← changes.mapError .invalidRecord
  let predicates ← filters
  if Keyed.contains idField fields then .error (.immutableId name)
  (checkStorable (fields.map Prod.snd)).mapError .invalidRecord
  let table ← database.table name
  let change ← (table.updateWhere (Predicate.matchesAll predicates) fields).mapError .evaluation
  return changed change

def update (name : String) (changes : Changes) (filters : Filters) (database : Database)
    (disk : Disk) : Outcome Nat :=
  database.write name (database.updated name changes filters) disk

def deleted (name : String) (filters : Filters) (database : Database) :
    Except Error (Nat × Option Table) := do
  let predicates ← filters
  let table ← database.table name
  let change ← (table.removeWhere (Predicate.matchesAll predicates)).mapError .evaluation
  return changed change

def delete (name : String) (filters : Filters) (database : Database) (disk : Disk) :
    Outcome Nat :=
  database.write name (database.deleted name filters) disk

/-- Removes all records of a table, which goes on to exist, and tells how many these were. -/
def truncate (name : String) (database : Database) (disk : Disk) : Outcome Nat :=
  let cleared := (database.table name).map fun table => changed (table.size, table.clear)
  database.write name cleared disk

def drop (name : String) (database : Database) (disk : Disk) : Outcome Unit :=
  match database.table name with
  | .error error => ⟨.error error, database, disk⟩
  | .ok _ =>
    match database.files.remove name disk with
    | .error refusal => ⟨.error (.disk refusal), database, disk⟩
    | .ok (_, disk) =>
      ⟨.ok (), { database with tables := Keyed.erase name database.tables }, disk⟩

/-- Removes tables and their files one after the other until one is refused; `burned` are the ones
removed before, the last one first. -/
def burnAll (burned : List String) : List String → Database → Disk → Outcome (List String)
  | [], database, disk => ⟨.ok burned.reverse, database, disk⟩
  | name :: rest, database, disk =>
    match database.files.remove name disk with
    | .error refusal =>
      ⟨.error (.burnIncomplete burned.reverse name refusal), database, disk⟩
    | .ok (_, disk) =>
      burnAll (name :: burned) rest
        { database with tables := Keyed.erase name database.tables } disk

def allNames (database : Database) (disk : Disk) : Except Refusal (List String) := do
  let names ← database.files.discover disk
  return Keyed.names (Keyed.ofList ((database.list ++ names).map fun name => (name, ())))

/-- Removes all tables with their files, also files of tables that are not in memory, and gives
their names.  Temporary files are removed too, as far as that is possible. -/
def burn (database : Database) (disk : Disk) : Outcome (List String) :=
  match database.allNames disk with
  | .error refusal => ⟨.error (.disk refusal), database, disk⟩
  | .ok names =>
    match burnAll [] names database disk with
    | ⟨.ok burned, database, disk⟩ => ⟨.ok burned, database, (database.files.sweep disk).2⟩
    | stopped => stopped

def setSync (sync : Sync) (database : Database) : Database :=
  { database with sync }

end Database

end DocumentStore
