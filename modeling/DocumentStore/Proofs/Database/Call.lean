import DocumentStore.Database.Basic
import DocumentStore.Proofs.Table.Alike

/-!
# Calls on a database

A `Call` is any operation on a database with its arguments, and a `Request` is a call together with
the changes of the disk that the system denies while the call is served.  A run serves requests one
after the other.

What a database answers depends only on its tables, on the names of its files and on the outline of
the disk (`Database.Like`).  Two databases that agree in these answer every run alike.
-/

namespace DocumentStore

inductive Call where
  | add (name : String) (fields : Value) (validator : Validator)
  | addAll (name : String) (records : List Value) (validator : Validator)
  | update (name : String) (changes : Changes) (filters : Filters)
  | delete (name : String) (filters : Filters)
  | truncate (name : String)
  | drop (name : String)
  | burn
  | find (name : String) (filters : Filters) (limit : Option Nat)
  | count (name : String)
  | list

inductive Answer where
  | id (value : Value)
  | ids (values : List Value)
  | count (n : Nat)
  | done
  | names (names : List String)
  | found (found : Matches)

def Outcome.map {α β : Type} (f : α → β) (outcome : Outcome α) : Outcome β :=
  ⟨outcome.result.map f, outcome.database, outcome.disk⟩

namespace Call

def perform (database : Database) (disk : Disk) : Call → Outcome Answer
  | add name fields validator => (database.add name fields validator disk).map .id
  | addAll name records validator => (database.addAll name records validator disk).map .ids
  | update name changes filters => (database.update name changes filters disk).map .count
  | delete name filters => (database.delete name filters disk).map .count
  | truncate name => (database.truncate name disk).map .count
  | drop name => (database.drop name disk).map fun _ => .done
  | burn => (database.burn disk).map .names
  | find name filters limit => ⟨(database.find name filters limit).map .found, database, disk⟩
  | count name => ⟨(database.count name).map .count, database, disk⟩
  | list => ⟨.ok (.names database.list), database, disk⟩

end Call

structure Request where
  call : Call
  denied : Location → Option String

/-- Serves a request while the system denies what the request says. -/
def Request.serve (database : Database) (disk : Disk) (request : Request) : Outcome Answer :=
  request.call.perform database { disk with denied := request.denied }

/-- The database and the disk that requests leave behind. -/
def serveAll : List Request → Database → Disk → Database × Disk
  | [], database, disk => (database, disk)
  | request :: rest, database, disk =>
    let outcome := request.serve database disk
    serveAll rest outcome.database outcome.disk

def answers : List Request → Database → Disk → List (Except Error Answer)
  | [], _, _ => []
  | request :: rest, database, disk =>
    let outcome := request.serve database disk
    outcome.result :: answers rest outcome.database outcome.disk

/-! ## Like databases -/

/-- The databases hold the same tables and store them under the same names. -/
structure Database.Like (database other : Database) : Prop where
  tables : database.tables = other.tables
  files : database.files.SameNames other.files

/-- The results are the same, and like databases and alike disks are left behind. -/
structure Outcome.Like {α : Type} (outcome other : Outcome α) : Prop where
  result : outcome.result = other.result
  database : outcome.database.Like other.database
  disk : outcome.disk.Alike other.disk

theorem Outcome.Like.map {α β : Type} {outcome other : Outcome α} (hlike : outcome.Like other)
    (f : α → β) : (outcome.map f).Like (other.map f) :=
  ⟨congrArg (Except.map f) hlike.result, hlike.database, hlike.disk⟩

namespace Database

variable {database other : Database} {disk later : Disk}

theorem Like.refl (database : Database) : database.Like database :=
  ⟨rfl, rfl, rfl⟩

theorem Like.table_eq (hlike : database.Like other) (name : String) :
    database.table name = other.table name := by
  rw [table, table, hlike.tables]

theorem commit_like (hlike : database.Like other) (halike : disk.Alike later) {α : Type}
    (name : String) (table : Table) (result : α) :
    (database.commit name table result disk).Like (other.commit name table result later) := by
  obtain ⟨hresult, hdisk⟩ := TableFiles.flush_alike hlike.files halike name table table
  rw [commit, commit]
  rcases hfirst : database.files.flush name table disk with ⟨first, left⟩
  rcases hsecond : other.files.flush name table later with ⟨second, right⟩
  rw [hfirst, hsecond] at hresult hdisk
  cases hresult
  cases first with
  | error refusal => exact ⟨rfl, hlike, hdisk⟩
  | ok =>
      exact ⟨rfl, ⟨congrArg (Keyed.insert name table) hlike.tables, hlike.files⟩, hdisk⟩

theorem write_like (hlike : database.Like other) (halike : disk.Alike later) {α : Type}
    (name : String) (change : Except Error (α × Option Table)) :
    (database.write name change disk).Like (other.write name change later) := by
  rcases change with error | ⟨result, _ | table⟩
  · exact ⟨rfl, hlike, halike⟩
  · exact ⟨rfl, hlike, halike⟩
  · exact commit_like hlike halike name table result

theorem drop_like (hlike : database.Like other) (halike : disk.Alike later) (name : String) :
    (database.drop name disk).Like (other.drop name later) := by
  rw [drop, drop, hlike.table_eq]
  cases other.table name with
  | error error => exact ⟨rfl, hlike, halike⟩
  | ok table =>
      rcases TableFiles.remove_alike hlike.files halike name with
        ⟨refusal, hfirst, hsecond⟩ | ⟨removed, left, right, hfirst, hsecond, hdisk⟩
      · rw [hfirst, hsecond]
        exact ⟨rfl, hlike, halike⟩
      · rw [hfirst, hsecond]
        exact ⟨rfl, ⟨congrArg (Keyed.erase name) hlike.tables, hlike.files⟩, hdisk⟩

theorem burnAll_like (hlike : database.Like other) (halike : disk.Alike later)
    (burned names : List String) :
    (burnAll burned names database disk).Like (burnAll burned names other later) := by
  induction names generalizing burned database other disk later with
  | nil => exact ⟨rfl, hlike, halike⟩
  | cons name rest ih =>
      rw [burnAll, burnAll]
      rcases TableFiles.remove_alike hlike.files halike name with
        ⟨refusal, hfirst, hsecond⟩ | ⟨removed, left, right, hfirst, hsecond, hdisk⟩
      · rw [hfirst, hsecond]
        exact ⟨rfl, hlike, halike⟩
      · rw [hfirst, hsecond]
        have herased : Like { database with tables := Keyed.erase name database.tables }
            { other with tables := Keyed.erase name other.tables } :=
          ⟨congrArg (Keyed.erase name) hlike.tables, hlike.files⟩
        exact ih herased hdisk (name :: burned)

theorem burn_like (hlike : database.Like other) (halike : disk.Alike later) :
    (database.burn disk).Like (other.burn later) := by
  have hnames : database.allNames disk = other.allNames later := by
    rw [allNames, allNames, TableFiles.discover_alike hlike.files halike, list, list,
      hlike.tables]
  rw [burn, burn, hnames]
  cases other.allNames later with
  | error refusal => exact ⟨rfl, hlike, halike⟩
  | ok names =>
      have hburned := burnAll_like hlike halike [] names
      rcases hfirst : burnAll [] names database disk with ⟨first, burned, left⟩
      rcases hsecond : burnAll [] names other later with ⟨second, emptied, right⟩
      rw [hfirst, hsecond] at hburned
      obtain ⟨hresult, hdatabase, hdisk⟩ := hburned
      cases hresult
      dsimp only
      rw [hfirst, hsecond]
      cases first with
      | error error => exact ⟨rfl, hdatabase, hdisk⟩
      | ok removed => exact ⟨rfl, hdatabase, TableFiles.sweep_alike hdatabase.files hdisk⟩

end Database

open Database (write_like drop_like burn_like)

theorem Call.perform_like {database other : Database} {disk later : Disk}
    (hlike : database.Like other) (halike : disk.Alike later) (call : Call) :
    (call.perform database disk).Like (call.perform other later) := by
  cases call with
  | add name fields validator =>
      have hchange : database.appended name [fields] validator =
          other.appended name [fields] validator := by
        rw [Database.appended, Database.appended, hlike.tables]
      rw [perform, perform, Database.add, Database.add, hchange]
      exact (write_like hlike halike name _).map _
  | addAll name records validator =>
      have hchange : database.appended name records validator =
          other.appended name records validator := by
        rw [Database.appended, Database.appended, hlike.tables]
      rw [perform, perform, Database.addAll, Database.addAll, hchange]
      exact (write_like hlike halike name _).map _
  | update name changes filters =>
      have hchange : database.updated name changes filters =
          other.updated name changes filters := by
        rw [Database.updated, Database.updated, hlike.table_eq]
      rw [perform, perform, Database.update, Database.update, hchange]
      exact (write_like hlike halike name _).map _
  | delete name filters =>
      have hchange : database.deleted name filters = other.deleted name filters := by
        rw [Database.deleted, Database.deleted, hlike.table_eq]
      rw [perform, perform, Database.delete, Database.delete, hchange]
      exact (write_like hlike halike name _).map _
  | truncate name =>
      rw [perform, perform, Database.truncate, Database.truncate, hlike.table_eq]
      exact (write_like hlike halike name _).map _
  | drop name => exact (drop_like hlike halike name).map _
  | burn => exact (burn_like hlike halike).map _
  | find name filters limit =>
      rw [perform, perform, Database.find, Database.find, hlike.table_eq]
      exact ⟨rfl, hlike, halike⟩
  | count name =>
      rw [perform, perform, Database.count, Database.count, hlike.table_eq]
      exact ⟨rfl, hlike, halike⟩
  | list =>
      rw [perform, perform, Database.list, Database.list, hlike.tables]
      exact ⟨rfl, hlike, halike⟩

/-- Like databases on alike disks answer every run alike. -/
theorem answers_like {database other : Database} {disk later : Disk}
    (hlike : database.Like other) (halike : disk.Alike later) (requests : List Request) :
    answers requests database disk = answers requests other later := by
  induction requests generalizing database other disk later with
  | nil => rfl
  | cons request rest ih =>
      have hserve := Call.perform_like hlike (halike.permitting request.denied) request.call
      rw [answers, answers, Request.serve, Request.serve, hserve.result,
        ih hserve.database hserve.disk]

end DocumentStore
