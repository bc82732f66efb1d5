import DocumentStore.Error
import DocumentStore.Record

/-!
# Tables

A table holds its records in the order of their insertion, the ids in use and the counter from
which records without an id get theirs.  `Table.prepare` turns given fields into a record with an
id of its own and advances the counter; the record is appended by `Table.push`.

`Table.ofParts?` rebuilds a table from its records and counter and checks that ids are integers or
texts, lie below the counter and do not repeat.
-/

namespace DocumentStore

inductive Key where
  | integer (n : Int64)
  | text (s : String)
deriving DecidableEq, Repr, Inhabited

namespace Key

def ofValue? : Value → Option Key
  | .integer n => some (integer n)
  | .text s => some (text s)
  | _ => none

def toValue : Key → Value
  | integer n => .integer n
  | text s => .text s

end Key

structure Table where
  records : List Record
  ids : List Key
  nextId : Int64
deriving Inhabited, Repr

def firstId : Int64 :=
  1

/-- The number after `n`; the greatest one is its own successor. -/
def nextAfter (n : Int64) : Int64 :=
  if n = Int64.maxValue then n else n + 1

/-- Refuses the first value that a table file could not hold and give back. -/
def checkStorable : List Value → Except RecordFault Unit
  | [] => .ok ()
  | value :: rest =>
    if !value.isFinite then .error .nonFinite
    else if value.exceedsDepth maxNesting then .error .tooDeep
    else checkStorable rest

namespace Table

instance : BEq Table :=
  ⟨fun a b => a.records == b.records && a.ids == b.ids && a.nextId == b.nextId⟩

def empty : Table :=
  ⟨[], [], firstId⟩

def size (table : Table) : Nat :=
  table.records.length

def containsId (id : Value) (table : Table) : Bool :=
  match Key.ofValue? id with
  | some key => table.ids.contains key
  | none => false

/-- The ids of records from `position` on, after `seen` ones; each has to be of the right kind, below
the counter unless that has reached its end, and new. -/
def collectIds (nextId : Int64) : Nat → List Key → List Record → Except TableFault (List Key)
  | _, _, [] => .ok []
  | position, seen, record :: rest =>
    match Key.ofValue? record.id with
    | none => .error (.idKind position record.id.kind)
    | some key =>
      match key with
      | .integer n =>
        if nextId ≤ n ∧ nextId ≠ Int64.maxValue then .error (.staleCounter position n nextId)
        else if seen.contains key then .error (.duplicateId position record.id)
        else (collectIds nextId (position + 1) (key :: seen) rest).map (key :: ·)
      | .text _ =>
        if seen.contains key then .error (.duplicateId position record.id)
        else (collectIds nextId (position + 1) (key :: seen) rest).map (key :: ·)

/-- The table with these records and this counter, or the first fault in them. -/
def ofParts? (records : List Record) (nextId : Int64) : Except TableFault Table := do
  let ids ← collectIds nextId 0 [] records
  return ⟨records, ids, nextId⟩

/-- Makes a record of the given fields and reserves its id.  An explicit id keeps the counter above
it; a missing one is taken from the counter. -/
def prepare (name : String) (fields : Value) (table : Table) : Except Error (Record × Table) := do
  let .map fields := fields | .error (.invalidRecord (.notMap fields.kind))
  match checkStorable (fields.map Prod.snd) with
  | .error fault => .error (.invalidRecord fault)
  | .ok () =>
    match Keyed.find? idField fields with
    | some id =>
      match Key.ofValue? id with
      | none => .error (.invalidRecord (.idKind id.kind))
      | some key =>
        if table.ids.contains key then .error (.idCollision name id)
        else
          match key with
          | .integer n =>
            let nextId := if table.nextId ≤ n then nextAfter n else table.nextId
            .ok (⟨fields⟩, { table with nextId })
          | .text _ => .ok (⟨fields⟩, table)
    | none =>
      let id := table.nextId
      if table.ids.contains (.integer id) then .error (.idCollision name (.integer id))
      else
        .ok (⟨Keyed.insert idField (.integer id) fields⟩, { table with nextId := nextAfter id })

def push (record : Record) (table : Table) : Table :=
  { table with
    records := table.records ++ [record]
    ids := table.ids ++ (Key.ofValue? record.id).toList }

def partition {ε : Type} (test : Record → Except ε Bool) :
    List Record → Except ε (List Record × List Record)
  | [] => .ok ([], [])
  | record :: rest => do
    let chosen ← test record
    let (inside, outside) ← partition test rest
    return if chosen then (record :: inside, outside) else (inside, record :: outside)

/-- Removes the records for which the test holds and tells how many these were.  The counter is
kept, and the first failing test stops the removal. -/
def removeWhere {ε : Type} (test : Record → Except ε Bool) (table : Table) :
    Except ε (Nat × Table) := do
  let (removed, kept) ← partition test table.records
  let freed := removed.filterMap fun record => Key.ofValue? record.id
  return (removed.length,
    { table with records := kept, ids := table.ids.filter fun key => !freed.contains key })

def mergeWhere {ε : Type} (test : Record → Except ε Bool) (changes : Keyed Value) :
    List Record → Except ε (Nat × List Record)
  | [] => .ok (0, [])
  | record :: rest => do
    let chosen ← test record
    let (count, merged) ← mergeWhere test changes rest
    return if chosen then (count + 1, record.merge changes :: merged)
      else (count, record :: merged)

/-- Overwrites fields of the records for which the test holds and tells how many these were. -/
def updateWhere {ε : Type} (test : Record → Except ε Bool) (changes : Keyed Value)
    (table : Table) : Except ε (Nat × Table) := do
  let (count, records) ← mergeWhere test changes table.records
  return (count, { table with records })

def clear (table : Table) : Table :=
  { table with records := [], ids := [] }

end Table

end DocumentStore
