import DocumentStore.Predicate

/-!
# Queries

`Filters` collects the predicates of a query from keys and operands; the first key that cannot be
read is its error.  `Changes` collects what an update does to the records it selects.

`Matches` is the result of a query: the records of a table as they were, the predicates and a
limit.  Its items are computed on demand and in the order of the records, by a `Pass` that can be
started any number of times.  A record that the predicates cannot be evaluated on is an error among
the items, which does not count as a match; the pass goes on after it.
-/

namespace DocumentStore

abbrev Filters := Except Error (List Predicate)

namespace Filters

def empty : Filters :=
  .ok []

def push (predicate : Predicate) (filters : Filters) : Filters :=
  filters.map fun predicates => predicates ++ [predicate]

def add (key : String) (operand : Value) (filters : Filters) : Filters := do
  let predicates ← filters
  let predicate ← Predicate.ofKey key operand
  return predicates ++ [predicate]

end Filters

abbrev Changes := Except RecordFault (Keyed Value)

namespace Changes

def empty : Changes :=
  .ok []

def set (field : String) (value : Value) (changes : Changes) : Changes :=
  changes.map fun fields => Keyed.insert field value fields

def setAll (value : Value) (changes : Changes) : Changes := do
  let fields ← changes
  match value with
  | .map more => return Keyed.merge fields more
  | _ => .error (.changesNotMap value.kind)

end Changes

/-- Where a pass over the records of a query has got to: the records that it has not seen yet and
how many matches it may still give. -/
structure Pass where
  predicates : List Predicate
  records : List Record
  remaining : Option Nat
deriving Repr

namespace Pass

/-- The first of the records that is a match or an error, and the pass after it. -/
def scan (predicates : List Predicate) (remaining : Option Nat) :
    List Record → Option (Except EvalError Record) × Pass
  | [] => (none, ⟨predicates, [], remaining⟩)
  | record :: rest =>
    match Predicate.matchesAll predicates record with
    | .ok false => scan predicates remaining rest
    | .ok true => (some (.ok record), ⟨predicates, rest, remaining.map (· - 1)⟩)
    | .error error => (some (.error error), ⟨predicates, rest, remaining⟩)

def next (pass : Pass) : Option (Except EvalError Record) × Pass :=
  if pass.remaining = some 0 then (none, pass)
  else scan pass.predicates pass.remaining pass.records

theorem length_scan {predicates : List Predicate} {remaining : Option Nat} {records : List Record}
    {item : Except EvalError Record} {after : Pass}
    (hscan : scan predicates remaining records = (some item, after)) :
    after.records.length < records.length := by
  induction records with
  | nil => simp [scan] at hscan
  | cons record rest ih =>
      unfold scan at hscan
      split at hscan
      · exact Nat.lt_succ_of_lt (ih hscan)
      · cases hscan
        exact Nat.lt_succ_self _
      · cases hscan
        exact Nat.lt_succ_self _

theorem length_next {pass after : Pass} {item : Except EvalError Record}
    (hnext : pass.next = (some item, after)) : after.records.length < pass.records.length := by
  unfold next at hnext
  split at hnext
  · cases hnext
  · exact length_scan hnext

/-- All that the pass still gives. -/
def toList (pass : Pass) : List (Except EvalError Record) :=
  match _hnext : pass.next with
  | (none, _) => []
  | (some item, after) => item :: after.toList
termination_by pass.records.length
decreasing_by exact length_next _hnext

end Pass

structure Matches where
  table : String
  records : List Record
  predicates : List Predicate
  limit : Option Nat
deriving Repr

namespace Matches

def iter (found : Matches) : Pass :=
  ⟨found.predicates, found.records, found.limit⟩

def items (found : Matches) : List (Except EvalError Record) :=
  found.iter.toList

def toList (found : Matches) : Except EvalError (List Record) :=
  found.items.mapM id

def count (found : Matches) : Except EvalError Nat :=
  found.toList.map List.length

def first? (found : Matches) : Except EvalError (Option Record) :=
  match found.iter.next.1 with
  | none => .ok none
  | some item => item.map some

/-- The fields of all matches as JSON data, where a double that is not finite becomes `null`. -/
def toTree (found : Matches) : Except EvalError Json.Tree :=
  found.toList.map fun records => .list (records.map Record.toTree)

/-- The JSON data as a value, to be printed. -/
def toValue (found : Matches) : Except EvalError Value :=
  found.toTree.map Value.ofTree

end Matches

end DocumentStore
