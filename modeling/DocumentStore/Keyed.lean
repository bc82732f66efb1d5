/-!
# Entries in name order

A `Keyed` list pairs names with items and is kept in increasing order of the names, which is
the order of their UTF-8 encodings.  Fields of a map, entries of a folder and tables of a
database are all held this way, so listing one never needs a sort.

`Keyed.Sorted` is the invariant; `find?` looks a name up, `insert` and `erase` keep the order.
-/

namespace DocumentStore

abbrev Keyed (α : Type) := List (String × α)

namespace Keyed

variable {α β : Type}

def find? (name : String) : Keyed α → Option α
  | [] => none
  | (key, item) :: rest => if key = name then some item else find? name rest

def contains (name : String) (entries : Keyed α) : Bool :=
  (find? name entries).isSome

/-- Adds an entry, or replaces the item already held under its name. -/
def insert (name : String) (item : α) : Keyed α → Keyed α
  | [] => [(name, item)]
  | (key, old) :: rest =>
    if name < key then (name, item) :: (key, old) :: rest
    else if key = name then (name, item) :: rest
    else (key, old) :: insert name item rest

def erase (name : String) : Keyed α → Keyed α
  | [] => []
  | (key, item) :: rest => if key = name then rest else (key, item) :: erase name rest

def ofList (entries : List (String × α)) : Keyed α :=
  entries.foldl (fun found entry => insert entry.1 entry.2 found) []

/-- Overwrites and extends `entries` by `changes`. -/
def merge (entries changes : Keyed α) : Keyed α :=
  changes.foldl (fun found entry => insert entry.1 entry.2 found) entries

def names (entries : Keyed α) : List String :=
  entries.map Prod.fst

def Sorted (entries : Keyed α) : Prop :=
  (names entries).Pairwise (· < ·)

end Keyed

end DocumentStore
