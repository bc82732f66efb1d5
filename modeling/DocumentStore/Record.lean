import DocumentStore.Json.Tree
import DocumentStore.Value.Order
import DocumentStore.Value.Path

/-!
# Records

A record is a map from field names to values.  Stored records carry an `id` field; a record that
lacks one reads as having the id `null`.  A path names a field first and only then the way into
nested maps, so a field whose own name has dots stays reachable.
-/

namespace DocumentStore

structure Record where
  fields : Keyed Value
deriving Inhabited, Repr

def idField : String :=
  "id"

namespace Record

instance : BEq Record := ⟨fun a b => Value.sameFields a.fields b.fields⟩

def get? (name : String) (record : Record) : Option Value :=
  Keyed.find? name record.fields

def field (name : String) (record : Record) : Value :=
  (record.get? name).getD .null

def id (record : Record) : Value :=
  record.field idField

def hasField (name : String) (record : Record) : Bool :=
  Keyed.contains name record.fields

/-- The value a path leads to, or `null`.  A field with the path as its name comes first. -/
def resolve (path : String) (record : Record) : Value :=
  match record.get? path with
  | some value => value
  | none =>
    let (head, tail) := Chars.splitFirst '.' path.toList
    let value := record.field (String.ofList head)
    match tail with
    | some rest => value.resolve (String.ofList rest)
    | none => value

def toValue (record : Record) : Value :=
  .map record.fields

def toTree (record : Record) : Json.Tree :=
  .map (Value.toTreeFields record.fields)

def merge (changes : Keyed Value) (record : Record) : Record :=
  ⟨Keyed.merge record.fields changes⟩

end Record

end DocumentStore
