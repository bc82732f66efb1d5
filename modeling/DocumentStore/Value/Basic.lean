import DocumentStore.Double
import DocumentStore.Keyed

/-!
# Values

A `Value` is what a record field can hold: nothing, a truth value, a 64-bit integer, a double, a
text, a list of values or a map from names to values.  The fields of a map stand in name order
(`Value.Sorted`).

Traversals recurse through three functions, one for a value, one for a list of values and one for
the fields of a map.
-/

namespace DocumentStore

inductive Value where
  | null
  | boolean (truth : Bool)
  | integer (n : Int64)
  | float (x : Double)
  | text (s : String)
  | list (items : List Value)
  | map (fields : List (String × Value))
deriving Inhabited, Repr

inductive Kind where
  | null | boolean | integer | float | text | list | map
deriving DecidableEq, Repr, Inhabited

namespace Kind

def name : Kind → String
  | null => "null"
  | boolean => "boolean"
  | integer => "integer"
  | float => "float"
  | text => "text"
  | list => "list"
  | map => "map"

def all : List Kind :=
  [null, boolean, integer, float, text, list, map]

def ofName? (name : String) : Option Kind :=
  all.find? fun kind => kind.name == name

end Kind

namespace Value

def kind : Value → Kind
  | null => .null
  | boolean _ => .boolean
  | integer _ => .integer
  | float _ => .float
  | text _ => .text
  | list _ => .list
  | map _ => .map

def isNull : Value → Bool
  | null => true
  | _ => false

def isNumber : Value → Bool
  | integer _ => true
  | float _ => true
  | _ => false

def truth? : Value → Option Bool
  | boolean b => some b
  | _ => none

def integer? : Value → Option Int64
  | integer n => some n
  | _ => none

/-- The number as a double: an integer is rounded to the nearest one. -/
def number? : Value → Option Double
  | integer n => some (Double.ofInt n.toInt)
  | float x => some x
  | _ => none

def text? : Value → Option String
  | text s => some s
  | _ => none

def items? : Value → Option (List Value)
  | list items => some items
  | _ => none

def fields? : Value → Option (Keyed Value)
  | map fields => some fields
  | _ => none

mutual
/-- No NaN and no infinity occurs anywhere in the value. -/
def isFinite : Value → Bool
  | float x => x.isFinite
  | list items => allFinite items
  | map fields => fieldsFinite fields
  | _ => true

def allFinite : List Value → Bool
  | [] => true
  | item :: rest => item.isFinite && allFinite rest

def fieldsFinite : List (String × Value) → Bool
  | [] => true
  | (_, item) :: rest => item.isFinite && fieldsFinite rest
end

mutual
/-- Lists and maps nest more than `limit` levels deep; the descent stops at the limit. -/
def exceedsDepth : Value → Nat → Bool
  | list items, limit => limit == 0 || anyExceedsDepth items (limit - 1)
  | map fields, limit => limit == 0 || fieldsExceedDepth fields (limit - 1)
  | _, _ => false

def anyExceedsDepth : List Value → Nat → Bool
  | [], _ => false
  | item :: rest, limit => item.exceedsDepth limit || anyExceedsDepth rest limit

def fieldsExceedDepth : List (String × Value) → Nat → Bool
  | [], _ => false
  | (_, item) :: rest, limit => item.exceedsDepth limit || fieldsExceedDepth rest limit
end

mutual
/-- The fields of every map in the value stand in name order. -/
def Sorted : Value → Prop
  | list items => AllSorted items
  | map fields => Keyed.Sorted fields ∧ FieldsSorted fields
  | _ => True

def AllSorted : List Value → Prop
  | [] => True
  | item :: rest => item.Sorted ∧ AllSorted rest

def FieldsSorted : List (String × Value) → Prop
  | [] => True
  | (_, item) :: rest => item.Sorted ∧ FieldsSorted rest
end

end Value

end DocumentStore
