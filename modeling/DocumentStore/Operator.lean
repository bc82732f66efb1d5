/-!
# Operators

An operator says how a predicate compares the value of a field with its operand.  In query keys
operators stand by name after a separator.
-/

namespace DocumentStore

inductive Comparison where
  | gt | gte | lt | lte
deriving DecidableEq, Repr, Inhabited

inductive Operator where
  | eq | ne | contains | startswith | endswith
  | order (comparison : Comparison)
  | isIn | notIn | regex
deriving DecidableEq, Repr, Inhabited

namespace Comparison

def name : Comparison → String
  | gt => "gt"
  | gte => "gte"
  | lt => "lt"
  | lte => "lte"

/-- The comparison holds when the field stands in this order to the operand. -/
def accepts : Comparison → Ordering → Bool
  | gt, order => order.isGT
  | gte, order => order.isGE
  | lt, order => order.isLT
  | lte, order => order.isLE

end Comparison

namespace Operator

/-- Stands between the field and the operator of a query key. -/
def separator : String :=
  "__"

def name : Operator → String
  | eq => "eq"
  | ne => "ne"
  | contains => "contains"
  | startswith => "startswith"
  | endswith => "endswith"
  | order comparison => comparison.name
  | isIn => "in"
  | notIn => "nin"
  | regex => "regex"

def all : List Operator :=
  [eq, ne, contains, startswith, endswith, order .gt, order .gte, order .lt, order .lte,
    isIn, notIn, regex]

def ofName? (name : String) : Option Operator :=
  all.find? fun operator => operator.name == name

end Operator

end DocumentStore
