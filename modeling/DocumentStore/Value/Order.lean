import DocumentStore.Value.Basic

/-!
# Equality and order of values

Three relations are used.  `==` is structural: values of different kinds differ, and doubles
compare as IEEE numbers do.  `equivalent` also lets an integer equal a double, after rounding the
integer to a double, at any depth.  `compare?` orders numbers among each other and texts among
each other, and nothing else.
-/

namespace DocumentStore

namespace Value

mutual
def same : Value → Value → Bool
  | null, null => true
  | boolean a, boolean b => a == b
  | integer a, integer b => a == b
  | float a, float b => a.equals b
  | text a, text b => a == b
  | list a, list b => sameItems a b
  | map a, map b => sameFields a b
  | _, _ => false

def sameItems : List Value → List Value → Bool
  | [], [] => true
  | a :: as, b :: bs => a.same b && sameItems as bs
  | _, _ => false

def sameFields : List (String × Value) → List (String × Value) → Bool
  | [], [] => true
  | (j, a) :: as, (k, b) :: bs => j == k && a.same b && sameFields as bs
  | _, _ => false
end

instance : BEq Value := ⟨same⟩

mutual
/-- Equality of predicates: structural, but numbers of both kinds compare by value. -/
def equivalent : Value → Value → Bool
  | integer a, float b => (Double.ofInt a.toInt).equals b
  | float a, integer b => (Double.ofInt b.toInt).equals a
  | list a, list b => equivalentItems a b
  | map a, map b => equivalentFields a b
  | a, b => a == b

def equivalentItems : List Value → List Value → Bool
  | [], [] => true
  | a :: as, b :: bs => a.equivalent b && equivalentItems as bs
  | _, _ => false

def equivalentFields : List (String × Value) → List (String × Value) → Bool
  | [], [] => true
  | (j, a) :: as, (k, b) :: bs => j == k && a.equivalent b && equivalentFields as bs
  | _, _ => false
end

/-- Order of two numbers or two texts; texts compare by code points. -/
def compare? : Value → Value → Option Ordering
  | integer a, integer b => some (compare a.toInt b.toInt)
  | text a, text b => some (compare a b)
  | a, b =>
    match a.number?, b.number? with
    | some x, some y => x.compare? y
    | _, _ => none

end Value

end DocumentStore
