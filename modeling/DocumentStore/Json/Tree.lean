import DocumentStore.Json.Visitor

/-!
# From JSON to values and back

There are two ways from a JSON text to a value.

The text of a file is read as a `Content`, which keeps the fields of maps in the order they came.
The content is then tried as each kind of value in turn, and the first kind that it can be is taken
(`Value.ofContent?`).

A literal of a caller is a `Tree`, the general form of JSON data.  It is turned into a value by
looking at its node, and a number is tested for the ranges of integers (`Value.ofTree`).  The way
back gives the tree of a value (`Value.toTree`), where a double that is not finite has no number.
-/

namespace DocumentStore

namespace Json

/-- What has been read, before it is known as what it will be used. -/
inductive Content where
  | null
  | boolean (truth : Bool)
  | number (found : Number)
  | text (s : String)
  | list (items : List Content)
  | map (fields : List (String × Content))
deriving Repr

/-- JSON data with the fields of maps in name order. -/
inductive Tree where
  | null
  | boolean (truth : Bool)
  | number (found : Number)
  | text (s : String)
  | list (items : List Tree)
  | map (fields : List (String × Tree))
deriving Repr

namespace Content

def visitor : Visitor Content where
  null := .null
  boolean := .boolean
  number := .number
  text := .text
  list := .list
  map := .map

def read? (depth : Nat) (input : Bytes) : Option Content :=
  visit? visitor depth input

def isNull : Content → Bool
  | null => true
  | _ => false

def truth? : Content → Option Bool
  | boolean truth => some truth
  | _ => none

def integer? : Content → Option Int64
  | number found => found.integer?
  | _ => none

/-- Every number can be a double, integers included. -/
def double? : Content → Option Double
  | number found => some found.toDouble
  | _ => none

def text? : Content → Option String
  | text s => some s
  | _ => none

/-- The first kind without parts that the content can be. -/
def scalar? (content : Content) : Option Value :=
  (if content.isNull then some .null else none)
    <|> content.truth?.map .boolean
    <|> content.integer?.map .integer
    <|> content.double?.map .float
    <|> content.text?.map .text

end Content

namespace Tree

/-- The last of several fields with one name counts. -/
def visitor : Visitor Tree where
  null := .null
  boolean := .boolean
  number := .number
  text := .text
  list := .list
  map fields := .map (Keyed.ofList fields)

def read? (depth : Nat) (input : Bytes) : Option Tree :=
  visit? visitor depth input

end Tree

end Json

namespace Value

open Json (Number Content Tree)

mutual
/-- The first kind of value that the content can be, where lists and maps come last. -/
def ofContent? (content : Content) : Option Value :=
  content.scalar? <|>
    match content with
    | .list items => (ofContents? items).map .list
    | .map fields => (ofContentFields? fields).map fun fields => .map (Keyed.ofList fields)
    | _ => none

def ofContents? : List Content → Option (List Value)
  | [] => some []
  | item :: rest => do
    let value ← ofContent? item
    let values ← ofContents? rest
    return value :: values

def ofContentFields? : List (String × Content) → Option (List (String × Value))
  | [] => some []
  | (name, item) :: rest => do
    let value ← ofContent? item
    let fields ← ofContentFields? rest
    return (name, value) :: fields
end

/-- Beyond the integers with a sign the magnitude is kept, but not every digit. -/
def ofNumber (number : Number) : Value :=
  match number.integer? with
  | some n => .integer n
  | none =>
    match number.unsigned? with
    | some n => .float (Double.ofInt n.toNat)
    | none => .float number.toDouble

mutual
def ofTree : Tree → Value
  | .null => .null
  | .boolean truth => .boolean truth
  | .number found => ofNumber found
  | .text s => .text s
  | .list items => .list (ofTrees items)
  | .map fields => .map (ofTreeFields fields)

def ofTrees : List Tree → List Value
  | [] => []
  | item :: rest => ofTree item :: ofTrees rest

def ofTreeFields : List (String × Tree) → List (String × Value)
  | [] => []
  | (name, item) :: rest => (name, ofTree item) :: ofTreeFields rest
end

mutual
/-- The tree of the value.  A double that is not finite becomes `null`. -/
def toTree : Value → Tree
  | .null => .null
  | .boolean truth => .boolean truth
  | .integer n => .number (Number.ofInteger n)
  | .float x => ((Number.ofDouble? x).map Tree.number).getD .null
  | .text s => .text s
  | .list items => .list (toTrees items)
  | .map fields => .map (toTreeFields fields)

def toTrees : List Value → List Tree
  | [] => []
  | item :: rest => toTree item :: toTrees rest

def toTreeFields : List (String × Value) → List (String × Tree)
  | [] => []
  | (name, item) :: rest => (name, toTree item) :: toTreeFields rest
end

end Value

end DocumentStore
