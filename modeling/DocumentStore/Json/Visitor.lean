import DocumentStore.Json.Reader

/-!
# Visiting JSON

A reader of JSON reports what it meets to a visitor, which makes something of it: each scalar, each
list after its items and each map after its fields.  So one reader serves all types that are read
from JSON.

Integers are reported exactly as far as 64 bits hold them, with a sign only if they are negative.
All other numbers are reported as doubles.
-/

namespace DocumentStore

namespace Json

/-- A number as it is reported. -/
inductive Number where
  | unsigned (n : UInt64)
  | negative (n : Int64)
  | real (x : Double)
deriving DecidableEq, Repr

namespace Number

/-- The number as an integer of 64 bits with a sign, if it has been reported as an integer and is
one of these. -/
def integer? : Number → Option Int64
  | unsigned n => if n.toNat < 0x8000000000000000 then some (Int64.ofInt n.toNat) else none
  | negative n => some n
  | real _ => none

def unsigned? : Number → Option UInt64
  | unsigned n => some n
  | negative _ | real _ => none

def toDouble : Number → Double
  | unsigned n => Double.ofInt n.toNat
  | negative n => Double.ofInt n.toInt
  | real x => x

def ofInteger (n : Int64) : Number :=
  if n < 0 then negative n else unsigned (UInt64.ofNat n.toInt.toNat)

/-- Only finite doubles are numbers. -/
def ofDouble? (x : Double) : Option Number :=
  if x.isFinite then some (real x) else none

end Number

/-- Minus zero has no integer, and neither has a number below all integers with a sign. -/
def Numeral.toNumber? (numeral : Numeral) : Option Number :=
  let size := digitsToNat numeral.whole
  if numeral.fraction.isNone && numeral.exponent.isNone && size < 0x10000000000000000 then
    if !numeral.negative then some (.unsigned (UInt64.ofNat size))
    else if size == 0 || 0x8000000000000000 < size then some (.real (Double.ofRatio true size 1))
    else some (.negative (Int64.ofInt (-size)))
  else Number.ofDouble? (numeral.decimal.toDouble numeral.negative)

structure Visitor (α : Type) where
  null : α
  boolean : Bool → α
  number : Number → α
  text : String → α
  list : List α → α
  /-- The fields come in the order of the text, and names may repeat. -/
  map : List (String × α) → α

variable {α : Type}

def visitScalar (visitor : Visitor α) (input : Bytes) : Option (α × Bytes) :=
  match input with
  | 0x22 :: rest => (readText rest).map fun (text, rest) => (visitor.text text, rest)
  | 0x6e :: rest => (Bytes.after? [0x75, 0x6c, 0x6c] rest).map fun rest => (visitor.null, rest)
  | 0x74 :: rest =>
    (Bytes.after? [0x72, 0x75, 0x65] rest).map fun rest => (visitor.boolean true, rest)
  | 0x66 :: rest =>
    (Bytes.after? [0x61, 0x6c, 0x73, 0x65] rest).map fun rest => (visitor.boolean false, rest)
  | _ => do
    let (numeral, rest) ← readNumeral input
    let number ← numeral.toNumber?
    return (visitor.number number, rest)

/-- Lists and maps may nest `depth` levels deep. -/
def visitValue (visitor : Visitor α) : Nat → Bytes → Option (α × Bytes)
  | 0, input => visitScalar visitor input
  | depth + 1, input =>
    match input with
    | 0x5b :: rest =>
      match skipBlanks rest with
      | 0x5d :: rest => some (visitor.list [], rest)
      | rest => do
        let (items, rest) ← readItems (visitValue visitor depth) rest.length rest
        return (visitor.list items, rest)
    | 0x7b :: rest =>
      match skipBlanks rest with
      | 0x7d :: rest => some (visitor.map [], rest)
      | rest => do
        let field := readField readText fun _ => visitValue visitor depth
        let (fields, rest) ← readFields field rest.length rest
        return (visitor.map fields, rest)
    | _ => visitScalar visitor input

/-- Visits a text that is one value with nothing but blanks around it. -/
def visit? (visitor : Visitor α) (depth : Nat) (input : Bytes) : Option α := do
  let (found, rest) ← visitValue visitor depth (skipBlanks input)
  if (skipBlanks rest).isEmpty then some found else none

end Json

end DocumentStore
