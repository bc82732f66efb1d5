import DocumentStore.Json.Scanner
import DocumentStore.Value.Basic

/-!
# Reading JSON

`readValue depth` reads a value whose lists and maps nest at most `depth` levels deep.  It is the
strict grammar: one value, no trailing commas, no comments.  A numeral without fraction and
exponent is an integer if it fits 64 bits, and every other one is a double; numerals beyond the
range of doubles are refused.  The last of several fields with one name counts.

`skipValue` only checks the grammar and forgets what it reads.
-/

namespace DocumentStore

namespace Json

/-- Minus zero is the one integer numeral that only a double can hold. -/
def Numeral.toValue? (numeral : Numeral) : Option Value :=
  let size := digitsToNat numeral.whole
  let n : Int := if numeral.negative then -size else size
  let integral := numeral.fraction.isNone && numeral.exponent.isNone
  if integral && -0x8000000000000000 ≤ n && n < 0x8000000000000000 && !(numeral.negative && size == 0) then
    some (.integer (Int64.ofInt n))
  else
    let x := numeral.decimal.toDouble numeral.negative
    if x.isFinite then some (.float x) else none

def readScalar (input : Bytes) : Option (Value × Bytes) :=
  match input with
  | 0x22 :: rest => (readText rest).map fun (text, rest) => (.text text, rest)
  | 0x6e :: rest => (Bytes.after? [0x75, 0x6c, 0x6c] rest).map fun rest => (.null, rest)
  | 0x74 :: rest => (Bytes.after? [0x72, 0x75, 0x65] rest).map fun rest => (.boolean true, rest)
  | 0x66 :: rest =>
    (Bytes.after? [0x61, 0x6c, 0x73, 0x65] rest).map fun rest => (.boolean false, rest)
  | _ => do
    let (numeral, rest) ← readNumeral input
    let value ← numeral.toValue?
    return (value, rest)

/-- Reads the items of a list up to its closing bracket, given how to read one.  An item takes at
least one byte, so the length of the input is fuel enough. -/
def readItems {α : Type} (item : Bytes → Option (α × Bytes)) :
    Nat → Bytes → Option (List α × Bytes)
  | 0, _ => none
  | fuel + 1, input => do
    let (first, rest) ← item (skipBlanks input)
    match skipBlanks rest with
    | 0x2c :: rest =>
      let (items, rest) ← readItems item fuel rest
      return (first :: items, rest)
    | 0x5d :: rest => return ([first], rest)
    | _ => none

def readField {α β : Type} (name : Bytes → Option (α × Bytes))
    (item : α → Bytes → Option (β × Bytes)) (input : Bytes) : Option ((α × β) × Bytes) :=
  match skipBlanks input with
  | 0x22 :: rest => do
    let (key, rest) ← name rest
    match skipBlanks rest with
    | 0x3a :: rest =>
      let (value, rest) ← item key (skipBlanks rest)
      return ((key, value), rest)
    | _ => none
  | _ => none

def readFields {α : Type} (field : Bytes → Option (α × Bytes)) :
    Nat → Bytes → Option (List α × Bytes)
  | 0, _ => none
  | fuel + 1, input => do
    let (first, rest) ← field input
    match skipBlanks rest with
    | 0x2c :: rest =>
      let (fields, rest) ← readFields field fuel rest
      return (first :: fields, rest)
    | 0x7d :: rest => return ([first], rest)
    | _ => none

def readValue : Nat → Bytes → Option (Value × Bytes)
  | 0, input => readScalar input
  | depth + 1, input =>
    match input with
    | 0x5b :: rest =>
      match skipBlanks rest with
      | 0x5d :: rest => some (.list [], rest)
      | rest => do
        let (items, rest) ← readItems (readValue depth) rest.length rest
        return (.list items, rest)
    | 0x7b :: rest =>
      match skipBlanks rest with
      | 0x7d :: rest => some (.map [], rest)
      | rest => do
        let field := readField readText fun _ => readValue depth
        let (fields, rest) ← readFields field rest.length rest
        return (.map (Keyed.ofList fields), rest)
    | _ => readScalar input

def skipScalar (input : Bytes) : Option (Unit × Bytes) :=
  match input with
  | 0x22 :: rest => (scanPieces [] rest).map fun (_, rest) => ((), rest)
  | 0x6e :: rest => (Bytes.after? [0x75, 0x6c, 0x6c] rest).map fun rest => ((), rest)
  | 0x74 :: rest => (Bytes.after? [0x72, 0x75, 0x65] rest).map fun rest => ((), rest)
  | 0x66 :: rest => (Bytes.after? [0x61, 0x6c, 0x73, 0x65] rest).map fun rest => ((), rest)
  | _ => (readNumeral input).map fun (_, rest) => ((), rest)

def skipValue : Nat → Bytes → Option (Unit × Bytes)
  | 0, input => skipScalar input
  | depth + 1, input =>
    match input with
    | 0x5b :: rest =>
      match skipBlanks rest with
      | 0x5d :: rest => some ((), rest)
      | rest => (readItems (skipValue depth) rest.length rest).map fun (_, rest) => ((), rest)
    | 0x7b :: rest =>
      match skipBlanks rest with
      | 0x7d :: rest => some ((), rest)
      | rest =>
        let name (input : Bytes) := (scanPieces [] input).map fun (_, rest) => ((), rest)
        let field := readField name fun _ => skipValue depth
        (readFields field rest.length rest).map fun (_, rest) => ((), rest)
    | _ => skipScalar input

def maxDepth : Nat :=
  127

def read? (depth : Nat) (input : Bytes) : Option Value := do
  let (value, rest) ← readValue depth (skipBlanks input)
  if (skipBlanks rest).isEmpty then some value else none

end Json

end DocumentStore
