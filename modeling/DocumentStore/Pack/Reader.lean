import DocumentStore.Bytes
import DocumentStore.Value.Basic

/-!
# Reading MessagePack

An object starts with a `Head`, which holds a scalar or the size of what follows.  `readValue
depth` reads a value whose lists and maps nest at most `depth` levels deep.  Any width of a number
or length is accepted, binary data counts as text if it is UTF-8, and an unsigned integer beyond
64 signed bits becomes a double.  The names of a map have to be texts, and the last of several
fields with one name counts.  Extension objects are no values.

`skipValue` reads past any object, extension objects and maps with other keys included.
-/

namespace DocumentStore

namespace Pack

/-- The first part of an object.  A number is `unsigned` or `signed` by the form it is written in,
not by its value. -/
inductive Head where
  | null
  | boolean (truth : Bool)
  | unsigned (n : Nat)
  | signed (n : Int)
  | single (bits : UInt32)
  | double (bits : UInt64)
  | text (size : Nat)
  | binary (size : Nat)
  | list (size : Nat)
  | map (size : Nat)
  | extension (size : Nat)
deriving DecidableEq, Repr

def readNat (width : Nat) (input : Bytes) : Option (Nat × Bytes) :=
  (Bytes.take? width input).map fun (bytes, rest) => (Bytes.toNat bytes, rest)

/-- The number that `width` bytes hold in two's complement. -/
def toSigned (width n : Nat) : Int :=
  if n < Nat.pow 2 (8 * width - 1) then n else (n : Int) - Nat.pow 2 (8 * width)

def headOf (width : Nat) (head : Nat → Head) (input : Bytes) : Option (Head × Bytes) :=
  (readNat width input).map fun (n, rest) => (head n, rest)

def readHead (input : Bytes) : Option (Head × Bytes) :=
  match input with
  | [] => none
  | first :: rest =>
    let code := first.toNat
    if code < 0x80 then some (.unsigned code, rest)
    else if code < 0x90 then some (.map (code - 0x80), rest)
    else if code < 0xa0 then some (.list (code - 0x90), rest)
    else if code < 0xc0 then some (.text (code - 0xa0), rest)
    else if code < 0xe0 then
      match code with
      | 0xc0 => some (.null, rest)
      | 0xc2 => some (.boolean false, rest)
      | 0xc3 => some (.boolean true, rest)
      | 0xc4 => headOf 1 .binary rest
      | 0xc5 => headOf 2 .binary rest
      | 0xc6 => headOf 4 .binary rest
      | 0xc7 => headOf 1 .extension rest
      | 0xc8 => headOf 2 .extension rest
      | 0xc9 => headOf 4 .extension rest
      | 0xca => headOf 4 (fun n => .single (UInt32.ofNat n)) rest
      | 0xcb => headOf 8 (fun n => .double (UInt64.ofNat n)) rest
      | 0xcc => headOf 1 .unsigned rest
      | 0xcd => headOf 2 .unsigned rest
      | 0xce => headOf 4 .unsigned rest
      | 0xcf => headOf 8 .unsigned rest
      | 0xd0 => headOf 1 (fun n => .signed (toSigned 1 n)) rest
      | 0xd1 => headOf 2 (fun n => .signed (toSigned 2 n)) rest
      | 0xd2 => headOf 4 (fun n => .signed (toSigned 4 n)) rest
      | 0xd3 => headOf 8 (fun n => .signed (toSigned 8 n)) rest
      | 0xd4 => some (.extension 1, rest)
      | 0xd5 => some (.extension 2, rest)
      | 0xd6 => some (.extension 4, rest)
      | 0xd7 => some (.extension 8, rest)
      | 0xd8 => some (.extension 16, rest)
      | 0xd9 => headOf 1 .text rest
      | 0xda => headOf 2 .text rest
      | 0xdb => headOf 4 .text rest
      | 0xdc => headOf 2 .list rest
      | 0xdd => headOf 4 .list rest
      | 0xde => headOf 2 .map rest
      | 0xdf => headOf 4 .map rest
      | _ => none
    else some (.signed ((code : Int) - 0x100), rest)

def readText (size : Nat) (input : Bytes) : Option (String × Bytes) := do
  let (bytes, rest) ← Bytes.take? size input
  let text ← Bytes.toText? bytes
  return (text, rest)

/-- Reads a text in either of its forms. -/
def readName (input : Bytes) : Option (String × Bytes) := do
  match ← readHead input with
  | (.text size, rest) => readText size rest
  | (.binary size, rest) => readText size rest
  | _ => none

def readScalar (head : Head) (rest : Bytes) : Option (Value × Bytes) :=
  match head with
  | .null => some (.null, rest)
  | .boolean truth => some (.boolean truth, rest)
  | .unsigned n =>
    if n < 0x8000000000000000 then some (.integer (Int64.ofNat n), rest)
    else some (.float (Double.ofInt n), rest)
  | .signed n => some (.integer (Int64.ofInt n), rest)
  | .single bits => some (.float (Double.ofSingle bits), rest)
  | .double bits => some (.float ⟨bits⟩, rest)
  | .text size => (readText size rest).map fun (text, rest) => (.text text, rest)
  | .binary size => (readText size rest).map fun (text, rest) => (.text text, rest)
  | .list _ | .map _ | .extension _ => none

def readMany {α : Type} (item : Bytes → Option (α × Bytes)) : Nat → Bytes → Option (List α × Bytes)
  | 0, input => some ([], input)
  | count + 1, input => do
    let (first, rest) ← item input
    let (items, rest) ← readMany item count rest
    return (first :: items, rest)

/-- Reads a key and an item, which may be read by the key. -/
def readPair {α β : Type} (key : Bytes → Option (α × Bytes)) (item : α → Bytes → Option (β × Bytes))
    (input : Bytes) : Option ((α × β) × Bytes) := do
  let (a, rest) ← key input
  let (b, rest) ← item a rest
  return ((a, b), rest)

def readValue : Nat → Bytes → Option (Value × Bytes)
  | 0, input => do
    let (head, rest) ← readHead input
    readScalar head rest
  | depth + 1, input => do
    match ← readHead input with
    | (.list size, rest) =>
      let (items, rest) ← readMany (readValue depth) size rest
      return (.list items, rest)
    | (.map size, rest) =>
      let (fields, rest) ← readMany (readPair readName fun _ => readValue depth) size rest
      return (.map (Keyed.ofList fields), rest)
    | (head, rest) => readScalar head rest

def skipScalar (head : Head) (rest : Bytes) : Option (Unit × Bytes) :=
  match head with
  | .text size | .binary size => (Bytes.take? size rest).map fun (_, rest) => ((), rest)
  | .list _ | .map _ | .extension _ => none
  | _ => some ((), rest)

/-- Reads past an object nested at most `depth` levels deep; an extension is one level. -/
def skipValue : Nat → Bytes → Option (Unit × Bytes)
  | 0, input => do
    let (head, rest) ← readHead input
    skipScalar head rest
  | depth + 1, input => do
    match ← readHead input with
    | (.list size, rest) => (readMany (skipValue depth) size rest).map fun (_, rest) => ((), rest)
    | (.map size, rest) =>
      (readMany (readPair (skipValue depth) fun _ => skipValue depth) size rest).map
        fun (_, rest) => ((), rest)
    | (.extension size, rest) =>
      (Bytes.take? (size + 1) rest).map fun (_, rest) => ((), rest)
    | (head, rest) => skipScalar head rest

def maxDepth : Nat :=
  1023

/-- Reads the value at the start of a document; what follows it does not matter. -/
def read? (depth : Nat) (input : Bytes) : Option Value :=
  (readValue depth input).map Prod.fst

end Pack

end DocumentStore
