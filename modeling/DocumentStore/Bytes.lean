/-!
# Byte sequences

Files are sequences of bytes.  Texts are stored as UTF-8, and a byte sequence is a text only if
it is well-formed UTF-8; numbers are stored with their most significant byte first.
-/

namespace DocumentStore

abbrev Bytes := List UInt8

namespace Bytes

def ofText (s : String) : Bytes :=
  s.toUTF8.data.toList

def toText? (bytes : Bytes) : Option String :=
  String.fromUTF8? ⟨bytes.toArray⟩

/-- The last `width` base-256 digits of `n`, most significant first. -/
def bigEndian : Nat → Nat → Bytes
  | 0, _ => []
  | width + 1, n => bigEndian width (n / 256) ++ [UInt8.ofNat n]

def toNat (bytes : Bytes) : Nat :=
  bytes.foldl (fun n byte => n * 256 + byte.toNat) 0

def take? (count : Nat) (bytes : Bytes) : Option (Bytes × Bytes) :=
  let (taken, rest) := bytes.splitAt count
  if taken.length = count then some (taken, rest) else none

/-- What follows `start`, if the bytes begin with it. -/
def after? : Bytes → Bytes → Option Bytes
  | [], bytes => some bytes
  | _ :: _, [] => none
  | a :: start, b :: bytes => if a = b then after? start bytes else none

end Bytes

end DocumentStore
