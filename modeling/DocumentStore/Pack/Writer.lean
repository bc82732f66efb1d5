import DocumentStore.Bytes
import DocumentStore.Value.Basic

/-!
# Writing MessagePack

Every value is written in its smallest form: the first byte of an integer, a text or a container
tells how many bytes its number or length takes.  Integers that are not negative are written as
unsigned ones and doubles always with eight bytes.
-/

namespace DocumentStore

namespace Pack

def writeInteger (n : Int) : Bytes :=
  if 0 ≤ n then
    let size := n.toNat
    if size < 0x80 then [UInt8.ofNat size]
    else if size < 0x100 then 0xcc :: Bytes.bigEndian 1 size
    else if size < 0x10000 then 0xcd :: Bytes.bigEndian 2 size
    else if size < 0x100000000 then 0xce :: Bytes.bigEndian 4 size
    else 0xcf :: Bytes.bigEndian 8 size
  else if -0x20 ≤ n then [UInt8.ofNat (n + 0x100).toNat]
  else if -0x80 ≤ n then 0xd0 :: Bytes.bigEndian 1 (n + 0x100).toNat
  else if -0x8000 ≤ n then 0xd1 :: Bytes.bigEndian 2 (n + 0x10000).toNat
  else if -0x80000000 ≤ n then 0xd2 :: Bytes.bigEndian 4 (n + 0x100000000).toNat
  else 0xd3 :: Bytes.bigEndian 8 (n + 0x10000000000000000).toNat

def writeText (s : String) : Bytes :=
  let bytes := Bytes.ofText s
  let size := bytes.length
  (if size < 0x20 then [UInt8.ofNat (0xa0 + size)]
  else if size < 0x100 then 0xd9 :: Bytes.bigEndian 1 size
  else if size < 0x10000 then 0xda :: Bytes.bigEndian 2 size
  else 0xdb :: Bytes.bigEndian 4 size) ++ bytes

def listHeader (size : Nat) : Bytes :=
  if size < 0x10 then [UInt8.ofNat (0x90 + size)]
  else if size < 0x10000 then 0xdc :: Bytes.bigEndian 2 size
  else 0xdd :: Bytes.bigEndian 4 size

def mapHeader (size : Nat) : Bytes :=
  if size < 0x10 then [UInt8.ofNat (0x80 + size)]
  else if size < 0x10000 then 0xde :: Bytes.bigEndian 2 size
  else 0xdf :: Bytes.bigEndian 4 size

mutual
def write : Value → Bytes
  | .null => [0xc0]
  | .boolean false => [0xc2]
  | .boolean true => [0xc3]
  | .integer n => writeInteger n.toInt
  | .float x => 0xcb :: Bytes.bigEndian 8 x.bits.toNat
  | .text s => writeText s
  | .list items => listHeader items.length ++ writeItems items
  | .map fields => mapHeader fields.length ++ writeFields fields

def writeItems : List Value → Bytes
  | [] => []
  | item :: rest => write item ++ writeItems rest

def writeFields : List (String × Value) → Bytes
  | [] => []
  | (name, item) :: rest => writeText name ++ (write item ++ writeFields rest)
end

end Pack

end DocumentStore
