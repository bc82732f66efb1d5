import DocumentStore.Pack.Reader
import DocumentStore.Pack.Writer
import DocumentStore.Proofs.Bytes

/-!
# Heads of MessagePack objects

Each writer picks the smallest form for its number or size.  Whatever form that is, the reader gets
the same head from it: the sign decides between a signed and an unsigned number, and the size of a
text or a container comes back as it was as long as four bytes can hold it.
-/

namespace DocumentStore

namespace Pack

/-- Sizes from here on do not fit a head. -/
def sizeLimit : Nat :=
  2 ^ 32

theorem readNat_bigEndian {width n : Nat} (hn : n < 256 ^ width) (rest : Bytes) :
    readNat width (Bytes.bigEndian width n ++ rest) = some (n, rest) := by
  rw [readNat, Bytes.take?_append (Bytes.length_bigEndian width n)]
  simp only [Option.map_some, Bytes.toNat_bigEndian hn]

theorem headOf_bigEndian (width : Nat) {n : Nat} (hn : n < 256 ^ width) (head : Nat → Head)
    (rest : Bytes) :
    headOf width head (Bytes.bigEndian width n ++ rest) = some (head n, rest) := by
  rw [headOf, readNat_bigEndian hn, Option.map_some]

/-- A negative number in two's complement: its width gives `whole` numbers, of which `half` are
negative. -/
theorem toSigned_of_neg {width : Nat} {n half whole : Int}
    (hhalf : ((Nat.pow 2 (8 * width - 1) : Nat) : Int) = half)
    (hwhole : ((Nat.pow 2 (8 * width) : Nat) : Int) = whole) (hdouble : whole = 2 * half)
    (hlow : -half ≤ n) (hneg : n < 0) : toSigned width (n + whole).toNat = n := by
  have hcast : (((n + whole).toNat : Nat) : Int) = n + whole :=
    Int.toNat_of_nonneg (by omega)
  have hlarge : ¬ (n + whole).toNat < Nat.pow 2 (8 * width - 1) := by omega
  rw [toSigned, if_neg hlarge, hcast, hwhole]
  omega

/-! ## Forms with the number in the first byte -/

theorem readHead_small {n : Nat} (hn : n < 0x80) (rest : Bytes) :
    readHead (UInt8.ofNat n :: rest) = some (.unsigned n, rest) := by
  have hcode : (UInt8.ofNat n).toNat = n := by
    rw [UInt8.toNat_ofNat', Nat.mod_eq_of_lt (by omega)]
  simp only [readHead, hcode]
  rw [if_pos (by omega)]

theorem readHead_smallMap {n : Nat} (hn : n < 0x10) (rest : Bytes) :
    readHead (UInt8.ofNat (0x80 + n) :: rest) = some (.map n, rest) := by
  have hcode : (UInt8.ofNat (0x80 + n)).toNat = 0x80 + n := by
    rw [UInt8.toNat_ofNat', Nat.mod_eq_of_lt (by omega)]
  simp only [readHead, hcode]
  rw [if_neg (by omega), if_pos (by omega), Nat.add_sub_cancel_left]

theorem readHead_smallList {n : Nat} (hn : n < 0x10) (rest : Bytes) :
    readHead (UInt8.ofNat (0x90 + n) :: rest) = some (.list n, rest) := by
  have hcode : (UInt8.ofNat (0x90 + n)).toNat = 0x90 + n := by
    rw [UInt8.toNat_ofNat', Nat.mod_eq_of_lt (by omega)]
  simp only [readHead, hcode]
  rw [if_neg (by omega), if_neg (by omega), if_pos (by omega), Nat.add_sub_cancel_left]

theorem readHead_smallText {n : Nat} (hn : n < 0x20) (rest : Bytes) :
    readHead (UInt8.ofNat (0xa0 + n) :: rest) = some (.text n, rest) := by
  have hcode : (UInt8.ofNat (0xa0 + n)).toNat = 0xa0 + n := by
    rw [UInt8.toNat_ofNat', Nat.mod_eq_of_lt (by omega)]
  simp only [readHead, hcode]
  rw [if_neg (by omega), if_neg (by omega), if_neg (by omega), if_pos (by omega),
    Nat.add_sub_cancel_left]

theorem readHead_smallNegative {n : Int} (hlow : -0x20 ≤ n) (hneg : n < 0) (rest : Bytes) :
    readHead (UInt8.ofNat (n + 0x100).toNat :: rest) = some (.signed n, rest) := by
  have hcode : (UInt8.ofNat (n + 0x100).toNat).toNat = (n + 0x100).toNat := by
    rw [UInt8.toNat_ofNat', Nat.mod_eq_of_lt (by omega)]
  simp only [readHead, hcode]
  rw [if_neg (by omega), if_neg (by omega), if_neg (by omega), if_neg (by omega),
    if_neg (by omega)]
  simp only [Option.some.injEq, Prod.mk.injEq, Head.signed.injEq, and_true]
  omega

/-! ## Heads of the written objects -/

/-- The head of a written integer: unsigned unless it is negative. -/
def integerHead (n : Int) : Head :=
  if 0 ≤ n then .unsigned n.toNat else .signed n

theorem readHead_writeInteger {n : Int} (hlow : -0x8000000000000000 ≤ n)
    (hhigh : n < 0x8000000000000000) (rest : Bytes) : readHead (writeInteger n ++ rest) = some (integerHead n, rest) := by
  by_cases hsign : 0 ≤ n
  · simp only [writeInteger, integerHead, if_pos hsign]
    split_ifs with h7 h8 h16 h32
    · exact readHead_small h7 rest
    · exact headOf_bigEndian 1 (by omega) Head.unsigned rest
    · exact headOf_bigEndian 2 (by omega) Head.unsigned rest
    · exact headOf_bigEndian 4 (by omega) Head.unsigned rest
    · exact headOf_bigEndian 8 (by omega) Head.unsigned rest
  · simp only [writeInteger, integerHead, if_neg hsign]
    have hneg : n < 0 := by omega
    split_ifs with h5 h7 h15 h31
    · exact readHead_smallNegative h5 hneg rest
    · have hback : toSigned 1 (n + 0x100).toNat = n :=
        toSigned_of_neg rfl rfl rfl h7 hneg
      have hread := headOf_bigEndian 1 (n := (n + 0x100).toNat) (by omega)
        (fun k => Head.signed (toSigned 1 k)) rest
      rwa [hback] at hread
    · have hback : toSigned 2 (n + 0x10000).toNat = n :=
        toSigned_of_neg rfl rfl rfl h15 hneg
      have hread := headOf_bigEndian 2 (n := (n + 0x10000).toNat) (by omega)
        (fun k => Head.signed (toSigned 2 k)) rest
      rwa [hback] at hread
    · have hback : toSigned 4 (n + 0x100000000).toNat = n :=
        toSigned_of_neg rfl rfl rfl h31 hneg
      have hread := headOf_bigEndian 4 (n := (n + 0x100000000).toNat) (by omega)
        (fun k => Head.signed (toSigned 4 k)) rest
      rwa [hback] at hread
    · have hback : toSigned 8 (n + 0x10000000000000000).toNat = n :=
        toSigned_of_neg rfl rfl rfl hlow hneg
      have hread := headOf_bigEndian 8 (n := (n + 0x10000000000000000).toNat) (by omega)
        (fun k => Head.signed (toSigned 8 k)) rest
      rwa [hback] at hread

theorem readHead_writeText {s : String} (hsize : (Bytes.ofText s).length < sizeLimit)
    (rest : Bytes) :
    readHead (writeText s ++ rest) =
      some (.text (Bytes.ofText s).length, Bytes.ofText s ++ rest) := by
  unfold sizeLimit at hsize
  simp only [writeText, List.append_assoc]
  split_ifs with h5 h8 h16
  · exact readHead_smallText h5 _
  · exact headOf_bigEndian 1 (by omega) Head.text _
  · exact headOf_bigEndian 2 (by omega) Head.text _
  · exact headOf_bigEndian 4 (by omega) Head.text _

theorem readHead_listHeader {size : Nat} (hsize : size < sizeLimit) (rest : Bytes) :
    readHead (listHeader size ++ rest) = some (.list size, rest) := by
  unfold sizeLimit at hsize
  simp only [listHeader]
  split_ifs with h4 h16
  · exact readHead_smallList h4 rest
  · exact headOf_bigEndian 2 (by omega) Head.list rest
  · exact headOf_bigEndian 4 (by omega) Head.list rest

theorem readHead_mapHeader {size : Nat} (hsize : size < sizeLimit) (rest : Bytes) :
    readHead (mapHeader size ++ rest) = some (.map size, rest) := by
  unfold sizeLimit at hsize
  simp only [mapHeader]
  split_ifs with h4 h16
  · exact readHead_smallMap h4 rest
  · exact headOf_bigEndian 2 (by omega) Head.map rest
  · exact headOf_bigEndian 4 (by omega) Head.map rest

end Pack

end DocumentStore
