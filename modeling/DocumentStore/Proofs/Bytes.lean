import DocumentStore.Bytes
import Mathlib.Tactic

/-!
# Laws of byte sequences

A number that fits its width is read back from its big-endian bytes, and a text from its UTF-8
bytes.  `Bytes.ofChars` is the encoding of a list of characters, one character after the other.
-/

namespace DocumentStore

namespace Bytes

/-! ## Numbers -/

@[simp] theorem length_bigEndian (width n : Nat) : (bigEndian width n).length = width := by
  induction width generalizing n with
  | zero => rfl
  | succ width ih => simp [bigEndian, ih]

theorem toNat_append_singleton (bytes : Bytes) (byte : UInt8) :
    toNat (bytes ++ [byte]) = toNat bytes * 256 + byte.toNat := by
  simp [toNat, List.foldl_append]

theorem toNat_bigEndian {width n : Nat} (hn : n < 256 ^ width) :
    toNat (bigEndian width n) = n := by
  induction width generalizing n with
  | zero =>
      have hzero : n = 0 := by simpa using hn
      simp [bigEndian, toNat, hzero]
  | succ width ih =>
      have hquotient : n / 256 < 256 ^ width := by
        rw [pow_succ] at hn
        exact Nat.div_lt_of_lt_mul (by omega)
      rw [bigEndian, toNat_append_singleton, ih hquotient]
      simp only [UInt8.toNat_ofNat']
      omega

/-! ## Parts -/

theorem take?_append {count : Nat} {bytes : Bytes} (hlength : bytes.length = count)
    (rest : Bytes) : take? count (bytes ++ rest) = some (bytes, rest) := by
  subst hlength
  simp [take?, List.splitAt_eq]

/-! ## Texts -/

def ofChars (chars : List Char) : Bytes :=
  chars.flatMap String.utf8EncodeChar

@[simp] theorem ofChars_nil : ofChars [] = [] := rfl

@[simp] theorem ofChars_cons (c : Char) (chars : List Char) :
    ofChars (c :: chars) = String.utf8EncodeChar c ++ ofChars chars := by
  simp [ofChars]

@[simp] theorem ofChars_append (left right : List Char) :
    ofChars (left ++ right) = ofChars left ++ ofChars right := by
  simp [ofChars]

theorem utf8EncodeChar_of_lt {c : Char} (hc : c.toNat < 0x80) :
    String.utf8EncodeChar c = [UInt8.ofNat c.toNat] := by
  have hval : c.val.toNat ≤ 0x7f := Nat.le_of_lt_succ hc
  simp only [String.utf8EncodeChar, hval, if_true]
  rfl

theorem le_of_mem_utf8EncodeChar {c : Char} (hc : 0x80 ≤ c.toNat) :
    ∀ byte ∈ String.utf8EncodeChar c, 0x80 ≤ byte.toNat := by
  have hval : ¬ c.val.toNat ≤ 0x7f := Nat.not_le.mpr hc
  simp only [String.utf8EncodeChar, hval, if_false]
  split_ifs
  all_goals
    simp only [List.forall_mem_cons, UInt8.toNat_ofNat', List.not_mem_nil, false_implies,
      implies_true, and_true]
    omega

theorem ofText_eq_ofChars (s : String) : ofText s = ofChars s.toList := by
  have hencode : s.toByteArray = (ofChars s.toList).toByteArray := by
    rw [← String.utf8Encode_toList, List.utf8Encode, ofChars]
  simp [ofText, String.toUTF8, hencode]

@[simp] theorem toText?_ofText (s : String) : toText? (ofText s) = some s := by
  have hbytes : (⟨(ofText s).toArray⟩ : ByteArray) = s.toByteArray := by
    simp [ofText, String.toUTF8]
  rw [toText?, hbytes, String.fromUTF8?, dif_pos s.isValidUTF8]
  rfl

end Bytes

end DocumentStore
