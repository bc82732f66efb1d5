import DocumentStore.Json.Printer
import DocumentStore.Json.Scanner
import DocumentStore.Proofs.Bytes

/-!
# Quoted texts are read back

`Literal` relates a part of a string literal to its pieces and to the bytes it stands for, and parts
can be joined.  The escape of every character is such a part, so a quoted text of any characters is
read back as that text.
-/

namespace DocumentStore

namespace Json

open Bytes (ofChars ofChars_nil ofChars_cons ofChars_append)

/-- The input is scanned as the pieces, and these are joined to the bytes. -/
structure Literal (input : Bytes) (pieces : List Piece) (bytes : Bytes) : Prop where
  scan : ∀ found rest,
    scanPieces found (input ++ rest) = scanPieces (pieces.reverse ++ found) rest
  join : ∀ joined more,
    joinPieces joined (pieces ++ more) = joinPieces (bytes.reverse ++ joined) more

namespace Literal

theorem nil : Literal [] [] [] :=
  ⟨fun _ _ => rfl, fun _ _ => rfl⟩

theorem append {first second : Bytes} {pieces more : List Piece} {bytes others : Bytes}
    (hfirst : Literal first pieces bytes) (hsecond : Literal second more others) :
    Literal (first ++ second) (pieces ++ more) (bytes ++ others) := by
  constructor
  · intro found rest
    rw [List.append_assoc, hfirst.scan, hsecond.scan, List.reverse_append, List.append_assoc]
  · intro joined rest
    rw [List.append_assoc, hfirst.join, hsecond.join, List.reverse_append, List.append_assoc]

theorem plain {byte : UInt8} (hcontrol : 0x20 ≤ byte.toNat) (hquote : byte ≠ 0x22)
    (hbackslash : byte ≠ 0x5c) : Literal [byte] [.byte byte] [byte] := by
  have hprints : ¬ byte < 0x20 := by
    rw [UInt8.lt_iff_toNat_lt]
    exact Nat.not_lt.mpr hcontrol
  refine ⟨fun found rest => ?_, fun joined more => rfl⟩
  simp [scanPieces, hbackslash, hprints]

theorem plainBytes {bytes : Bytes}
    (hbytes : ∀ byte ∈ bytes, 0x20 ≤ byte.toNat ∧ byte ≠ 0x22 ∧ byte ≠ 0x5c) :
    Literal bytes (bytes.map .byte) bytes := by
  induction bytes with
  | nil => exact nil
  | cons byte rest ih =>
      obtain ⟨⟨hcontrol, hquote, hbackslash⟩, hrest⟩ := List.forall_mem_cons.mp hbytes
      exact (plain hcontrol hquote hbackslash).append (ih hrest)

theorem escaped (letter : UInt8) {value : UInt8} (hletter : escapedByte? letter = some value) :
    Literal [0x5c, letter] [.byte value] [value] := by
  have hunit : letter ≠ 0x75 := by
    rintro rfl
    cases hletter
  refine ⟨fun found rest => ?_, fun joined more => rfl⟩
  simp [scanPieces, hunit, hletter]

theorem ofUnit {a b c d : UInt8} {value : Nat} (hunit : unit? a b c d = some value)
    (hsmall : value < 0xd800) :
    Literal [0x5c, 0x75, a, b, c, d] [.unit value]
      (String.utf8EncodeChar (Char.ofNat value)) := by
  have hhigh : isHighSurrogate value = false := by
    simp only [isHighSurrogate, Bool.and_eq_false_iff, decide_eq_false_iff_not]
    omega
  have hlow : isLowSurrogate value = false := by
    simp only [isLowSurrogate, Bool.and_eq_false_iff, decide_eq_false_iff_not]
    omega
  constructor
  · intro found rest
    simp [scanPieces, hunit]
  · intro joined more
    rcases more with _ | ⟨_ | _, more⟩ <;> simp [joinPieces, hhigh, hlow]

end Literal

theorem hexValue?_hexDigit (n : Nat) (hn : n < 16) :
    ∃ byte, String.utf8EncodeChar (hexDigit n) = [byte] ∧ hexValue? byte = some n := by
  interval_cases n <;> exact ⟨_, rfl, by decide⟩

theorem plain_of_mem_utf8EncodeChar {c : Char} (hprints : 0x20 ≤ c.toNat) (hquote : c ≠ '"')
    (hbackslash : c ≠ '\\') :
    ∀ byte ∈ String.utf8EncodeChar c, 0x20 ≤ byte.toNat ∧ byte ≠ 0x22 ∧ byte ≠ 0x5c := by
  rcases Nat.lt_or_ge c.toNat 0x80 with hascii | hwide
  · have hvalue : (UInt8.ofNat c.toNat).toNat = c.toNat := by
      rw [UInt8.toNat_ofNat']
      omega
    have hne : ∀ other : Char, other.toNat < 0x80 → c ≠ other →
        UInt8.ofNat c.toNat ≠ UInt8.ofNat other.toNat := by
      intro other hother hchar hsame
      apply hchar
      rw [← Char.toNat_inj, ← hvalue, hsame, UInt8.toNat_ofNat']
      omega
    rw [Bytes.utf8EncodeChar_of_lt hascii, List.forall_mem_singleton, hvalue]
    exact ⟨hprints, hne '"' (by decide) hquote, hne '\\' (by decide) hbackslash⟩
  · intro byte hbyte
    have hlarge := Bytes.le_of_mem_utf8EncodeChar hwide byte hbyte
    have hne : ∀ other : UInt8, other.toNat < 0x80 → byte ≠ other := by
      rintro other hother rfl
      omega
    exact ⟨by omega, hne 0x22 (by decide), hne 0x5c (by decide)⟩

/-- Every character is escaped as a part of a literal that stands for it. -/
theorem literal_escapeChar (c : Char) :
    ∃ pieces, Literal (ofChars (escapeChar c)) pieces (String.utf8EncodeChar c) := by
  unfold escapeChar
  split_ifs with hquote hbackslash hprints hbackspace hfeed hline hreturn htab
  · subst hquote
    exact ⟨_, Literal.escaped 0x22 rfl⟩
  · subst hbackslash
    exact ⟨_, Literal.escaped 0x5c rfl⟩
  · have hplain := plain_of_mem_utf8EncodeChar hprints hquote hbackslash
    rw [ofChars_cons, ofChars_nil, List.append_nil]
    exact ⟨_, Literal.plainBytes hplain⟩
  · subst hbackspace
    exact ⟨_, Literal.escaped 0x62 rfl⟩
  · subst hfeed
    exact ⟨_, Literal.escaped 0x66 rfl⟩
  · subst hline
    exact ⟨_, Literal.escaped 0x6e rfl⟩
  · subst hreturn
    exact ⟨_, Literal.escaped 0x72 rfl⟩
  · subst htab
    exact ⟨_, Literal.escaped 0x74 rfl⟩
  · obtain ⟨high, hhigh, hhighValue⟩ := hexValue?_hexDigit (c.toNat / 16) (by omega)
    obtain ⟨low, hlow, hlowValue⟩ := hexValue?_hexDigit (c.toNat % 16) (by omega)
    have hzero : hexValue? 0x30 = some 0 := by decide
    have hunit : unit? 0x30 0x30 high low = some c.toNat := by
      simp [unit?, hzero, hhighValue, hlowValue]
      omega
    have hliteral := Literal.ofUnit hunit (by omega)
    have hchars : ofChars ['\\', 'u', '0', '0', hexDigit (c.toNat / 16),
        hexDigit (c.toNat % 16)] = [0x5c, 0x75, 0x30, 0x30, high, low] := by
      simp only [ofChars_cons, hhigh, hlow]
      rfl
    rw [Char.ofNat_toNat] at hliteral
    rw [hchars]
    exact ⟨_, hliteral⟩

theorem literal_escape (chars : List Char) :
    ∃ pieces, Literal (ofChars (chars.flatMap escapeChar)) pieces (ofChars chars) := by
  induction chars with
  | nil => exact ⟨[], Literal.nil⟩
  | cons c rest ih =>
      obtain ⟨first, hfirst⟩ := literal_escapeChar c
      obtain ⟨later, hlater⟩ := ih
      refine ⟨first ++ later, ?_⟩
      rw [List.flatMap_cons, ofChars_append, ofChars_cons]
      exact hfirst.append hlater

theorem readText_quoted (s : String) (rest : Bytes) :
    readText (ofChars (s.toList.flatMap escapeChar) ++ 0x22 :: rest) = some (s, rest) := by
  obtain ⟨pieces, hliteral⟩ := literal_escape s.toList
  have hscan : scanPieces [] (ofChars (s.toList.flatMap escapeChar) ++ 0x22 :: rest) =
      some (pieces, rest) := by
    rw [hliteral.scan]
    simp [scanPieces]
  have hjoin : joinPieces [] pieces = some (Bytes.ofText s) := by
    have hall := hliteral.join [] []
    rw [List.append_nil, List.append_nil] at hall
    rw [hall, Bytes.ofText_eq_ofChars]
    simp [joinPieces]
  simp [readText, hscan, hjoin]

theorem ofChars_quote (s : String) :
    ofChars (quote s) = 0x22 :: (ofChars (s.toList.flatMap escapeChar) ++ [0x22]) := by
  have hquote : String.utf8EncodeChar '"' = [0x22] := rfl
  simp [quote, hquote]

end Json

end DocumentStore
