import DocumentStore.Bytes
import DocumentStore.Decimal.Basic

/-!
# The words of JSON

JSON is read from bytes.  This module reads its words: blanks, string literals and numerals.
Every reader takes the input and gives what it read with the rest of the input.

A string literal is first split into pieces, which needs no knowledge of Unicode, and the pieces
are then joined: escaped UTF-16 units have to pair up, and the bytes have to be UTF-8.
-/

namespace DocumentStore

namespace Json

def isBlank (byte : UInt8) : Bool :=
  byte == 0x20 || byte == 0x09 || byte == 0x0a || byte == 0x0d

def skipBlanks (input : Bytes) : Bytes :=
  input.dropWhile isBlank

def isDigit (byte : UInt8) : Bool :=
  0x30 ≤ byte && byte ≤ 0x39

def hexValue? (byte : UInt8) : Option Nat :=
  if isDigit byte then some (byte.toNat - 0x30)
  else if 0x61 ≤ byte && byte ≤ 0x66 then some (byte.toNat - 0x61 + 10)
  else if 0x41 ≤ byte && byte ≤ 0x46 then some (byte.toNat - 0x41 + 10)
  else none

/-- A part of a string literal: a byte that stands for itself or is escaped by one letter, or a
UTF-16 unit written in hexadecimal. -/
inductive Piece where
  | byte (value : UInt8)
  | unit (value : Nat)
deriving DecidableEq, Repr

def escapedByte? (letter : UInt8) : Option UInt8 :=
  if letter = 0x22 then some 0x22
  else if letter = 0x5c then some 0x5c
  else if letter = 0x2f then some 0x2f
  else if letter = 0x62 then some 0x08
  else if letter = 0x66 then some 0x0c
  else if letter = 0x6e then some 0x0a
  else if letter = 0x72 then some 0x0d
  else if letter = 0x74 then some 0x09
  else none

def unit? (a b c d : UInt8) : Option Nat := do
  let a ← hexValue? a
  let b ← hexValue? b
  let c ← hexValue? c
  let d ← hexValue? d
  return ((a * 16 + b) * 16 + c) * 16 + d

/-- Reads a string literal after its opening quote; `found` holds the pieces read so far, the
last one first. -/
def scanPieces (found : List Piece) : Bytes → Option (List Piece × Bytes)
  | 0x22 :: rest => some (found.reverse, rest)
  | 0x5c :: 0x75 :: a :: b :: c :: d :: rest =>
    match unit? a b c d with
    | some value => scanPieces (.unit value :: found) rest
    | none => none
  | 0x5c :: letter :: rest =>
    match escapedByte? letter with
    | some value => scanPieces (.byte value :: found) rest
    | none => none
  | byte :: rest => if byte < 0x20 then none else scanPieces (.byte byte :: found) rest
  | [] => none

def isHighSurrogate (unit : Nat) : Bool :=
  0xd800 ≤ unit && unit < 0xdc00

def isLowSurrogate (unit : Nat) : Bool :=
  0xdc00 ≤ unit && unit < 0xe000

/-- The bytes of a string literal; a surrogate has to stand in a pair. -/
def joinPieces (joined : Bytes) : List Piece → Option Bytes
  | [] => some joined.reverse
  | .byte value :: rest => joinPieces (value :: joined) rest
  | .unit high :: .unit low :: rest =>
    if isHighSurrogate high then
      if isLowSurrogate low then
        let char := Char.ofNat (0x10000 + (high - 0xd800) * 0x400 + (low - 0xdc00))
        joinPieces ((String.utf8EncodeChar char).reverse ++ joined) rest
      else none
    else if isLowSurrogate high then none
    else joinPieces ((String.utf8EncodeChar (Char.ofNat high)).reverse ++ joined)
      (.unit low :: rest)
  | .unit value :: rest =>
    if isHighSurrogate value || isLowSurrogate value then none
    else joinPieces ((String.utf8EncodeChar (Char.ofNat value)).reverse ++ joined) rest

def readText (input : Bytes) : Option (String × Bytes) := do
  let (pieces, rest) ← scanPieces [] input
  let bytes ← joinPieces [] pieces
  let text ← Bytes.toText? bytes
  return (text, rest)

structure Numeral where
  negative : Bool
  whole : Bytes
  fraction : Option Bytes
  exponent : Option Int
deriving Repr

def digitsToNat (digits : Bytes) : Nat :=
  digits.foldl (fun n byte => n * 10 + (byte.toNat - 0x30)) 0

def readDigits (input : Bytes) : Option (Bytes × Bytes) :=
  let digits := input.takeWhile isDigit
  if digits.isEmpty then none else some (digits, input.dropWhile isDigit)

def readFraction (input : Bytes) : Option (Option Bytes × Bytes) :=
  match input with
  | 0x2e :: rest => (readDigits rest).map fun (digits, rest) => (some digits, rest)
  | _ => some (none, input)

def readExponent (input : Bytes) : Option (Option Int × Bytes) :=
  match input with
  | letter :: rest =>
    if letter = 0x65 ∨ letter = 0x45 then
      let (negative, rest) :=
        match rest with
        | 0x2d :: rest => (true, rest)
        | 0x2b :: rest => (false, rest)
        | rest => (false, rest)
      (readDigits rest).map fun (digits, rest) =>
        let size : Int := digitsToNat digits
        (some (if negative then -size else size), rest)
    else some (none, input)
  | [] => some (none, input)

/-- Reads a numeral.  Its whole part has no zeros in front. -/
def readNumeral (input : Bytes) : Option (Numeral × Bytes) := do
  let (negative, rest) :=
    match input with
    | 0x2d :: rest => (true, rest)
    | rest => (false, rest)
  let (whole, rest) ← readDigits rest
  if whole.head? = some 0x30 ∧ whole.length ≠ 1 then none
  let (fraction, rest) ← readFraction rest
  let (exponent, rest) ← readExponent rest
  return (⟨negative, whole, fraction, exponent⟩, rest)

def Numeral.decimal (numeral : Numeral) : Decimal :=
  let fraction := numeral.fraction.getD []
  ⟨digitsToNat (numeral.whole ++ fraction), numeral.exponent.getD 0 - fraction.length⟩

end Json

end DocumentStore
