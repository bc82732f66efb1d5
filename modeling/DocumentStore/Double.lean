/-!
# Binary64 numbers

A `Double` is the 64-bit pattern of an IEEE 754 binary64 number, so every pattern, each NaN
with its payload included, is kept as it came.  Comparison goes through `rank`, an integer
that grows with the number and is the same for both zeros.

Finite doubles are whole multiples of `2 ^ (-1074)`.  `ofRatio` rounds a quotient of natural
numbers to the nearest double by counting in such units, ties going to the even significand;
reading decimals and widening integers are special cases of it.
-/

namespace DocumentStore

structure Double where
  bits : UInt64
deriving DecidableEq, Repr, Inhabited

namespace Double

def magnitude (x : Double) : Nat :=
  x.bits.toNat % Nat.pow 2 63

def isNegative (x : Double) : Bool :=
  decide (Nat.pow 2 63 ≤ x.bits.toNat)

/-- Magnitude of the infinities: an exponent field of ones and no fraction. -/
def infinite : Nat :=
  2047 * Nat.pow 2 52

def isNaN (x : Double) : Bool :=
  decide (infinite < x.magnitude)

def isFinite (x : Double) : Bool :=
  decide (x.magnitude < infinite)

/-- Increases with the number; both zeros have rank zero. -/
def rank (x : Double) : Int :=
  if x.isNegative then -(x.magnitude : Int) else x.magnitude

def equals (x y : Double) : Bool :=
  !x.isNaN && !y.isNaN && x.rank == y.rank

def compare? (x y : Double) : Option Ordering :=
  if x.isNaN || y.isNaN then none else some (compare x.rank y.rank)

/-- A finite number is `significand * 2 ^ scale` multiples of `2 ^ (-1074)`, up to its sign. -/
def significand (x : Double) : Nat :=
  if x.magnitude < Nat.pow 2 52 then x.magnitude
  else x.magnitude % Nat.pow 2 52 + Nat.pow 2 52

def scale (x : Double) : Nat :=
  x.magnitude / Nat.pow 2 52 - 1

def ofParts (negative : Bool) (magnitude : Nat) : Double :=
  ⟨UInt64.ofNat ((if negative then Nat.pow 2 63 else 0) + magnitude)⟩

/-- The integer nearest to `num / den`, the even one if two are equally near. -/
def roundQuotient (num den : Nat) : Nat :=
  let quotient := num / den
  let twice := 2 * (num % den)
  if twice < den then quotient
  else if den < twice then quotient + 1
  else quotient + quotient % 2

/-- Magnitude of the double nearest to `num / den`; too large a quotient gives infinity.  The
quotient is counted in the units that leave it below `2 ^ 53`, and a count rounded up to
`2 ^ 53` carries into the exponent field by itself. -/
def magnitudeOfRatio (num den : Nat) : Nat :=
  let multiple := num * Nat.pow 2 1074
  let scale := (multiple / den).log2 - 52
  min (scale * Nat.pow 2 52 + roundQuotient multiple (den * Nat.pow 2 scale)) infinite

def ofRatio (negative : Bool) (num den : Nat) : Double :=
  ofParts negative (magnitudeOfRatio num den)

def ofInt (n : Int) : Double :=
  ofRatio (decide (n < 0)) n.natAbs 1

/-- Widens the bit pattern of a binary32 number.  Every such number is a double; a NaN keeps its
payload and becomes quiet. -/
def ofSingle (bits : UInt32) : Double :=
  let word := bits.toNat
  let negative := decide (Nat.pow 2 31 ≤ word)
  let exponent := word / Nat.pow 2 23 % 256
  let fraction := word % Nat.pow 2 23
  if exponent = 255 then
    ofParts negative
      (infinite + if fraction = 0 then 0 else fraction % Nat.pow 2 22 * Nat.pow 2 29 + Nat.pow 2 51)
  else if exponent = 0 then ofRatio negative fraction (Nat.pow 2 149)
  else ofParts negative ((exponent + 896) * Nat.pow 2 52 + fraction * Nat.pow 2 29)

end Double

end DocumentStore
