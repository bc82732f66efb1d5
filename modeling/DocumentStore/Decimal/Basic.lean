import DocumentStore.Double

/-!
# Decimal numbers

A `Decimal` is `digits * 10 ^ exponent`.  `Decimal.toDouble` gives the nearest double; decimals
whose leading digit lies far outside the range of doubles are sent to infinity or zero without
forming the power of ten.
-/

namespace DocumentStore

structure Decimal where
  digits : Nat
  exponent : Int
deriving DecidableEq, Repr, Inhabited

namespace Decimal

def digitCount (n : Nat) : Nat :=
  (Nat.toDigits 10 n).length

/-- The nearest double of the given sign; infinite if the decimal is too large.  All digits count,
and the result is rounded once.  A reader that takes the digits as a double and then multiplies by a
power of ten rounds twice, and may end one unit in the last place away from it. -/
def toDouble (negative : Bool) (d : Decimal) : Double :=
  let lead := d.exponent + digitCount d.digits
  if d.digits = 0 ∨ lead < -400 then Double.ofParts negative 0
  else if 400 < lead then Double.ofParts negative Double.infinite
  else if 0 ≤ d.exponent then
    Double.ofRatio negative (d.digits * Nat.pow 10 d.exponent.toNat) 1
  else Double.ofRatio negative d.digits (Nat.pow 10 (-d.exponent).toNat)

def trimmed (d : Decimal) : Decimal :=
  if h : d.digits = 0 ∨ d.digits % 10 ≠ 0 then d
  else trimmed ⟨d.digits / 10, d.exponent + 1⟩
termination_by d.digits
decreasing_by omega

end Decimal

/-- The exact value of a finite double, its sign apart. -/
def Double.toDecimal (x : Double) : Decimal :=
  if 1074 ≤ x.scale then ⟨x.significand * Nat.pow 2 (x.scale - 1074), 0⟩
  else ⟨x.significand * Nat.pow 5 (1074 - x.scale), x.scale - 1074⟩

end DocumentStore
