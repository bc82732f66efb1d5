import DocumentStore.Chars

/-!
# Sets of characters

A `CharSet` lists the first and the last code point of its ranges.  The ranges are in increasing
order and do not touch each other, so each set has one form.  `ofRanges` brings any list of ranges
into that form, and the operations on sets are built from it and from `complement`.

Tables of characters are written as text: words that are hexadecimal code points, ranges with a
hyphen, or ranges of every second or third code point with a slash before the step.
-/

namespace DocumentStore

abbrev CharSet := List (Nat × Nat)

namespace CharSet

def greatest : Nat :=
  0x10ffff

def contains (c : Char) : CharSet → Bool
  | [] => false
  | (first, last) :: rest =>
    if c.toNat < first then false else c.toNat ≤ last || contains c rest

/-- Joins the range from `first` to `last` with ranges that start no earlier. -/
def joinFrom (first last : Nat) : List (Nat × Nat) → CharSet
  | [] => [(first, last)]
  | (a, b) :: rest =>
    if a ≤ last + 1 then joinFrom first (max last b) rest
    else (first, last) :: joinFrom a b rest

def ofRanges (ranges : List (Nat × Nat)) : CharSet :=
  match ranges.mergeSort fun a b => a.1 ≤ b.1 with
  | [] => []
  | (first, last) :: rest => joinFrom first last rest

def single (c : Char) : CharSet :=
  [(c.toNat, c.toNat)]

def full : CharSet :=
  [(0, greatest)]

def ascii : CharSet :=
  [(0, 0x7f)]

def isAscii (set : CharSet) : Bool :=
  set.all fun range => range.2 ≤ 0x7f

def union (a b : CharSet) : CharSet :=
  ofRanges (a ++ b)

def unionAll (sets : List CharSet) : CharSet :=
  ofRanges sets.flatten

/-- The gaps between ranges, from `start` on. -/
def gaps (start : Nat) : CharSet → CharSet
  | [] => if start ≤ greatest then [(start, greatest)] else []
  | (first, last) :: rest =>
    if start < first then (start, first - 1) :: gaps (last + 1) rest else gaps (last + 1) rest

def complement (set : CharSet) : CharSet :=
  gaps 0 set

def inter (a b : CharSet) : CharSet :=
  (a.complement.union b.complement).complement

def difference (a b : CharSet) : CharSet :=
  a.inter b.complement

def symmetricDifference (a b : CharSet) : CharSet :=
  (a.difference b).union (b.difference a)

def hexValue (digits : List Char) : Nat :=
  digits.foldl (fun n c => n * 16 + if c.isDigit then c.toNat - 48 else c.toNat - 55) 0

/-- The first and the last code point and the step of a coded range. -/
def codedRange (coded : List Char) : Nat × Nat × Nat :=
  let (ends, step) := Chars.splitFirst '/' coded
  let (first, last) := Chars.splitFirst '-' ends
  (hexValue first, hexValue (last.getD first), (step.map hexValue).getD 1)

def steps (first last step : Nat) : List Nat :=
  (List.range ((last - first) / step + 1)).map fun n => first + n * step

def expand : Nat × Nat × Nat → List (Nat × Nat)
  | (first, last, step) =>
    if step = 1 then [(first, last)] else (steps first last step).map fun n => (n, n)

def ofCoded (coded : String) : CharSet :=
  ofRanges ((Chars.words coded.toList).flatMap fun range => expand (codedRange range))

end CharSet

end DocumentStore
