import DocumentStore.Decimal.Shortest

/-!
# Decimal text

The written form of a finite double: the digits of its shortest decimal, laid out with a point
while the leading digit stands between `10 ^ -5` and `10 ^ 15`, and with an exponent otherwise.
There is always a digit on either side of a point, and the sign of an exponent is written.
-/

namespace DocumentStore

/-- Least and greatest power of ten of a leading digit that is written without an exponent. -/
structure PositionalRange where
  least : Int
  greatest : Int

namespace Decimal

def positional : PositionalRange := ⟨-5, 15⟩

def digitChars (n : Nat) : List Char :=
  Nat.toDigits 10 n

def integerChars (n : Int) : List Char :=
  (if n < 0 then ['-'] else []) ++ digitChars n.natAbs

/-- Digits with the power of ten of the first of them, split by a point. -/
def pointChars (digits : List Char) (lead : Int) : List Char :=
  if lead < 0 then
    '0' :: '.' :: (List.replicate (-lead - 1).toNat '0' ++ digits)
  else
    let whole := lead.toNat + 1
    if digits.length ≤ whole then
      digits ++ List.replicate (whole - digits.length) '0' ++ ['.', '0']
    else digits.take whole ++ '.' :: digits.drop whole

/-- One digit, the others after a point, and the exponent. -/
def scientificChars (digits : List Char) (lead : Int) : List Char :=
  let mantissa :=
    match digits with
    | [] => []
    | [digit] => [digit]
    | digit :: rest => digit :: '.' :: rest
  mantissa ++ 'e' :: (if lead < 0 then '-' else '+') :: digitChars lead.natAbs

def chars (d : Decimal) : List Char :=
  let digits := digitChars d.digits
  let lead := d.exponent + digits.length - 1
  if d.digits = 0 then ['0', '.', '0']
  else if positional.least ≤ lead ∧ lead ≤ positional.greatest then pointChars digits lead
  else scientificChars digits lead

end Decimal

def Double.chars (x : Double) : List Char :=
  (if x.isNegative then ['-'] else []) ++ x.shortest.chars

end DocumentStore
