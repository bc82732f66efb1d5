import DocumentStore.Decimal.Basic

/-!
# The shortest decimal of a double

Among the decimals that read back as a given finite double, `Double.shortest` takes one with the
fewest digits, and of those the nearest.  If a grid of `n`-digit decimals holds such a number at
all, one of the two neighbours of the exact value on that grid is one, so only these are tried.
-/

namespace DocumentStore

namespace Decimal

/-- The neighbours of `d` with at most `count` digits, the nearer one first; of two equally near
ones the even one comes first. -/
def neighbours (d : Decimal) (count : Nat) : List Decimal :=
  let excess := digitCount d.digits - count
  if excess = 0 then [d]
  else
    let step := Nat.pow 10 excess
    let below : Decimal := ⟨d.digits / step, d.exponent + excess⟩
    let above : Decimal := ⟨d.digits / step + 1, d.exponent + excess⟩
    let twice := 2 * (d.digits % step)
    if twice < step ∨ (twice = step ∧ below.digits % 2 = 0) then [below, above]
    else [above, below]

end Decimal

/-- The shortest decimal that reads back as the finite double `x`, its sign apart.  The exact
value closes the list of candidates, so the search always ends at one that reads back. -/
def Double.shortest (x : Double) : Decimal :=
  let exact := x.toDecimal
  let candidates := (List.range 17).flatMap fun n => exact.neighbours (n + 1)
  let readsBack (d : Decimal) : Bool := d.toDouble x.isNegative == x
  ((candidates.find? readsBack).getD exact).trimmed

end DocumentStore
