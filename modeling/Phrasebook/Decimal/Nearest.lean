import Phrasebook.Decimal.Shortest

/-!
# The double nearest to a decimal

`Nearest.ofDecimal?` reads the decimal `d · 10 ^ k` as the double that lies nearest to it; of two
equally near ones it takes the one with the even significand.  A decimal nearer to the next power
of two than to the largest double has none.

The rounding is exact: it divides natural numbers, and looks at the remainder.
-/

namespace Phrasebook.Decimal

/-- The natural number nearest to `num / den`; a half goes to the even neighbour. -/
def roundQuotient (num den : Nat) : Nat :=
  let q := num / den
  let r := num % den
  if 2 * r < den then q
  else if den < 2 * r then q + 1
  else if q % 2 = 0 then q
  else q + 1

namespace Nearest

/-- The power of two that the last place of the double nearest to `num / den` stands for, both
positive: there are 53 places, but none below `2 ^ -1074`. -/
def lastPlace (num den : Nat) : Int :=
  let q : Int := (num.log2 : Int) - den.log2 - 52
  let (n, d) := twoTo (q + 52)
  max (-1074) (if num * d < den * n then q - 1 else q)

/-- The double nearest to `num / den`, both positive. -/
def ofFraction? (num den : Nat) : Option Float :=
  let q := lastPlace num den
  let (n, d) := twoTo q
  let m := roundQuotient (num * d) (den * n)
  let bits := (q + 1074).toNat * Nat.pow 2 52 + m
  if bits < 2047 * Nat.pow 2 52 then some (Float.ofBits bits.toUInt64) else none

/-- The double nearest to `d · 10 ^ k`. -/
def ofDecimal? (d : Nat) (k : Int) : Option Float :=
  let lead := digitCount d + k
  if d = 0 ∨ lead < -330 then some (Float.ofBits 0)
  else if 310 < lead then none
  else
    let (n, t) := tenTo k
    ofFraction? (d * n) t

end Nearest

end Phrasebook.Decimal
