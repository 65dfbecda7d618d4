/-!
# The shortest decimal of a binary floating-point number

A finite positive double is `m · 2 ^ q` for natural `m`, and every real that lies closer to it
than to its neighbours is read as it.  `Shortest.digits` finds the decimal with the fewest digits
in that interval, and of several the one nearest to the number itself.

The search is exact.  For one digit, two digits and so on up to seventeen it looks at the two
points of that decimal grid around the number; if any point of a grid lies in the interval, one
of these two does.

* `Binary.ofFloat` takes a double apart.
* `Shortest.digits m q` gives `(d, k)` with the decimal `d · 10 ^ k`.
-/

namespace Phrasebook.Decimal

/-- The absolute value `significand · 2 ^ exponent` of a finite double. -/
structure Binary where
  /-- The integer significand. -/
  significand : Nat
  /-- The power of two. -/
  exponent : Int
  /-- Whether the neighbour below lies at half the distance of the one above. -/
  narrowBelow : Bool
  deriving Repr

/-- The absolute value of a double; nothing for infinities and for what is no number. -/
def Binary.ofFloat? (x : Float) : Option Binary :=
  let bits := x.toBits.toNat
  let field : Nat := bits / Nat.pow 2 52 % Nat.pow 2 11
  let fraction : Nat := bits % Nat.pow 2 52
  if field = 2047 then none
  else if field = 0 then some ⟨fraction, -1074, false⟩
  else some ⟨Nat.pow 2 52 + fraction, Int.ofNat field - 1075, fraction == 0 && field != 1⟩

/-- The interval of the reals that are read as one double, in quarters of its last place. -/
structure Interval where
  /-- Four times the significand. -/
  middle : Nat
  /-- The lower end. -/
  low : Nat
  /-- The upper end. -/
  high : Nat
  /-- Whether the ends belong to the interval. -/
  closed : Bool

/-- The interval around a number; its ends are read as the number if its significand is even. -/
def Binary.interval (b : Binary) : Interval :=
  let m := 4 * b.significand
  ⟨m, m - (if b.narrowBelow then 1 else 2), m + 2, b.significand % 2 == 0⟩

/-- The number of decimal digits of `n`. -/
def digitCount (n : Nat) : Nat := (Nat.toDigits 10 n).length

/-- `10 ^ k` as a fraction. -/
def tenTo (k : Int) : Nat × Nat :=
  if 0 ≤ k then (Nat.pow 10 k.toNat, 1) else (1, Nat.pow 10 (-k).toNat)

/-- `2 ^ q` as a fraction. -/
def twoTo (q : Int) : Nat × Nat :=
  if 0 ≤ q then (Nat.pow 2 q.toNat, 1) else (1, Nat.pow 2 (-q).toNat)

/-- The exponent of the first decimal digit of `num / den`, both positive. -/
def leadingExponent (num den : Nat) : Int :=
  if den ≤ num then (digitCount (num / den) : Int) - 1
  else
    let shift := digitCount den
    (digitCount (num * Nat.pow 10 shift / den) : Int) - 1 - shift

namespace Shortest

/-- The better of the two points around the number on the grid of `10 ^ k`, if the interval holds
one: the nearer point, and the even one where both are equally near. -/
def onGrid? (i : Interval) (q : Int) (k : Int) : Option Nat :=
  let (tn, td) := tenTo k
  let (bn, bd) := twoTo (q - 2)
  -- one unit of the grid is `unit`, one quarter place is `place`, over a common denominator
  let unit := tn * bd
  let place := bn * td
  let d := i.middle * place / unit
  let inside (n : Nat) : Bool :=
    let x := n * unit
    let lo := i.low * place
    let hi := i.high * place
    if i.closed then lo ≤ x && x ≤ hi else lo < x && x < hi
  let below := i.middle * place - d * unit
  let above := (d + 1) * unit - i.middle * place
  match inside d, inside (d + 1) with
  | true, true =>
    some (if below < above then d else if above < below then d + 1
      else if d % 2 = 0 then d else d + 1)
  | true, false => some d
  | false, true => some (d + 1)
  | false, false => none

/-- `d · 10 ^ k` without trailing zeros in `d`; `fuel` bounds the number of zeros. -/
def strip : Nat → Nat → Int → Nat × Int
  | fuel + 1, d, k => if d ≠ 0 ∧ d % 10 = 0 then strip fuel (d / 10) (k + 1) else (d, k)
  | 0, d, k => (d, k)

/-- The search over grids of `n` digits and finer, for `fuel` grids. -/
def search (i : Interval) (q : Int) (lead : Int) : Nat → Nat → Nat × Int
  | fuel + 1, n =>
    let k := lead + 1 - n
    match onGrid? i q k with
    | some d => strip 20 d k
    | none => search i q lead fuel (n + 1)
  | 0, _ => (i.middle, q - 2)

/-- The shortest decimal `d · 10 ^ k` of a positive number, as the pair of `d` and `k`. -/
def digits (b : Binary) : Nat × Int :=
  let i := b.interval
  let (bn, bd) := twoTo b.exponent
  search i b.exponent (leadingExponent (b.significand * bn) bd) 17 1

end Shortest

end Phrasebook.Decimal
