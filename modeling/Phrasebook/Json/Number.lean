import Phrasebook.Decimal.Digits
import Phrasebook.Decimal.Shortest

/-!
# Numbers in documents

A number is a natural number of 64 bits, a negative integer of 64 bits, or a double.  Which one a
numeral stands for depends on its spelling alone: `1` is natural, while `1.0`, `1e0` and `-0` are
doubles, and so is an integer that does not fit.

* `Numeral.value?` reads a numeral that has been divided into its parts.
* `JsonNumber.toString` writes a number; a double is written by its shortest decimal.
-/

namespace Phrasebook

/-- A number of a document. -/
inductive JsonNumber where
  /-- A natural number. -/
  | natural (n : UInt64)
  /-- A negative integer. -/
  | negative (n : Int64)
  /-- A finite double. -/
  | real (x : Float)

namespace JsonNumber

/-! ## Writing -/

/-- The decimal `d · 10 ^ k` of a positive double: positional from `1e-5` to below `1e16`, with a
digit on each side of the point, and otherwise with an exponent behind the first digit, which has
a sign. -/
def positiveText (d : Nat) (k : Int) : String :=
  let ds := Nat.toDigits 10 d
  let length : Int := ds.length
  let point := length + k
  if 0 ≤ k ∧ point ≤ 16 then
    String.ofList (ds ++ List.replicate k.toNat '0' ++ ['.', '0'])
  else if 0 < point ∧ point ≤ 16 then
    String.ofList (ds.take point.toNat ++ '.' :: ds.drop point.toNat)
  else if -5 < point ∧ point ≤ 0 then
    String.ofList (['0', '.'] ++ List.replicate (-point).toNat '0' ++ ds)
  else
    let exponent := (if point ≤ 0 then "e" else "e+") ++ toString (point - 1)
    match ds with
    | [c] => c.toString ++ exponent
    | c :: rest => String.ofList (c :: '.' :: rest) ++ exponent
    | [] => ""

/-- The text of a double, by its shortest decimal; zero keeps its sign, and what is no finite
number has the text `null`. -/
def realText (x : Float) : String :=
  match Decimal.Binary.ofFloat? x with
  | none => "null"
  | some b =>
    let sign := if x.toBits ≥ 0x8000000000000000 then "-" else ""
    if b.significand = 0 then sign ++ "0.0"
    else
      let (d, k) := Decimal.Shortest.digits b
      sign ++ positiveText d k

protected def toString : JsonNumber → String
  | natural n => toString n.toNat
  | negative n => toString n.toInt
  | real x => realText x

instance : ToString JsonNumber := ⟨JsonNumber.toString⟩

end JsonNumber

/-! ## Numerals -/

/-- A numeral divided into its parts. -/
structure Numeral where
  /-- Whether a minus sign comes first. -/
  negative : Bool
  /-- The digits before the point. -/
  whole : List Char
  /-- The digits behind the point, if there is one. -/
  fraction : Option (List Char)
  /-- The sign and the digits of the exponent, if there is one. -/
  exponent : Option (Bool × List Char)

namespace Numeral

/-- The leading digits of a run that fit in 64 bits behind `n`, and how many digits are left. -/
def significand (n : Nat) : List Char → Nat × Nat
  | [] => (n, 0)
  | c :: rest =>
    let n' := n * 10 + (c.toNat - 48)
    if n' < UInt64.size then significand n' rest else (n, rest.length + 1)

/-- `f · 10 ^ e` in steps of at most three hundred and eight powers of ten, each rounded;
nothing if it is too large.  `fuel` bounds the number of steps. -/
def scale : Nat → Float → Int → Option Float
  | 0, _, _ => none
  | fuel + 1, f, e =>
    if e.natAbs ≤ 308 then
      let power := Float.ofScientific 1 false e.natAbs
      if 0 ≤ e then
        let x := f * power
        if x.isInf then none else some x
      else some (f / power)
    else if f == 0 then some f
    else if 0 ≤ e then none
    else scale fuel (f / Float.ofScientific 1 false 308) (e + 308)

/-- The value of an exponent, held between the bounds of a 32-bit integer; nothing where a number
other than zero would become too large. -/
def exponentValue (zero : Bool) : Bool × List Char → Option (Option Int)
  | (negative, ds) =>
    let n := Decimal.value ds
    if n < Nat.pow 2 31 then some (some (if negative then -(n : Int) else n))
    else if zero || negative then some none
    else none

/-- The double a numeral with a point or an exponent, or with too many digits, stands for: its
digits, as far as they fit in 64 bits, scaled by a power of ten. -/
def real? (t : Numeral) : Option Float :=
  let (whole, dropped) := significand 0 t.whole
  let fraction := t.fraction.getD []
  let (digits, left) := significand whole fraction
  let shift : Int := dropped - (fraction.length - left : Nat)
  let sign (f : Float) : Float := if t.negative then -f else f
  match t.exponent with
  | none => (scale 4 digits.toUInt64.toFloat shift).map sign
  | some e =>
    match exponentValue (digits == 0) e with
    | none => none
    | some none => some (sign 0)
    | some (some n) => (scale 4 digits.toUInt64.toFloat (shift + n)).map sign

/-- The number a numeral stands for; nothing if it is too large for a double. -/
def value? (t : Numeral) : Option JsonNumber :=
  let (n, dropped) := significand 0 t.whole
  if t.fraction.isNone ∧ t.exponent.isNone ∧ dropped = 0 then
    if !t.negative then some (.natural n.toUInt64)
    else if n = 0 ∨ Nat.pow 2 63 < n then some (.real (-n.toUInt64.toFloat))
    else some (.negative (Int64.ofInt (-n)))
  else t.real?.map .real

end Numeral

end Phrasebook
