import Phrasebook.Decimal.Digits
import Phrasebook.Decimal.Nearest
import Phrasebook.Json.Basic
import Phrasebook.Yaml.Node

/-!
# Values of YAML scalars

A plain scalar without a tag is a text unless its spelling is that of the null value, a truth
value, an integer or a real number (`Core.plain?`).  A tag of the core schema asks for one kind of
value and refuses all other spellings, and a tag of a kind of its own is refused with any; with any
other tag, and in quotes, a scalar is a text (`Core.scalar?`).

Spellings that look like other things are texts: digits behind a leading zero, digits with
underscores, and words such as `yes`.  An integer that fits in 128 bits but not in 64 has no value
at all, and what is no finite number has the null value.
-/

namespace Phrasebook.Yaml.Core

open Unicode

/-! ## Spellings -/

/-- Whether `s` is written for the null value. -/
def isNull (s : String) : Bool := s ∈ ["null", "Null", "NULL", "~"]

/-- The truth value that `s` is written for. -/
def bool? (s : String) : Option Bool :=
  if s ∈ ["true", "True", "TRUE"] then some true
  else if s ∈ ["false", "False", "FALSE"] then some false
  else none

/-- The number that digits in base `base` write, of which there is at least one. -/
def based? (base : Nat) (cs : List Char) : Option Nat :=
  if cs.isEmpty then none
  else
    cs.foldlM (fun n c => do
      let d ← Literal.hexValue? c
      if d < base then return n * base + d else none) 0

/-- The number that digits behind `0x`, `0o` or `0b` write, or decimal digits. -/
def natural? : List Char → Option Nat
  | '0' :: 'x' :: ds => based? 16 ds
  | '0' :: 'o' :: ds => based? 8 ds
  | '0' :: 'b' :: ds => based? 2 ds
  | ds => based? 10 ds

/-- Whether `cs` is a zero with nothing but digits behind it, at least one. -/
def isZeroPadded (cs : List Char) : Bool :=
  match cs with
  | '0' :: d :: ds => (d :: ds).all isAsciiDigit
  | _ => false

/-- `cs` without a sign in front. -/
def unsigned (cs : List Char) : List Char :=
  match cs with
  | '+' :: rest => rest
  | '-' :: rest => rest
  | _ => cs

/-- The integer that `cs` is written for, with a sign or without, if it fits in 128 bits. -/
def integer? (cs : List Char) : Option Int :=
  if isZeroPadded (unsigned cs) then none
  else
    match cs with
    | '-' :: rest =>
      match natural? rest with
      | some n => if n ≤ Nat.pow 2 127 then some (-n) else none
      | none => none
    | _ =>
      match natural? (unsigned cs) with
      | some n => if n < Nat.pow 2 128 then some n else none
      | none => none

/-- The exponent behind a numeral: its sign and its digits, or zero where there is none. -/
def exponent? : List Char → Option Int
  | [] => some 0
  | c :: rest =>
    if c = 'e' ∨ c = 'E' then
      match rest with
      | '-' :: ds => (based? 10 ds).map fun n => -n
      | '+' :: ds => (based? 10 ds).map Int.ofNat
      | ds => (based? 10 ds).map Int.ofNat
    else none

/-- The double nearest to what a decimal numeral without a sign writes: digits, a point with
digits on at least one side, and an exponent.  Nothing if it is no numeral or too large. -/
def unsignedReal? (cs : List Char) : Option Float := do
  let whole := cs.takeWhile isAsciiDigit
  let rest := cs.dropWhile isAsciiDigit
  let (fraction, rest) := match rest with
    | '.' :: rest => (rest.takeWhile isAsciiDigit, rest.dropWhile isAsciiDigit)
    | rest => ([], rest)
  if whole.isEmpty && fraction.isEmpty then none
  else
    let e ← exponent? rest
    Decimal.Nearest.ofDecimal? (Decimal.value (whole ++ fraction)) (e - fraction.length)

/-- The real number that `cs` is written for; the null value for infinities and for what is no
number. -/
def real? (cs : List Char) : Option Json :=
  let infinite (cs : List Char) : Bool := String.ofList cs ∈ [".inf", ".Inf", ".INF"]
  let finite (x : Float) : Json := .number (.real x)
  match cs with
  | '+' :: rest => if infinite rest then some .null else (unsignedReal? rest).map finite
  | '-' :: rest =>
    if infinite rest then some .null else (unsignedReal? rest).map fun x => finite (-x)
  | _ =>
    if infinite cs || String.ofList cs ∈ [".nan", ".NaN", ".NAN"] then some .null
    else (unsignedReal? cs).map finite

/-! ## Values -/

/-- The number that an integer is, if it fits in 64 bits. -/
def number? (n : Int) : Option Json :=
  if 0 ≤ n then
    if n < UInt64.size then some (.number (.natural n.toNat.toUInt64)) else none
  else if Int64.minValue.toInt ≤ n then some (.number (.negative (Int64.ofInt n)))
  else none

/-- The value of a plain scalar without a tag. -/
def plain? (s : String) : Option Json :=
  let cs := s.toList
  if s.isEmpty || isNull s then some .null
  else
    match bool? s with
    | some b => some (.bool b)
    | none =>
      match integer? cs with
      | some n => number? n
      | none =>
        if isZeroPadded (unsigned cs) then some (.string s)
        else some ((real? cs).getD (.string s))

/-- The tag `name` of the core schema. -/
def coreTag (name : String) : Tag := octets ("tag:yaml.org,2002:".toList ++ name.toList)

/-- Whether a tag starts with an exclamation mark. -/
def isMarked (t : Tag) : Bool := t.head? == some '!'.toNat.toUInt8

/-- Whether a tag is of a kind of its own, which nothing is known about: it is a text that starts
with an exclamation mark. -/
def isLocal (t : Tag) : Bool := isMarked t && (String.fromUTF8? ⟨t.toArray⟩).isSome

/-- The value of a scalar.  A tag of a kind of its own is refused; what starts like one but is no
text counts for nothing. -/
def scalar? (tag : Option Tag) (plain : Bool) (s : String) : Option Json :=
  match tag with
  | none => if plain then plain? s else some (.string s)
  | some t =>
    if isLocal t then none
    else if t = coreTag "bool" then (bool? s).map .bool
    else if t = coreTag "int" then (integer? s.toList).bind number?
    else if t = coreTag "float" then real? s.toList
    else if t = coreTag "null" then if isNull s then some .null else none
    else if isMarked t && plain then plain? s
    else some (.string s)

end Phrasebook.Yaml.Core
