import Phrasebook.Json.Basic
import Phrasebook.Literal.Hexadecimal
import Phrasebook.Unicode.DecimalDigit

/-!
# Reading JSON texts

`Json.parse?` reads a whole JSON text.  It is strict: one value, with nothing but blanks around
it, no more than 127 containers inside one another, no control character inside a string, no half
of a surrogate pair, and no number too large for a double.

The readers below take the characters ahead and give what they read with the characters behind
it.  They recurse on `fuel`, and two steps for each character of the text are more than enough.
-/

namespace Phrasebook.Json

namespace Reader

/-- A reader's result: what it read and the characters behind it. -/
abbrev Result (α : Type) := Option (α × List Char)

/-- Whether `c` may stand between tokens. -/
def isBlank (c : Char) : Bool := c == ' ' || c == '\t' || c == '\n' || c == '\r'

/-- The characters from the first that is no blank. -/
def skipBlanks (cs : List Char) : List Char := cs.dropWhile isBlank

/-! ## Strings -/

/-- The character a single letter stands for behind a backslash. -/
def simpleEscape? (c : Char) : Option Char :=
  if c = '"' ∨ c = '\\' ∨ c = '/' then some c
  else if c = 'b' then some '\x08'
  else if c = 'f' then some '\x0c'
  else if c = 'n' then some '\n'
  else if c = 'r' then some '\r'
  else if c = 't' then some '\t'
  else none

/-- Reads the rest of a string behind its opening quote; `read` holds what was read so far, last
character first. -/
def stringBody? (read : List Char) : List Char → Result String
  | '"' :: rest => some (String.ofList read.reverse, rest)
  | '\\' :: 'u' :: a :: b :: c :: d :: rest =>
    match Literal.hexNumber? [a, b, c, d] with
    | none => none
    | some n =>
      if n < 0xD800 ∨ 0xE000 ≤ n then stringBody? (Char.ofNat n :: read) rest
      else if n < 0xDC00 then
        match rest with
        | '\\' :: 'u' :: a :: b :: c :: d :: rest =>
          match Literal.hexNumber? [a, b, c, d] with
          | none => none
          | some m =>
            if 0xDC00 ≤ m ∧ m < 0xE000 then
              stringBody? (Char.ofNat (0x10000 + (n - 0xD800) * 0x400 + (m - 0xDC00)) :: read) rest
            else none
        | _ => none
      else none
  | '\\' :: c :: rest =>
    match simpleEscape? c with
    | some e => stringBody? (e :: read) rest
    | none => none
  | c :: rest => if c.toNat < 0x20 ∨ c = '\\' then none else stringBody? (c :: read) rest
  | [] => none

/-! ## Numbers -/

/-- Reads one or more digits. -/
def digits? (cs : List Char) : Result (List Char) :=
  match cs.takeWhile Unicode.isAsciiDigit with
  | [] => none
  | ds => some (ds, cs.dropWhile Unicode.isAsciiDigit)

/-- Reads the whole part of a numeral, which starts with a zero only if it is zero. -/
def whole? (cs : List Char) : Result (List Char) :=
  match digits? cs with
  | some ('0' :: _ :: _, _) => none
  | r => r

/-- Reads a point and the digits behind it, if there is a point. -/
def fraction? : List Char → Result (Option (List Char))
  | '.' :: rest => (digits? rest).map fun (ds, rest) => (some ds, rest)
  | cs => some (none, cs)

/-- Reads an exponent, if there is one. -/
def exponent? : List Char → Result (Option (Bool × List Char))
  | c :: rest =>
    if c = 'e' ∨ c = 'E' then
      match rest with
      | '+' :: rest => (digits? rest).map fun (ds, rest) => (some (false, ds), rest)
      | '-' :: rest => (digits? rest).map fun (ds, rest) => (some (true, ds), rest)
      | rest => (digits? rest).map fun (ds, rest) => (some (false, ds), rest)
    else some (none, c :: rest)
  | [] => some (none, [])

/-- Reads a number. -/
def number? (cs : List Char) : Option (JsonNumber × List Char) := do
  let (negative, cs) := match cs with
    | '-' :: rest => (true, rest)
    | _ => (false, cs)
  let (whole, cs) ← whole? cs
  let (fraction, cs) ← fraction? cs
  let (exponent, cs) ← exponent? cs
  let n ← Numeral.value? ⟨negative, whole, fraction, exponent⟩
  return (n, cs)

/-! ## Values -/

mutual

/-- Reads a value, in which `depth` more containers may be open at once. -/
def value? : Nat → Nat → List Char → Result Json
  | 0, _, _ => none
  | fuel + 1, depth, cs =>
    match skipBlanks cs with
    | 'n' :: 'u' :: 'l' :: 'l' :: rest => some (.null, rest)
    | 't' :: 'r' :: 'u' :: 'e' :: rest => some (.bool true, rest)
    | 'f' :: 'a' :: 'l' :: 's' :: 'e' :: rest => some (.bool false, rest)
    | '"' :: rest => (stringBody? [] rest).map fun (s, rest) => (.string s, rest)
    | '[' :: rest =>
      match depth with
      | 0 => none
      | depth + 1 =>
        match skipBlanks rest with
        | ']' :: rest => some (.array [], rest)
        | rest => (items? fuel depth [] rest).map fun (l, rest) => (.array l, rest)
    | '\x7b' :: rest =>
      match depth with
      | 0 => none
      | depth + 1 =>
        match skipBlanks rest with
        | '\x7d' :: rest => some (.object [], rest)
        | rest => (members? fuel depth [] rest).map fun (l, rest) => (ofMembers l, rest)
    | rest => (number? rest).map fun (n, rest) => (.number n, rest)

/-- Reads the items of a list from the next one on; `read` holds those before, last one first. -/
def items? : Nat → Nat → List Json → List Char → Result (List Json)
  | 0, _, _, _ => none
  | fuel + 1, depth, read, cs =>
    match value? fuel depth cs with
    | none => none
    | some (v, rest) =>
      match skipBlanks rest with
      | ',' :: rest => items? fuel depth (v :: read) rest
      | ']' :: rest => some ((v :: read).reverse, rest)
      | _ => none

/-- Reads the members of an object from the next one on; `read` holds those before, last one
first. -/
def members? : Nat → Nat → List (String × Json) → List Char → Result (List (String × Json))
  | 0, _, _, _ => none
  | fuel + 1, depth, read, cs =>
    match skipBlanks cs with
    | '"' :: rest =>
      match stringBody? [] rest with
      | none => none
      | some (name, rest) =>
        match skipBlanks rest with
        | ':' :: rest =>
          match value? fuel depth rest with
          | none => none
          | some (v, rest) =>
            match skipBlanks rest with
            | ',' :: rest => members? fuel depth ((name, v) :: read) rest
            | '\x7d' :: rest => some (((name, v) :: read).reverse, rest)
            | _ => none
        | _ => none
    | _ => none

end

end Reader

/-- Reads a JSON text, which is one value with blanks around it, where at most `depth` containers
may be open at once. -/
def parseWithin? (depth : Nat) (text : String) : Option Json :=
  let cs := text.toList
  match Reader.value? (2 * cs.length + 2) depth cs with
  | some (v, rest) => if (Reader.skipBlanks rest).isEmpty then some v else none
  | none => none

/-- Reads a JSON text, where at most 127 containers may be open at once. -/
def parse? (text : String) : Option Json := parseWithin? 127 text

end Phrasebook.Json
