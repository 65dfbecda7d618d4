import Phrasebook.Literal.Hexadecimal
import Phrasebook.Unicode.DecimalDigit

/-!
# TOML texts

`Toml.parse?` reads a TOML text whose values are texts and tables of texts, which is all that
project files are made of.  A text with any other value (a number, a truth value, a date, a list)
is refused, as is one that is no TOML at all.

What is read is the list of the text's `Statement`s in order.  Which keys may be set, and that none
is set twice, is for the caller to say.

The readers take the characters ahead and give what they read with the characters behind it.
-/

namespace Phrasebook.Toml

/-- A key: names divided by dots, each leading from a table to one in it. -/
abbrev Key := List String

/-- A value. -/
inductive Value where
  /-- A text. -/
  | text (s : String)
  /-- A table in braces, as its keys and texts in order. -/
  | table (entries : List (Key × String))
  deriving DecidableEq, Repr

/-- A statement of a TOML text. -/
inductive Statement where
  /-- The statements that follow are about the table with this key. -/
  | header (key : Key)
  /-- A key has a value. -/
  | entry (key : Key) (value : Value)
  deriving DecidableEq, Repr

namespace Reader

/-! ## Characters -/

/-- Whether `c` is a space or a tab. -/
def isBlank (c : Char) : Bool := c == ' ' || c == '\t'

/-- Whether a comment or a text in quotes may hold `c`. -/
def isPrintable (c : Char) : Bool := c == '\t' || (0x20 ≤ c.toNat && c.toNat != 0x7F)

/-- Whether a key without quotes may hold `c`. -/
def isBare (c : Char) : Bool := Unicode.isAsciiAlphanumeric c || c == '_' || c == '-'

/-- The characters from the first that is no blank. -/
def skipBlanks (cs : List Char) : List Char := cs.dropWhile isBlank

/-- What is behind the line break that `cs` starts with. -/
def lineBreak? : List Char → Option (List Char)
  | '\n' :: rest => some rest
  | '\r' :: '\n' :: rest => some rest
  | _ => none

/-- What is behind blanks, a comment and a line break, where the text may also end. -/
def restOfLine? (cs : List Char) : Option (List Char) :=
  let cs := match skipBlanks cs with
    | '#' :: rest => rest.dropWhile isPrintable
    | cs => cs
  if cs.isEmpty then some [] else lineBreak? cs

/-! ## Texts in quotes -/

/-- Reads what follows a backslash. -/
def escape? : List Char → Option (Char × List Char)
  | 'b' :: rest => some ('\x08', rest)
  | 't' :: rest => some ('\t', rest)
  | 'n' :: rest => some ('\n', rest)
  | 'f' :: rest => some ('\x0c', rest)
  | 'r' :: rest => some ('\r', rest)
  | '"' :: rest => some ('"', rest)
  | '\\' :: rest => some ('\\', rest)
  | 'u' :: rest => Literal.hexChar? 4 rest
  | 'U' :: rest => Literal.hexChar? 8 rest
  | _ => none

/-- Reads the rest of a text between double quotes on one line; `read` holds what was read so far,
last character first. -/
def basic? : Nat → List Char → List Char → Option (String × List Char)
  | 0, _, _ => none
  | fuel + 1, read, cs =>
    match cs with
    | '"' :: rest => some (String.ofList read.reverse, rest)
    | '\\' :: rest => do
      let (c, rest) ← escape? rest
      basic? fuel (c :: read) rest
    | c :: rest => if isPrintable c then basic? fuel (c :: read) rest else none
    | [] => none

/-- Reads the rest of a text between single quotes on one line. -/
def literal? (cs : List Char) : Option (String × List Char) :=
  let run := cs.takeWhile fun c => isPrintable c && c != '\''
  match cs.drop run.length with
  | '\'' :: rest => some (String.ofList run, rest)
  | _ => none

/-- What is behind a line break that the lines of a text may begin with. -/
def skipFirstBreak (cs : List Char) : List Char := (lineBreak? cs).getD cs

/-- What is behind blanks and line breaks; `fuel` bounds the number of line breaks. -/
def skipLines : Nat → List Char → List Char
  | 0, cs => cs
  | fuel + 1, cs =>
    let cs := skipBlanks cs
    match lineBreak? cs with
    | some rest => skipLines fuel rest
    | none => cs

/-- The end of a text of several lines: three closing quotes, before which one or two quotes may
belong to the text. -/
def closing? (quote : Char) (cs : List Char) : Option (List Char × List Char) :=
  let count := (cs.takeWhile (· == quote)).length
  if count < 3 then none
  else
    let own := min 2 (count - 3)
    some (List.replicate own quote, cs.drop (own + 3))

/-- Reads the rest of a text between three quotes; with `escapes`, a backslash starts an escape, or
takes away a line break and all white space behind it. -/
def lines? (quote : Char) (escapes : Bool) :
    Nat → List Char → List Char → Option (String × List Char)
  | 0, _, _ => none
  | fuel + 1, read, cs =>
    match closing? quote cs with
    | some (own, rest) => some (String.ofList (read.reverse ++ own), rest)
    | none =>
      match lineBreak? cs with
      | some rest => lines? quote escapes fuel ('\n' :: read) rest
      | none =>
        match cs with
        | c :: rest =>
          if escapes && c == '\\' then
            match lineBreak? (skipBlanks rest) with
            | some rest => lines? quote escapes fuel read (skipLines (rest.length + 1) rest)
            | none => do
              let (c, rest) ← escape? rest
              lines? quote escapes fuel (c :: read) rest
          else if isPrintable c then lines? quote escapes fuel (c :: read) rest
          else none
        | [] => none

/-- Reads a text in quotes. -/
def text? (cs : List Char) : Option (String × List Char) :=
  match cs with
  | '"' :: '"' :: '"' :: rest => lines? '"' true (rest.length + 1) [] (skipFirstBreak rest)
  | '\'' :: '\'' :: '\'' :: rest => lines? '\'' false (rest.length + 1) [] (skipFirstBreak rest)
  | '"' :: rest => basic? (rest.length + 1) [] rest
  | '\'' :: rest => literal? rest
  | _ => none

/-! ## Keys and values -/

/-- Reads one name of a key. -/
def name? (cs : List Char) : Option (String × List Char) :=
  match cs with
  | '"' :: rest => basic? (rest.length + 1) [] rest
  | '\'' :: rest => literal? rest
  | _ =>
    let run := cs.takeWhile isBare
    if run.isEmpty then none else some (String.ofList run, cs.drop run.length)

/-- Reads a key, with the blanks around its names; `fuel` bounds their number. -/
def key? : Nat → List Char → Option (Key × List Char)
  | 0, _ => none
  | fuel + 1, cs => do
    let (name, rest) ← name? (skipBlanks cs)
    match skipBlanks rest with
    | '.' :: rest =>
      let (key, rest) ← key? fuel rest
      return (name :: key, rest)
    | rest => return ([name], rest)

/-- Reads a key, an equals sign and what follows by `value?`. -/
def setting? (value? : List Char → Option (α × List Char)) (cs : List Char) :
    Option ((Key × α) × List Char) := do
  let (key, rest) ← key? (cs.length + 1) cs
  match rest with
  | '=' :: rest =>
    let (value, rest) ← value? (skipBlanks rest)
    return ((key, value), rest)
  | _ => none

/-- Reads the entries of a table in braces from the next one on; `read` holds those before, last
one first. -/
def entries? : Nat → List (Key × String) → List Char → Option (List (Key × String) × List Char)
  | 0, _, _ => none
  | fuel + 1, read, cs => do
    let (e, rest) ← setting? text? cs
    match skipBlanks rest with
    | ',' :: rest => entries? fuel (e :: read) rest
    | '\x7d' :: rest => return ((e :: read).reverse, rest)
    | _ => none

/-- Reads a value. -/
def value? (cs : List Char) : Option (Value × List Char) :=
  match cs with
  | '\x7b' :: rest =>
    match skipBlanks rest with
    | '\x7d' :: rest => some (.table [], rest)
    | rest => (entries? (rest.length + 1) [] rest).map fun (es, rest) => (.table es, rest)
  | _ => (text? cs).map fun (s, rest) => (.text s, rest)

/-! ## Statements -/

/-- Reads a statement that starts here. -/
def statement? (cs : List Char) : Option (Statement × List Char) :=
  match cs with
  | '[' :: rest => do
    let (key, rest) ← key? (rest.length + 1) rest
    match rest with
    | ']' :: rest => return (.header key, rest)
    | _ => none
  | _ => (setting? value? cs).map fun (e, rest) => (.entry e.1 e.2, rest)

/-- Reads all statements, each on lines of its own; `fuel` bounds the number of lines. -/
def statements? : Nat → List Char → Option (List Statement)
  | 0, _ => none
  | fuel + 1, cs =>
    if cs.isEmpty then some []
    else
      match restOfLine? cs with
      | some rest => statements? fuel rest
      | none => do
        let (s, rest) ← statement? (skipBlanks cs)
        return s :: (← statements? fuel (← restOfLine? rest))

end Reader

/-- Reads a TOML text; a byte order mark in front is no part of it. -/
def parse? (text : String) : Option (List Statement) :=
  let cs := match text.toList with
    | '\ufeff' :: rest => rest
    | cs => cs
  Reader.statements? (cs.length + 1) cs

end Phrasebook.Toml
