import Phrasebook.Literal.Hexadecimal
import Phrasebook.Unicode.Printable

/-!
# Rust literals

Two ways to write a text in a Rust file.

* `quoted` is an escaped string literal.  Characters that cannot be shown, and marks that would
  fuse with the character before them, are written by their code points.
* `raw?` is a raw string with one hash more than any quote in the text is followed by, so no
  quote in the text ends it.  Raw strings cannot hold a carriage return.
* `text` picks the raw string for texts of several lines that have one.
-/

namespace Phrasebook.Literal.Rust

open Unicode

/-- One character inside an escaped string literal. -/
def escapeChar (c : Char) : List Char :=
  if c = '\x00' then ['\\', '0']
  else if c = '\t' then ['\\', 't']
  else if c = '\r' then ['\\', 'r']
  else if c = '\n' then ['\\', 'n']
  else if c = '"' then ['\\', '"']
  else if c = '\\' then ['\\', '\\']
  else if extendsGrapheme c ∨ ¬isPrintable c then
    ['\\', 'u', '\x7b'] ++ hexDigits c.toNat ++ ['\x7d']
  else [c]

/-- The escaped string literal of a text. -/
def quoted (text : String) : String :=
  String.ofList ('"' :: text.toList.flatMap escapeChar ++ ['"'])

/-- The largest number of hashes that follow a quote in `cs`. -/
def longestHashRun : List Char → Nat
  | [] => 0
  | c :: rest =>
    max (if c = '"' then (rest.takeWhile (· = '#')).length else 0) (longestHashRun rest)

/-- The raw string of a text, if it has one. -/
def raw? (text : String) : Option String :=
  let cs := text.toList
  if '\r' ∈ cs then none
  else
    let hashes := List.replicate (longestHashRun cs + 1) '#'
    some (String.ofList ('r' :: hashes ++ '"' :: cs ++ '"' :: hashes))

/-- The literal a text is written as: raw if it has several lines and a raw form. -/
def text (s : String) : String :=
  if '\n' ∈ s.toList then (raw? s).getD (quoted s) else quoted s

end Phrasebook.Literal.Rust
