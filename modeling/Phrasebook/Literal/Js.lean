import Phrasebook.Literal.Hexadecimal
import Phrasebook.Unicode.Printable

/-!
# JavaScript literals

Two ways to write a text in an ES module.

* `quoted` is a double-quoted string literal, in which no control character and no line
  separator stands for itself.
* `template` is a template literal, which keeps line breaks as they are and escapes only what
  would end the literal, open a substitution or begin an escape.
* `text` picks the template literal for texts of several lines.
-/

namespace Phrasebook.Literal.Js

open Unicode

/-- One character inside a double-quoted string literal. -/
def escapeChar (c : Char) : List Char :=
  if c = '\\' then ['\\', '\\']
  else if c = '"' then ['\\', '"']
  else if c = '\n' then ['\\', 'n']
  else if c = '\r' then ['\\', 'r']
  else if c = '\t' then ['\\', 't']
  else if c = '\u2028' ∨ c = '\u2029' ∨ isControl c then '\\' :: 'u' :: hexDigits4 c.toNat
  else [c]

/-- The characters between the quotes of a string literal. -/
def escape (cs : List Char) : List Char := cs.flatMap escapeChar

/-- The double-quoted string literal of a text. -/
def quoted (text : String) : String := String.ofList ('"' :: escape text.toList ++ ['"'])

/-- The characters of a template literal: a backslash goes before each backslash and backtick,
and before each dollar sign that a brace follows. -/
def escapeTemplate : List Char → List Char
  | '$' :: '\x7b' :: rest => '\\' :: '$' :: '\x7b' :: escapeTemplate rest
  | c :: rest =>
    if c = '\\' ∨ c = '\x60' then '\\' :: c :: escapeTemplate rest else c :: escapeTemplate rest
  | [] => []

/-- The template literal of a text. -/
def template (text : String) : String :=
  String.ofList ('\x60' :: escapeTemplate text.toList ++ ['\x60'])

/-- The literal a text is written as: a template if it has several lines. -/
def text (s : String) : String := if '\n' ∈ s.toList then template s else quoted s

end Phrasebook.Literal.Js
