import Phrasebook.Literal.Hexadecimal
import Phrasebook.Unicode.Printable

/-!
# Kotlin literals

Two ways to write a text in a Kotlin file.

* `quoted` is an escaped string literal, in which a dollar sign never opens a template.
* `raw?` is a raw string between triple quotes.  Raw strings have no escapes, so a dollar sign is
  written as a template that yields it, and some texts have no raw form: those with a triple
  quote, with a quote at the end or with a carriage return.
* `text` picks the raw string for texts of several lines that have one.
-/

namespace Phrasebook.Literal.Kotlin

open Unicode

/-- One character inside an escaped string literal. -/
def escapeChar (c : Char) : List Char :=
  if c = '\\' then ['\\', '\\']
  else if c = '"' then ['\\', '"']
  else if c = '$' then ['\\', '$']
  else if c = '\n' then ['\\', 'n']
  else if c = '\r' then ['\\', 'r']
  else if c = '\t' then ['\\', 't']
  else if c = '\x08' then ['\\', 'b']
  else if isControl c then '\\' :: 'u' :: hexDigits4 c.toNat
  else [c]

/-- The characters between the quotes of an escaped string literal. -/
def escape (cs : List Char) : List Char := cs.flatMap escapeChar

/-- A text as it stands inside an escaped string literal. -/
def escaped (text : String) : String := String.ofList (escape text.toList)

/-- The escaped string literal of a text. -/
def quoted (text : String) : String := String.ofList ('"' :: escape text.toList ++ ['"'])

/-- Whether three quotes in a row stand somewhere in `cs`. -/
def hasTripleQuote : List Char → Bool
  | [] => false
  | c :: rest => ['"', '"', '"'].isPrefixOf (c :: rest) || hasTripleQuote rest

/-- One character inside a raw string. -/
def rawChar (c : Char) : List Char :=
  if c = '$' then ['$', '\x7b', '\'', '$', '\'', '\x7d'] else [c]

/-- The raw string of a text, if it has one. -/
def raw? (text : String) : Option String :=
  let cs := text.toList
  if hasTripleQuote cs ∨ '\r' ∈ cs ∨ cs.getLast? = some '"' then none
  else some (String.ofList (['"', '"', '"'] ++ cs.flatMap rawChar ++ ['"', '"', '"']))

/-- The literal a text is written as: raw if it has several lines and a raw form. -/
def text (s : String) : String :=
  if '\n' ∈ s.toList then (raw? s).getD (quoted s) else quoted s

end Phrasebook.Literal.Kotlin
