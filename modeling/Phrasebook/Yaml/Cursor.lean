import Phrasebook.Unicode.DecimalDigit

/-!
# Places in a YAML text

A `Cursor` stands before a character of a text and knows its index, line and column: indentation
gives YAML texts their structure, so readers ask for the column at almost every step.  An index
counts the octets of the text in UTF-8, and a column counts characters.

* The predicates tell the classes of characters apart that the grammar of YAML is made of.
* `Cursor.next` passes one character, `Cursor.nextLine` a line break, `Cursor.takeWhile` a run of
  characters.
* `lineBreak?` says which character a line break counts as.
-/

namespace Phrasebook.Yaml

open Unicode

/-! ## Classes of characters -/

/-- Whether a text may hold `c`: tabs, line breaks, and all that can be printed. -/
def isAllowed (c : Char) : Bool :=
  let n := c.toNat
  n == 0x9 || n == 0xA || n == 0xD || (0x20 ≤ n && n ≤ 0x7E) || n == 0x85 ||
    (0xA0 ≤ n && n ≤ 0xD7FF) || (0xE000 ≤ n && n ≤ 0xFFFD) || 0x10000 ≤ n

/-- Whether `c` is a space or a tab. -/
def isBlank (c : Char) : Bool := c == ' ' || c == '\t'

/-- Whether `c` breaks a line. -/
def isBreak (c : Char) : Bool :=
  c == '\n' || c == '\r' || c == '\x85' || c == '\u2028' || c == '\u2029'

/-- Whether `c` separates words. -/
def isSeparator (c : Char) : Bool := isBlank c || isBreak c

/-- Whether names of anchors, handles and directives may hold `c`. -/
def isNameChar (c : Char) : Bool :=
  isAsciiAlphanumeric c || c == '_' || c == '-'

/-- Whether `c` opens, closes or divides a collection in brackets. -/
def isFlowIndicator (c : Char) : Bool :=
  c == ',' || c == '[' || c == ']' || c == '\x7b' || c == '\x7d'

/-- Whether the first of `cs` separates words, or there is none. -/
def atSeparator : List Char → Bool
  | [] => true
  | c :: _ => isSeparator c

/-- Whether `cs` starts with a line break, or is at its end. -/
def atLineEnd : List Char → Bool
  | [] => true
  | c :: _ => isBreak c

/-- The line break that `cs` starts with: the character it counts as, how many characters it has
and what is behind it.  All but the two separators of Unicode count as line feeds. -/
def lineBreak? : List Char → Option (Char × Nat × List Char)
  | '\r' :: '\n' :: rest => some ('\n', 2, rest)
  | c :: rest =>
    if c = '\u2028' ∨ c = '\u2029' then some (c, 1, rest)
    else if isBreak c then some ('\n', 1, rest)
    else none
  | [] => none

/-! ## Cursors -/

/-- The number of octets of `cs` in UTF-8. -/
def octetLength (cs : List Char) : Nat := (cs.map Char.utf8Size).foldr (· + ·) 0

/-- A place in a text. -/
structure Cursor where
  /-- The characters ahead. -/
  rest : List Char
  /-- The number of octets before the place. -/
  index : Nat
  /-- The number of lines before the place. -/
  line : Nat
  /-- The number of characters before the place in its line. -/
  column : Nat
  /-- The number of octets of the text. -/
  total : Nat

namespace Cursor

/-- The beginning of a text. -/
def start (cs : List Char) : Cursor := ⟨cs, 0, 0, 0, octetLength cs⟩

/-- The number of octets ahead, which is no less than the number of characters ahead. -/
def left (c : Cursor) : Nat := c.total - c.index

/-- The place behind the next `n` characters, which are on one line. -/
def skip (n : Nat) (c : Cursor) : Cursor :=
  { c with
    rest := c.rest.drop n
    index := c.index + octetLength (c.rest.take n)
    column := c.column + n }

/-- The place behind the next character, which is no line break. -/
def next (c : Cursor) : Cursor := c.skip 1

/-- The line break ahead, as the character it counts as, and the place behind it. -/
def nextLine? (c : Cursor) : Option (Char × Cursor) :=
  (lineBreak? c.rest).map fun (ch, n, rest) =>
    (ch, ⟨rest, c.index + octetLength (c.rest.take n), c.line + 1, 0, c.total⟩)

/-- The place behind the line break ahead, if there is one. -/
def nextLine (c : Cursor) : Cursor :=
  match c.nextLine? with
  | some (_, c) => c
  | none => c

/-- The run of characters with `p` ahead, all on one line, and the place behind it. -/
def takeWhile (p : Char → Bool) (c : Cursor) : List Char × Cursor :=
  let run := c.rest.takeWhile p
  (run, c.skip run.length)

/-- The place behind the run of characters with `p` ahead, all on one line. -/
def skipWhile (p : Char → Bool) (c : Cursor) : Cursor := (c.takeWhile p).2

/-- The place behind the comment ahead, if there is one. -/
def skipComment (c : Cursor) : Cursor :=
  match c.rest with
  | '#' :: _ => c.skipWhile fun ch => !isBreak ch
  | _ => c

/-- The place behind the rest of the line, which holds nothing but blanks and a comment. -/
def restOfLine? (c : Cursor) : Option Cursor :=
  let c := (c.skipWhile isBlank).skipComment
  if atLineEnd c.rest then some c.nextLine else none

/-- Whether a line starts here that marks the beginning or the end of a document. -/
def atDocumentMark (c : Cursor) : Bool :=
  c.column == 0 &&
    match c.rest with
    | '-' :: '-' :: '-' :: rest => atSeparator rest
    | '.' :: '.' :: '.' :: rest => atSeparator rest
    | _ => false

end Cursor

end Phrasebook.Yaml
