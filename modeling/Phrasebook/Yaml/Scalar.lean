import Phrasebook.Literal.Hexadecimal
import Phrasebook.Yaml.Cursor

/-!
# YAML scalars

A scalar is a text written without quotes (*plain*), between quotes, or as a block of lines.  Each
way of writing has a reader, which gives the text and the place behind it:

* `Scalar.plain?` reads a plain scalar, which ends where a key, a comment or a shallower line
  begins;
* `Scalar.singleQuoted?` and `Scalar.doubleQuoted?` read what follows an opening quote, the latter
  with escapes;
* `Scalar.block?` reads a literal or folded block behind its indicator.

Where a plain or quoted scalar goes over several lines, a `Gap` of blanks and line breaks stands
between its words.  `Gap.text` folds it: one line break becomes a space, and of several the first
is dropped.
-/

namespace Phrasebook.Yaml

/-! ## Gaps between words -/

/-- The blanks and line breaks between two words. -/
structure Gap where
  /-- The blanks, as long as the line has not ended. -/
  blanks : String
  /-- Whether the line has ended. -/
  broken : Bool
  /-- The first line break, unless a backslash took it away. -/
  first : Option Char
  /-- All later line breaks. -/
  more : String

namespace Gap

/-- The gap before anything is read. -/
def empty : Gap := ⟨"", false, none, ""⟩

/-- The gap that starts with a line break behind a backslash. -/
def escaped : Gap := ⟨"", true, none, ""⟩

/-- What a gap stands for. -/
def text (g : Gap) : String :=
  if g.broken then
    match g.first with
    | some '\n' => if g.more.isEmpty then " " else g.more
    | some c => c.toString ++ g.more
    | none => g.more
  else g.blanks

/-- Reads the rest of a gap.  In a line after the first, tabs before the column `indent` are
refused. -/
def read? (indent : Nat) : Nat → Gap → Cursor → Option (Gap × Cursor)
  | 0, _, _ => none
  | fuel + 1, g, c =>
    match c.nextLine? with
    | some (ch, c) =>
      if g.broken then read? indent fuel { g with more := g.more.push ch } c
      else read? indent fuel ⟨"", true, some ch, ""⟩ c
    | none =>
      match c.rest with
      | ch :: _ =>
        if isBlank ch then
          if g.broken then
            if ch = '\t' ∧ c.column < indent then none else read? indent fuel g c.next
          else read? indent fuel { g with blanks := g.blanks.push ch } c.next
        else some (g, c)
      | [] => some (g, c)

end Gap

namespace Scalar

/-! ## Plain scalars -/

/-- Reads a word of a plain scalar onto `text`.  It ends before a colon that ends a key and, inside
brackets, before the characters that divide or close; there a colon before such a character is
refused. -/
def plainWord? (inFlow : Bool) (text : String) : List Char → Option (String × Nat)
  | [] => some (text, 0)
  | c :: rest =>
    let before (p : Char → Bool) : Bool := rest.head?.any p
    if isSeparator c then some (text, 0)
    else if inFlow && c == ':' && before fun d => isFlowIndicator d || d == '?' then none
    else if (c == ':' && atSeparator rest) || (inFlow && isFlowIndicator c) then some (text, 0)
    else (plainWord? inFlow (text.push c) rest).map fun (t, n) => (t, n + 1)

/-- Reads the words of a plain scalar onto `text`, of which the next stands behind `gap`.  Also
tells whether the reading ended in a later line than the last word. -/
def plainWords? (inFlow : Bool) (indent : Nat) :
    Nat → String → Gap → Cursor → Option (String × Bool × Cursor)
  | 0, _, _, _ => none
  | fuel + 1, text, gap, c =>
    if c.atDocumentMark || c.rest.head? == some '#' then some (text, gap.broken, c)
    else
      match plainWord? inFlow (text ++ gap.text) c.rest with
      | none => none
      | some (_, 0) => some (text, gap.broken, c)
      | some (text, n) =>
        let c := c.skip n
        match Gap.read? indent (c.left + 1) .empty c with
        | none => none
        | some (gap, c) =>
          if !inFlow && c.column < indent then some (text, gap.broken, c)
          else plainWords? inFlow indent fuel text gap c

/-- Reads a plain scalar, whose later lines are indented by `indent` or more unless it is inside
brackets.  Also tells whether the reading ended in a later line than the scalar. -/
def plain? (inFlow : Bool) (indent : Nat) (c : Cursor) : Option (String × Bool × Cursor) :=
  plainWords? inFlow indent (c.left + 1) "" .empty c

/-! ## Quoted scalars -/

/-- What stopped the reading of a word between quotes. -/
inductive Stop where
  /-- The closing quote. -/
  | quote
  /-- A blank, a line break or the end of the text. -/
  | separator
  /-- A line break behind a backslash. -/
  | escapedBreak

/-- Reads a word between single quotes onto `text`, where a quote written twice stands for one. -/
def singleWord (text : String) : List Char → String × Nat × Stop
  | [] => (text, 0, .separator)
  | '\'' :: '\'' :: rest =>
    let (t, n, s) := singleWord (text.push '\'') rest
    (t, n + 2, s)
  | c :: rest =>
    if c = '\'' then (text, 0, .quote)
    else if isSeparator c then (text, 0, .separator)
    else
      let (t, n, s) := singleWord (text.push c) rest
      (t, n + 1, s)

/-- The character that a single character stands for behind a backslash. -/
def escape? (c : Char) : Option Char :=
  match c with
  | '0' => some '\x00'
  | 'a' => some '\x07'
  | 'b' => some '\x08'
  | 't' => some '\t'
  | '\t' => some '\t'
  | 'n' => some '\n'
  | 'v' => some '\x0b'
  | 'f' => some '\x0c'
  | 'r' => some '\r'
  | 'e' => some '\x1b'
  | ' ' => some ' '
  | '"' => some '"'
  | '/' => some '/'
  | '\\' => some '\\'
  | 'N' => some '\x85'
  | '_' => some '\xa0'
  | 'L' => some '\u2028'
  | 'P' => some '\u2029'
  | _ => none

/-- How many hexadecimal digits follow the character behind a backslash. -/
def escapeDigits? (c : Char) : Option Nat :=
  match c with
  | 'x' => some 2
  | 'u' => some 4
  | 'U' => some 8
  | _ => none

/-- Reads a word between double quotes onto `text`; `fuel` bounds the number of its characters. -/
def doubleWord? : Nat → String → List Char → Option (String × Nat × Stop)
  | 0, _, _ => none
  | fuel + 1, text, cs =>
    match cs with
    | [] => some (text, 0, .separator)
    | '"' :: _ => some (text, 0, .quote)
    | '\\' :: c :: rest =>
      if isBreak c then some (text, 1, .escapedBreak)
      else
        match escapeDigits? c with
        | some n => do
          let (ch, rest) ← Literal.hexChar? n rest
          let (t, m, s) ← doubleWord? fuel (text.push ch) rest
          return (t, m + n + 2, s)
        | none => do
          let ch ← escape? c
          let (t, m, s) ← doubleWord? fuel (text.push ch) rest
          return (t, m + 2, s)
    | c :: rest =>
      if c = '\\' then none
      else if isSeparator c then some (text, 0, .separator)
      else (doubleWord? fuel (text.push c) rest).map fun (t, m, s) => (t, m + 1, s)

/-- Reads a quoted scalar onto `text` up to its closing quote, by a reader of words. -/
def quotedWords? (word? : String → List Char → Option (String × Nat × Stop)) :
    Nat → String → Cursor → Option (String × Cursor)
  | 0, _, _ => none
  | fuel + 1, text, c =>
    if c.atDocumentMark || c.rest.isEmpty then none
    else
      match word? text c.rest with
      | none => none
      | some (text, n, .quote) => some (text, (c.skip n).next)
      | some (text, n, stop) =>
        let c := c.skip n
        let (gap, c) := match stop with
          | .escapedBreak => (Gap.escaped, c.nextLine)
          | _ => (Gap.empty, c)
        match Gap.read? 0 (c.left + 1) gap c with
        | none => none
        | some (gap, c) => quotedWords? word? fuel (text ++ gap.text) c

/-- Reads a scalar behind its opening single quote. -/
def singleQuoted? (c : Cursor) : Option (String × Cursor) :=
  quotedWords? (fun text cs => some (singleWord text cs)) (c.left + 1) "" c

/-- Reads a scalar behind its opening double quote. -/
def doubleQuoted? (c : Cursor) : Option (String × Cursor) :=
  quotedWords? (fun text cs => doubleWord? (c.left + 1) text cs) (c.left + 1) "" c

/-! ## Blocks -/

/-- What becomes of the line breaks at the end of a block. -/
inductive Chomping where
  /-- All are dropped. -/
  | strip
  /-- The first is kept. -/
  | clip
  /-- All are kept. -/
  | keep
  deriving DecidableEq

/-- The chomping that an indicator stands for. -/
def chomping? (c : Char) : Option Chomping :=
  match c with
  | '+' => some .keep
  | '-' => some .strip
  | _ => none

/-- Reads the indicators of a block in either order: the chomping and the indentation, which is
not zero. -/
def blockIndicators? (c : Cursor) : Option (Chomping × Option Nat × Cursor) :=
  let step? (c : Cursor) : Option (Option Nat × Cursor) :=
    match c.rest with
    | d :: _ =>
      if d = '0' then none
      else if Unicode.isAsciiDigit d then some (some (d.toNat - 48), c.next)
      else some (none, c)
    | [] => some (none, c)
  let chomping (c : Cursor) : Option (Chomping × Cursor) :=
    (c.rest.head?.bind chomping?).map fun k => (k, c.next)
  match chomping c with
  | some (k, c) => (step? c).map fun (n, c) => (k, n, c)
  | none =>
    match step? c with
    | none => none
    | some (none, c) => some (.clip, none, c)
    | some (some n, c) =>
      match chomping c with
      | some (k, c) => some (k, some n, c)
      | none => some (.clip, some n, c)

/-- Reads the indentation of the next line of a block and the empty lines before it, whose breaks
are put behind `breaks`.  The indentation is `indent` where it is known; also gives the greatest
column that was come to. -/
def blockBreaks? (indent : Option Nat) :
    Nat → Nat → String → Cursor → Option (Nat × String × Cursor)
  | 0, _, _, _ => none
  | fuel + 1, deepest, breaks, c =>
    let room := (indent.map (· - c.column)).getD c.left
    let c := c.skip ((c.rest.take room).takeWhile (· == ' ')).length
    let deepest := max deepest c.column
    if c.rest.head? == some '\t' && (indent.all fun i => c.column < i) then none
    else
      match c.nextLine? with
      | some (ch, c) => blockBreaks? indent fuel deepest (breaks.push ch) c
      | none => some (deepest, breaks, c)

/-- The text and the line breaks behind it, as far as a block has been read. -/
structure BlockText where
  /-- The lines. -/
  text : String
  /-- The break of the last line. -/
  lineBreak : Option Char
  /-- The breaks of the empty lines behind it. -/
  breaks : String
  /-- Whether the last line starts with a blank. -/
  blank : Bool

/-- Reads the lines of a block that is indented by `indent`.  Where lines are folded, the break
between two lines that start with no blank becomes a space, or nothing if empty lines stand
between them. -/
def blockLines? (folded : Bool) (indent : Nat) :
    Nat → BlockText → Cursor → Option (BlockText × Cursor)
  | 0, _, _ => none
  | fuel + 1, b, c =>
    if c.column ≠ indent ∨ c.rest.isEmpty then some (b, c)
    else
      let blank := c.rest.head?.any isBlank
      let joint :=
        if folded && b.lineBreak == some '\n' && !b.blank && !blank then
          if b.breaks.isEmpty then " " else ""
        else (b.lineBreak.map Char.toString).getD ""
      let (run, c) := c.takeWhile fun ch => !isBreak ch
      let text := b.text ++ joint ++ b.breaks ++ String.ofList run
      let (lineBreak, c) := match c.nextLine? with
        | some (ch, c) => (some ch, c)
        | none => (none, c)
      match blockBreaks? (some indent) (c.left + 1) 0 "" c with
      | none => none
      | some (_, breaks, c) => blockLines? folded indent fuel ⟨text, lineBreak, breaks, blank⟩ c

/-- Reads a block behind its indicator.  Its lines are indented deeper than the collection that it
is in, which is indented by `outer`, if there is one. -/
def block? (folded : Bool) (outer : Option Nat) (c : Cursor) : Option (String × Cursor) := do
  let (chomping, step, c) ← blockIndicators? c
  let c ← c.restOfLine?
  let known := step.map (outer.getD 0 + ·)
  let (deepest, breaks, c) ← blockBreaks? known (c.left + 1) 0 "" c
  let least := (outer.map (· + 1)).getD 0
  let indent := known.getD (max 1 (max least deepest))
  let (b, c) ← blockLines? folded indent (c.left + 1) ⟨"", none, breaks, false⟩ c
  let last := (b.lineBreak.map Char.toString).getD ""
  match chomping with
  | .strip => return (b.text, c)
  | .clip => return (b.text ++ last, c)
  | .keep => return (b.text ++ last ++ b.breaks, c)

end Scalar

end Phrasebook.Yaml
