import Phrasebook.Yaml.Scalar

/-!
# YAML tokens

`Token` is what the layout of a YAML text comes down to: brackets for the collections that are
shown by indentation or by brackets, marks for keys, values and entries, and scalars with what is
written in front of them.  The readers here take the tokens apart that have a spelling of their
own: directives, anchors and tags.

A tag is a sequence of octets, since any octet can be written in it by a percent sign and two
digits.  A zero octet ends a tag, and what is written behind it is lost.  `TagName` is a tag as it
is written, with its handle; what the handle stands for is settled when the directives of the
document are known.
-/

namespace Phrasebook.Yaml

/-- The octets of a tag. -/
abbrev Tag := List UInt8

/-- The octets of a text. -/
def octets (cs : List Char) : List UInt8 := (String.ofList cs).toUTF8.toList

/-- A tag as it is written: a handle, empty for a verbatim tag, and a suffix. -/
structure TagName where
  /-- What stands for the beginning of the tag. -/
  handle : String
  /-- The rest of the tag. -/
  suffix : Tag
  deriving DecidableEq, Repr

/-- A token of a YAML text. -/
inductive Token where
  /-- The version that a document is written in. -/
  | version (major minor : Nat)
  /-- What a handle stands for. -/
  | shorthand (name : String) (leading : Tag)
  /-- The line `---`. -/
  | documentStart
  /-- The line `...`. -/
  | documentEnd
  /-- The beginning of an indented sequence. -/
  | blockSequence
  /-- The beginning of an indented mapping. -/
  | blockMapping
  /-- The end of an indented collection. -/
  | blockEnd
  /-- An opening square bracket. -/
  | flowSequence
  /-- A closing square bracket. -/
  | flowSequenceEnd
  /-- An opening brace. -/
  | flowMapping
  /-- A closing brace. -/
  | flowMappingEnd
  /-- The hyphen before an entry of a sequence. -/
  | blockEntry
  /-- The comma between entries inside brackets. -/
  | flowEntry
  /-- What comes next is a key. -/
  | key
  /-- What comes next is the value of a key. -/
  | value
  /-- A name that stands for an earlier node. -/
  | alias (name : String)
  /-- The name of the node that comes next. -/
  | anchor (name : String)
  /-- The tag of the node that comes next. -/
  | tag (name : TagName)
  /-- A scalar, and whether it is plain. -/
  | scalar (plain : Bool) (text : String)
  deriving DecidableEq, Repr

namespace Token

/-! ## Anchors and aliases -/

/-- Whether a name may end before the first of `cs`. -/
def atNameEnd (cs : List Char) : Bool :=
  atSeparator cs ||
    cs.head?.any fun c => c ∈ ['?', ':', ',', ']', '\x7d', '%', '@', '\x60']

/-- Reads the name of an anchor or alias. -/
def name? (c : Cursor) : Option (String × Cursor) :=
  let (run, c) := c.takeWhile isNameChar
  if run.isEmpty || !atNameEnd c.rest then none else some (String.ofList run, c)

/-! ## Tags -/

/-- How many octets a character has in UTF-8 whose first octet is `b`. -/
def octetCount? (b : Nat) : Option Nat :=
  if b < 0x80 then some 1
  else if 0xC0 ≤ b ∧ b < 0xE0 then some 2
  else if 0xE0 ≤ b ∧ b < 0xF0 then some 3
  else if 0xF0 ≤ b ∧ b < 0xF8 then some 4
  else none

/-- Reads one octet, written as a percent sign and two hexadecimal digits. -/
def escapedOctet? : List Char → Option (Nat × List Char)
  | '%' :: a :: b :: rest => do return (← Literal.hexNumber? [a, b], rest)
  | _ => none

/-- Reads `n` octets that go on with a character. -/
def laterOctets? : Nat → List Char → Option (Tag × List Char)
  | 0, cs => some ([], cs)
  | n + 1, cs => do
    let (b, cs) ← escapedOctet? cs
    if b < 0x80 ∨ 0xC0 ≤ b then none
    else
      let (bs, cs) ← laterOctets? n cs
      return (b.toUInt8 :: bs, cs)

/-- Reads the octets of a character that is written octet by octet. -/
def escapedCharacter? (cs : List Char) : Option (Tag × List Char) := do
  let (b, cs) ← escapedOctet? cs
  let (bs, cs) ← laterOctets? ((← octetCount? b) - 1) cs
  return (b.toUInt8 :: bs, cs)

/-- Whether a tag may hold `c`; commas and square brackets only where nothing else can end it. -/
def isTagChar (delimited : Bool) (c : Char) : Bool :=
  isNameChar c ||
    c ∈ [';', '/', '?', ':', '@', '&', '=', '+', '$', '.', '!', '~', '*', '\'', '(', ')'] ||
    (delimited && c ∈ [',', '[', ']'])

/-- Reads the characters of a tag; `fuel` bounds their number. -/
def tagText? (delimited : Bool) : Nat → List Char → Option (Tag × List Char)
  | 0, _ => none
  | fuel + 1, cs =>
    match cs with
    | [] => some ([], [])
    | c :: rest =>
      if c = '%' then do
        let (bs, rest) ← escapedCharacter? cs
        let (t, rest) ← tagText? delimited fuel rest
        return (bs ++ t, rest)
      else if isTagChar delimited c then do
        let (t, rest) ← tagText? delimited fuel rest
        return (c.toNat.toUInt8 :: t, rest)
      else some ([], cs)

/-- Reads the characters of a tag and moves behind them. -/
def tagChars? (delimited : Bool) (c : Cursor) : Option (Tag × Cursor) :=
  (tagText? delimited (c.left + 1) c.rest).map fun (t, rest) =>
    (t, c.skip (c.rest.length - rest.length))

/-- What is left of a tag that a zero octet ends. -/
def untilZero (t : Tag) : Tag := t.takeWhile (· != 0)

/-- Reads the characters of a tag, of which there is at least one, up to a zero octet. -/
def someTagChars? (delimited : Bool) (c : Cursor) : Option (Tag × Cursor) :=
  match tagChars? delimited c with
  | some ([], _) => none
  | r => r.map fun (t, c) => (untilZero t, c)

/-- Reads an exclamation mark, a name and perhaps another exclamation mark; also tells whether the
other one is there. -/
def tagHandle? (c : Cursor) : Option (List Char × Bool × Cursor) :=
  match c.rest with
  | '!' :: _ =>
    let (run, c) := c.next.takeWhile isNameChar
    match c.rest with
    | '!' :: _ => some ('!' :: run ++ ['!'], true, c.next)
    | _ => some ('!' :: run, false, c)
  | _ => none

/-- Reads a tag without regard to what follows it: `!<tag>`, `!handle!suffix`, `!suffix` or a lone
exclamation mark. -/
def tagName? (c : Cursor) : Option (TagName × Cursor) :=
  match c.rest with
  | '!' :: '<' :: _ => do
    let (t, c) ← someTagChars? true (c.skip 2)
    match c.rest with
    | '>' :: _ => return (⟨"", t⟩, c.next)
    | _ => none
  | _ => do
    let (handle, closed, c) ← tagHandle? c
    if closed then
      let (t, c) ← someTagChars? false c
      return (⟨String.ofList handle, t⟩, c)
    else
      let (t, c) ← tagChars? false c
      let suffix := octets (handle.drop 1) ++ untilZero t
      return (if suffix.isEmpty then ⟨"", octets ['!']⟩ else ⟨"!", suffix⟩, c)

/-- Reads a tag, which a separator ends or, inside brackets, a comma. -/
def tag? (inFlow : Bool) (c : Cursor) : Option (TagName × Cursor) := do
  let (t, c) ← tagName? c
  if atSeparator c.rest || (inFlow && c.rest.head? == some ',') then return (t, c) else none

/-! ## Directives -/

/-- Reads a number of at most nine digits. -/
def versionNumber? (c : Cursor) : Option (Nat × Cursor) :=
  let (run, c) := c.takeWhile Unicode.isAsciiDigit
  if run.isEmpty ∨ 9 < run.length then none
  else some (run.foldl (fun n d => n * 10 + (d.toNat - 48)) 0, c)

/-- Reads a directive behind its percent sign, with the rest of its line. -/
def directive? (c : Cursor) : Option (Token × Cursor) := do
  let (name, c) := c.takeWhile isNameChar
  if !atSeparator c.rest then none
  else
    let c := c.skipWhile isBlank
    if name = ['Y', 'A', 'M', 'L'] then
      let (major, c) ← versionNumber? c
      match c.rest with
      | '.' :: _ =>
        let (minor, c) ← versionNumber? c.next
        return (.version major minor, ← c.restOfLine?)
      | _ => none
    else if name = ['T', 'A', 'G'] then
      let (handle, closed, c) ← tagHandle? c
      if !closed && handle != ['!'] then none
      else if !c.rest.head?.any isBlank then none
      else
        let (leading, c) ← someTagChars? true (c.skipWhile isBlank)
        if !atSeparator c.rest then none
        else return (.shorthand (String.ofList handle) leading, ← c.restOfLine?)
    else none

end Token

end Phrasebook.Yaml
