import Phrasebook.Yaml.Token

/-!
# The layout of YAML texts

`tokens?` divides a text into tokens.  Two things are not there to read but have to be found:

* *Indentation.*  A deeper column opens a collection, a shallower one closes it.  `Layout.indents`
  holds the columns of the collections that are open; inside brackets indentation means nothing.
* *Keys without a mark.*  Whether a node is a key shows only at the colon behind it.  Therefore a
  place where a key may start is kept (`PossibleKey`), and if a colon follows in time, the mark of
  the key is put in there (`Layout.value?`).  A key is on one line and not longer than 1024
  octets; where nothing but a key can stand, its colon must follow.
-/

namespace Phrasebook.Yaml

/-- A place where a key may have started. -/
structure PossibleKey where
  /-- The number of tokens before it. -/
  place : Nat
  /-- Whether nothing but a key can stand there. -/
  required : Bool
  /-- The number of octets before it. -/
  index : Nat
  /-- The number of lines before it. -/
  line : Nat
  /-- Its column. -/
  column : Nat

/-- What is known when a text has been divided up to some place. -/
structure Layout where
  /-- The place. -/
  cursor : Cursor
  /-- The tokens before the place. -/
  tokens : Array Token
  /-- The columns of the open collections without brackets, the innermost first. -/
  indents : List Nat
  /-- Whether a key may start at the place. -/
  keyAllowed : Bool
  /-- Where a key may have started, inside the innermost brackets. -/
  possible : Option PossibleKey
  /-- Where a key may have started outside each of the open brackets, the innermost first. -/
  outer : List (Option PossibleKey)

namespace Layout

/-- The layout at the beginning of a text. -/
def start (cs : List Char) : Layout := ⟨.start cs, #[], [], true, none, []⟩

/-- Whether the place is inside brackets. -/
def inFlow (s : Layout) : Bool := !s.outer.isEmpty

/-- The layout with one token more. -/
def push (t : Token) (s : Layout) : Layout := { s with tokens := s.tokens.push t }

/-- The layout behind a token of one character. -/
def pass (t : Token) (s : Layout) : Layout := { s.push t with cursor := s.cursor.next }

/-- The least column of the lines that belong to the innermost collection. -/
def leastColumn (s : Layout) : Nat := (s.indents.head?.map (· + 1)).getD 0

/-! ## Indentation -/

/-- Opens a collection at a column that is deeper than that of the innermost collection; its token
takes the place `place`. -/
def openAt (column place : Nat) (t : Token) (s : Layout) : Layout :=
  if s.inFlow || s.indents.head?.any (column ≤ ·) then s
  else { s with indents := column :: s.indents, tokens := s.tokens.insertIdxIfInBounds place t }

/-- Closes the collections deeper than a column, or all where there is no column. -/
def close (column : Option Nat) (s : Layout) : Layout :=
  if s.inFlow then s
  else
    let deeper (i : Nat) : Bool := column.all (· < i)
    let closed := s.indents.takeWhile deeper
    { s with
      indents := s.indents.dropWhile deeper
      tokens := s.tokens ++ closed.map fun _ => Token.blockEnd }

/-! ## Keys without a mark -/

/-- Whether a key that starts at `k` can no longer end at the place. -/
def isStale (s : Layout) (k : PossibleKey) : Bool :=
  k.line < s.cursor.line || k.index + 1024 < s.cursor.index

/-- Forgets a possible key if it is stale; a required one must not be. -/
def refresh? (s : Layout) : Option PossibleKey → Option (Option PossibleKey)
  | none => some none
  | some k => if s.isStale k then (if k.required then none else some none) else some (some k)

/-- Forgets all stale keys. -/
def forgetStale? (s : Layout) : Option Layout := do
  return { s with possible := ← s.refresh? s.possible, outer := ← s.outer.mapM s.refresh? }

/-- Forgets the possible key, which must not be required. -/
def forget? (s : Layout) : Option Layout :=
  if s.possible.any (·.required) then none else some { s with possible := none }

/-- Keeps the place as that of a possible key, if a key may start there. -/
def keep? (s : Layout) : Option Layout :=
  if s.keyAllowed then do
    let s ← s.forget?
    let c := s.cursor
    let required := !s.inFlow && s.indents.head? == some c.column
    return { s with possible := some ⟨s.tokens.size, required, c.index, c.line, c.column⟩ }
  else some s

/-! ## Tokens -/

/-- Moves over blanks, comments and line breaks.  Tabs may not indent a line outside brackets, and
a new line may start a key there.  A byte order mark in front of a line is passed like a blank, so
that what follows it stands in a deeper column. -/
def skipBlanks : Nat → Layout → Layout
  | 0, s => s
  | fuel + 1, s =>
    let tabs := s.inFlow || !s.keyAllowed
    let c := s.cursor
    let c := if c.column = 0 ∧ c.rest.head? = some '\ufeff' then c.next else c
    let c := (c.skipWhile fun ch => ch == ' ' || (tabs && ch == '\t')).skipComment
    match c.nextLine? with
    | some (_, c) => skipBlanks fuel { s with cursor := c, keyAllowed := s.keyAllowed || !s.inFlow }
    | none => { s with cursor := c }

/-- The line of a directive. -/
def directive? (s : Layout) : Option Layout := do
  let s ← (s.close none).forget?
  let (t, c) ← Token.directive? s.cursor.next
  return { s.push t with cursor := c, keyAllowed := false }

/-- The beginning or end of a document. -/
def documentMark? (t : Token) (s : Layout) : Option Layout := do
  let s ← (s.close none).forget?
  return { s.push t with cursor := s.cursor.skip 3, keyAllowed := false }

/-- An opening bracket. -/
def openFlow? (t : Token) (s : Layout) : Option Layout := do
  let s ← s.keep?
  return { s.pass t with outer := s.possible :: s.outer, possible := none, keyAllowed := true }

/-- A closing bracket. -/
def closeFlow? (t : Token) (s : Layout) : Option Layout := do
  let s ← s.forget?
  let s := { s.pass t with keyAllowed := false }
  match s.outer with
  | k :: outer => return { s with possible := k, outer := outer }
  | [] => return s

/-- A comma inside brackets. -/
def comma? (s : Layout) : Option Layout := do
  let s ← s.forget?
  return { s.pass .flowEntry with keyAllowed := true }

/-- The hyphen of an entry. -/
def hyphen? (s : Layout) : Option Layout := do
  if !s.inFlow && !s.keyAllowed then none
  else
    let s ← (s.openAt s.cursor.column s.tokens.size .blockSequence).forget?
    return { s.pass .blockEntry with keyAllowed := true }

/-- The question mark of a key. -/
def key? (s : Layout) : Option Layout := do
  if !s.inFlow && !s.keyAllowed then none
  else
    let s ← (s.openAt s.cursor.column s.tokens.size .blockMapping).forget?
    return { s.pass .key with keyAllowed := !s.inFlow }

/-- The colon of a value.  If a key may have started on the way, it did; its mark is put in. -/
def value? (s : Layout) : Option Layout :=
  match s.possible with
  | some k =>
    let s := { s with tokens := s.tokens.insertIdxIfInBounds k.place .key }
    let s := s.openAt k.column k.place .blockMapping
    some { s.pass .value with possible := none, keyAllowed := false }
  | none =>
    if !s.inFlow && !s.keyAllowed then none
    else
      let s := s.openAt s.cursor.column s.tokens.size .blockMapping
      some { s.pass .value with keyAllowed := !s.inFlow }

/-- A token that may start a key, with the place behind it. -/
def keyPart? (read : Option (Token × Cursor)) (s : Layout) : Option Layout := do
  let s ← s.keep?
  let (t, c) ← read
  return { s.push t with cursor := c, keyAllowed := false }

/-- A block scalar. -/
def block? (folded : Bool) (s : Layout) : Option Layout := do
  let s ← s.forget?
  let (text, c) ← Scalar.block? folded s.indents.head? s.cursor.next
  return { s.push (.scalar false text) with cursor := c, keyAllowed := true }

/-- A plain scalar.  Behind it a key may start only if its reading ended in a later line. -/
def plain? (s : Layout) : Option Layout := do
  let s ← s.keep?
  let (text, broken, c) ← Scalar.plain? s.inFlow s.leastColumn s.cursor
  return { s.push (.scalar true text) with cursor := c, keyAllowed := broken }

/-- Whether a plain scalar may start with `c`, followed by `rest`. -/
def startsPlain (inFlow : Bool) (c : Char) (rest : List Char) : Bool :=
  if c = '-' then !rest.head?.any isBlank
  else if c = '?' ∨ c = ':' then !inFlow && !atSeparator rest
  else
    !isSeparator c && !isFlowIndicator c &&
      !(c ∈ ['#', '&', '*', '!', '|', '>', '\'', '"', '%', '@', '\x60'])

/-- The layout behind the token that starts with `c`, followed by `rest`. -/
def token? (s : Layout) (c : Char) (rest : List Char) : Option Layout :=
  let behind := s.cursor.next
  let scalar (r : Option (String × Cursor)) : Option (Token × Cursor) :=
    r.map fun (t, c) => (.scalar false t, c)
  if s.cursor.column = 0 ∧ c = '%' then s.directive?
  else if s.cursor.atDocumentMark then
    s.documentMark? (if c = '-' then .documentStart else .documentEnd)
  else if c = '[' then s.openFlow? .flowSequence
  else if c = '\x7b' then s.openFlow? .flowMapping
  else if c = ']' then s.closeFlow? .flowSequenceEnd
  else if c = '\x7d' then s.closeFlow? .flowMappingEnd
  else if c = ',' then s.comma?
  else if c = '-' ∧ atSeparator rest then s.hyphen?
  else if c = '?' ∧ (s.inFlow ∨ atSeparator rest) then s.key?
  else if c = ':' ∧ (s.inFlow ∨ atSeparator rest) then s.value?
  else if c = '*' then s.keyPart? ((Token.name? behind).map fun (n, c) => (.alias n, c))
  else if c = '&' then s.keyPart? ((Token.name? behind).map fun (n, c) => (.anchor n, c))
  else if c = '!' then s.keyPart? ((Token.tag? s.inFlow s.cursor).map fun (t, c) => (.tag t, c))
  else if c = '|' ∧ !s.inFlow then s.block? false
  else if c = '>' ∧ !s.inFlow then s.block? true
  else if c = '\'' then s.keyPart? (scalar (Scalar.singleQuoted? behind))
  else if c = '"' then s.keyPart? (scalar (Scalar.doubleQuoted? behind))
  else if startsPlain s.inFlow c rest then s.plain?
  else none

/-- The tokens of a text from the layout at some place on; `fuel` bounds the number of steps. -/
def run? : Nat → Layout → Option (Array Token)
  | 0, _ => none
  | fuel + 1, s => do
    let s := s.skipBlanks (s.cursor.left + 1)
    let s ← s.forgetStale?
    let s := s.close (some s.cursor.column)
    match s.cursor.rest with
    | [] => return (← (s.close none).forget?).tokens
    | c :: rest => run? fuel (← s.token? c rest)

end Layout

/-- The tokens of a text; nothing if it has characters that no text may hold or cannot be divided.
-/
def tokens? (text : String) : Option (List Token) :=
  let cs := text.toList
  if !cs.all isAllowed then none
  else (Layout.run? (cs.length + 1) (.start cs)).map Array.toList

end Phrasebook.Yaml
