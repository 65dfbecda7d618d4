import Phrasebook.Yaml.Layout

/-!
# YAML nodes

`document?` reads tokens as a document, which is one `Node`: a scalar, a sequence, a mapping, or an
alias of a node that was given a name before.  A missing node counts as an empty plain scalar.

Names are replaced by *slots* on the way.  An anchor takes the slot whose number is that of the
names known before it, and a name means the slot of its latest anchor.  So a name that is given a
second time takes a new slot, and the next new name takes that slot over.
-/

namespace Phrasebook.Yaml

/-- What is written in front of a node. -/
structure Properties where
  /-- The slot that its anchor takes. -/
  slot : Option Nat
  /-- Its tag. -/
  tag : Option Tag
  deriving DecidableEq, Repr

/-- A node of a document. -/
inductive Node where
  /-- What stands in a slot. -/
  | alias (slot : Nat)
  /-- A scalar, and whether it is plain. -/
  | scalar (properties : Properties) (plain : Bool) (text : String)
  /-- A sequence. -/
  | sequence (properties : Properties) (items : List Node)
  /-- A mapping, as its keys and values in order. -/
  | mapping (properties : Properties) (entries : List (Node × Node))

namespace Node

/-- The node that stands where nothing is written. -/
def missing : Node := scalar ⟨none, none⟩ true ""

/-! ## Reading nodes -/

/-- What is known when tokens have been read up to some place. -/
structure Reading where
  /-- The tokens ahead. -/
  tokens : List Token
  /-- What the handles stand for. -/
  handles : List (String × Tag)
  /-- The slots of the names known so far. -/
  names : List (String × Nat)

/-- A reader of tokens. -/
abbrev Reader := StateT Reading Option

namespace Reader

/-- The token ahead. -/
def peek : Reader (Option Token) := return (← get).tokens.head?

/-- Passes the token ahead. -/
def pass : Reader Unit := modify fun r => { r with tokens := r.tokens.drop 1 }

/-- Whether one of `ts` is ahead, or nothing is. -/
def atAny (ts : List Token) : Reader Bool := return (← peek).all (· ∈ ts)

/-- Passes the token `t`, if it is ahead, and tells whether it was. -/
def passIf (t : Token) : Reader Bool := do
  if (← peek) == some t then
    pass
    return true
  else return false

/-- Passes the token `t`, which must be ahead. -/
def expect (t : Token) : Reader Unit := do
  if !(← passIf t) then failure

/-- Gives a name to the node ahead, and tells the slot. -/
def takeSlot (name : String) : Reader Nat := do
  let r ← get
  let slot := r.names.length
  set { r with names := (name, slot) :: r.names.filter (·.1 != name) }
  return slot

/-- The tag that a name stands for. -/
def resolve (t : TagName) : Reader Tag := do
  if t.handle.isEmpty then return t.suffix
  else
    match (← get).handles.lookup t.handle with
    | some leading => return leading ++ t.suffix
    | none => failure

/-- Reads an anchor, if there is one. -/
def anchor : Reader (Option Nat) := do
  match ← peek with
  | some (.anchor name) =>
    pass
    return some (← takeSlot name)
  | _ => return none

/-- Reads a tag, if there is one. -/
def tag : Reader (Option Tag) := do
  match ← peek with
  | some (.tag name) =>
    pass
    return some (← resolve name)
  | _ => return none

/-- Reads an anchor and a tag in either order. -/
def properties : Reader Properties := do
  match ← anchor with
  | some slot => return ⟨some slot, ← tag⟩
  | none =>
    let tag ← tag
    return ⟨← anchor, tag⟩

/-- The node that has an anchor or a tag and nothing else. -/
def bare (p : Properties) : Reader Node :=
  if p.slot.isSome || p.tag.isSome then return .scalar p true "" else failure

mutual

/-- Reads a node.  Collections without brackets are allowed if `block` is true, and a sequence
whose hyphens are not indented if `flat` is. -/
def node (block flat : Bool) : Nat → Reader Node
  | 0 => failure
  | fuel + 1 => do
    match ← peek with
    | some (.alias name) =>
      pass
      match (← get).names.lookup name with
      | some slot => return .alias slot
      | none => failure
    | _ =>
      let p ← properties
      match ← peek with
      | some .blockEntry =>
        if flat then return .sequence p (← flatEntries fuel [])
        else bare p
      | some (.scalar plain text) =>
        pass
        return .scalar p plain text
      | some .flowSequence =>
        pass
        return .sequence p (← flowEntries true fuel [])
      | some .flowMapping =>
        pass
        return .mapping p (← flowMembers true fuel [])
      | some .blockSequence =>
        if block then
          pass
          return .sequence p (← blockEntries fuel [])
        else bare p
      | some .blockMapping =>
        if block then
          pass
          return .mapping p (← blockMembers fuel [])
        else bare p
      | _ => bare p

/-- Reads a node unless one of `ts` is ahead. -/
def nodeUnless (ts : List Token) (block flat : Bool) : Nat → Reader Node
  | 0 => failure
  | fuel + 1 => do
    match ← peek with
    | some t => if t ∈ ts then return missing else node block flat fuel
    | none => node block flat fuel

/-- Reads the entries of an indented sequence; `read` holds those before, last one first. -/
def blockEntries : Nat → List Node → Reader (List Node)
  | 0, _ => failure
  | fuel + 1, read => do
    if ← passIf .blockEntry then
      let n ← nodeUnless [.blockEntry, .blockEnd] true false fuel
      blockEntries fuel (n :: read)
    else
      expect .blockEnd
      return read.reverse

/-- Reads the entries of a sequence whose hyphens are not indented. -/
def flatEntries : Nat → List Node → Reader (List Node)
  | 0, _ => failure
  | fuel + 1, read => do
    if ← passIf .blockEntry then
      let n ← nodeUnless [.blockEntry, .key, .value, .blockEnd] true false fuel
      flatEntries fuel (n :: read)
    else return read.reverse

/-- Reads the members of an indented mapping. -/
def blockMembers : Nat → List (Node × Node) → Reader (List (Node × Node))
  | 0, _ => failure
  | fuel + 1, read => do
    if ← passIf .key then
      let k ← nodeUnless [.key, .value, .blockEnd] true true fuel
      let v ← if ← passIf .value then nodeUnless [.key, .value, .blockEnd] true true fuel
        else pure missing
      blockMembers fuel ((k, v) :: read)
    else
      expect .blockEnd
      return read.reverse

/-- Reads the entries of a sequence in brackets.  A key and its value are a mapping of their own. -/
def flowEntries (first : Bool) : Nat → List Node → Reader (List Node)
  | 0, _ => failure
  | fuel + 1, read => do
    if ← passIf .flowSequenceEnd then return read.reverse
    else
      if !first then expect .flowEntry
      if ← passIf .key then
        let k ← flowPairKey fuel
        let v ← if ← passIf .value then
            nodeUnless [.flowEntry, .flowSequenceEnd] false false fuel
          else pure missing
        flowEntries false fuel (.mapping ⟨none, none⟩ [(k, v)] :: read)
      else if ← passIf .flowSequenceEnd then return read.reverse
      else
        let n ← node false false fuel
        flowEntries false fuel (n :: read)

/-- Reads the key of a mapping that is an entry of a sequence in brackets.  Where there is none,
the token that follows is passed in its place. -/
def flowPairKey : Nat → Reader Node
  | 0 => failure
  | fuel + 1 => do
    match ← peek with
    | some t =>
      if t ∈ [.value, .flowEntry, .flowSequenceEnd] then
        pass
        return missing
      else node false false fuel
    | none => node false false fuel

/-- Reads the members of a mapping in braces. -/
def flowMembers (first : Bool) : Nat → List (Node × Node) → Reader (List (Node × Node))
  | 0, _ => failure
  | fuel + 1, read => do
    if ← passIf .flowMappingEnd then return read.reverse
    else
      if !first then expect .flowEntry
      if ← passIf .key then
        let k ← nodeUnless [.value, .flowEntry, .flowMappingEnd] false false fuel
        let v ← if ← passIf .value then
            nodeUnless [.flowEntry, .flowMappingEnd] false false fuel
          else pure missing
        flowMembers false fuel ((k, v) :: read)
      else if ← passIf .flowMappingEnd then return read.reverse
      else
        let k ← node false false fuel
        flowMembers false fuel ((k, missing) :: read)

end

/-! ## Reading documents -/

/-- Whether a directive is ahead. -/
def atDirective : Reader Bool := do
  match ← peek with
  | some (.version ..) => return true
  | some (.shorthand ..) => return true
  | _ => return false

/-- Reads the directives in front of a document, each of which is given once. -/
def directives : Nat → Bool → Reader Unit
  | 0, _ => failure
  | fuel + 1, versioned => do
    match ← peek with
    | some (.version major minor) =>
      if versioned || major != 1 || (minor != 1 && minor != 2) then failure
      pass
      directives fuel true
    | some (.shorthand name leading) =>
      let r ← get
      if (r.handles.lookup name).isSome then failure
      set { r with handles := r.handles ++ [(name, leading)] }
      pass
      directives fuel versioned
    | _ => return ()

/-- What the handles stand for that no directive needs to give. -/
def defaultHandles : List (String × Tag) :=
  [("!", octets ['!']), ("!!", "tag:yaml.org,2002:".toUTF8.toList)]

/-- Passes all marks of the end of a document. -/
def documentEnds : Nat → Reader Unit
  | 0 => failure
  | fuel + 1 => do
    if ← passIf .documentEnd then documentEnds fuel

/-- Reads the only document, up to the end of the tokens.  Directives need the mark of the
beginning behind them. -/
def document (fuel : Nat) : Reader Node := do
  let directed ← atDirective
  directives fuel false
  modify fun r => { r with handles := r.handles ++ defaultHandles }
  let started ← passIf .documentStart
  if directed && !started then failure
  let n ←
    if started && (← atAny [.documentStart, .documentEnd]) then pure missing
    else node true false (3 * fuel + 3)
  documentEnds (fuel + 1)
  if (← peek).isSome then failure
  return n

end Reader

end Node

/-- The document that tokens stand for; without tokens, the missing node. -/
def document? (tokens : List Token) : Option Node :=
  if tokens.isEmpty then some .missing
  else (Node.Reader.document tokens.length ⟨tokens, [], []⟩).map (·.1)

end Phrasebook.Yaml
