import Phrasebook.Json.Basic
import Phrasebook.LanguageTag
import Phrasebook.Tree

/-!
# The shape of documents

A document writes a tree as mappings, lists and texts, and what a mapping stands for depends on
what is in it:

* a *leaf mapping* has a text for each language, and perhaps the number of arguments under
  `arguments`; it names the default language or `arguments` (`isLeaf`);
* any other mapping is a group, or, inside a list, a record;
* a list of texts and leaf mappings is a list, a list of other mappings a list of records.

`Tree.ofDocument` reads a document.  It fails at the first value, in depth-first order, that has
none of these shapes; a `ShapeError` says where that is and what is wrong there.
-/

namespace Phrasebook

/-- What is wrong with a value of a document. -/
inductive ShapeFault where
  /-- The document is no mapping but `found`. -/
  | rootNotMapping (found : String)
  /-- A node is `found`. -/
  | notLocalizable (found : String)
  /-- The number of arguments is `found`. -/
  | notArgumentCount (found : String)
  /-- A leaf mapping has the entry `name` beside its text in the language `default`. -/
  | notLanguageTag (name default : String)
  /-- A list holds neither texts alone nor mappings alone. -/
  | mixedList
  /-- A field of a record is `found`. -/
  | fieldNotText (found : String)
  deriving DecidableEq, Repr

/-- The entry of a leaf mapping that holds the number of arguments. -/
def argumentsEntry : String := "arguments"

namespace ShapeFault

/-- The wording of a fault. -/
def message : ShapeFault → String
  | rootNotMapping found => s!"expected a mapping, found {found}"
  | notLocalizable found => s!"{found} is not localizable"
  | notArgumentCount found => s!"`{argumentsEntry}` must be a non-negative integer, found {found}"
  | notLanguageTag name default => s!"`{name}` next to the `{default}` text is not a language tag"
  | mixedList => "list elements must all be strings or all be objects"
  | fieldNotText found => s!"object list fields must be texts, found {found}"

end ShapeFault

/-- Why a document is refused. -/
inductive ShapeError where
  /-- The value at `key` has no shape that stands for anything. -/
  | unknownShape (key : String) (fault : ShapeFault)
  /-- The leaf mapping at `key` has no text in the default language. -/
  | missingDefault (key : String)
  deriving DecidableEq, Repr

namespace ShapeError

/-- Where the document is at fault. -/
def key : ShapeError → String
  | unknownShape key _ => key
  | missingDefault key => key

/-- The wording of an error. -/
def message : ShapeError → String
  | unknownShape key fault => s!"unknown node shape at `{key}`: {fault.message}"
  | missingDefault key => s!"missing default translation for `{key}`"

end ShapeError

namespace Shape

/-! ## Leaf mappings -/

/-- Whether an entry may stand in a leaf mapping: a text, or a scalar under `arguments`. -/
def isLeafEntry (m : String × Json) : Bool :=
  m.2.isString || (m.1 == argumentsEntry && !m.2.isObject && !m.2.isArray)

/-- Whether a mapping is a leaf mapping. -/
def isLeaf (default : String) (members : List (String × Json)) : Bool :=
  members.all isLeafEntry &&
    ((members.lookup default).isSome || (members.lookup argumentsEntry).isSome)

/-- The number of arguments that a leaf mapping declares, if it declares one. -/
def declaredCount? (key : String) (members : List (String × Json)) :
    Except ShapeError (Option UInt64) :=
  match members.lookup argumentsEntry with
  | none => .ok none
  | some j =>
    match j.natural? with
    | some n => .ok (some n)
    | none => .error (.unknownShape key (.notArgumentCount j.kindName))

/-- The value `v` with the translations among the entries of a leaf mapping. -/
def addTranslations (default key : String) (v : Value) :
    List (String × Json) → Except ShapeError Value
  | [] => .ok v
  | (name, j) :: rest =>
    if name = default ∨ name = argumentsEntry then addTranslations default key v rest
    else if LanguageTag.isCanonical name then
      match j with
      | .string text => addTranslations default key (v.setOverride name text) rest
      | _ => addTranslations default key v rest
    else .error (.unknownShape key (.notLanguageTag name default))

/-- The value of the leaf mapping at `key`. -/
def leaf (default key : String) (members : List (String × Json)) : Except ShapeError Value :=
  match members.lookup default with
  | some (.string text) => do
    let declared ← declaredCount? key members
    let v := Value.ofText text
    addTranslations default key ((declared.map v.withArgumentCount).getD v) members
  | _ => .error (.missingDefault key)

/-! ## Lists -/

/-- Whether a value can be an element of a list of texts. -/
def isElement (default : String) : Json → Bool
  | .string _ => true
  | .object members => isLeaf default members
  | _ => false

/-- The value of a text or leaf mapping at `key`; `fault` says what anything else is. -/
def value (default key : String) (fault : String → ShapeFault) (j : Json) :
    Except ShapeError Value :=
  match j with
  | .string text => .ok (.ofText text)
  | .object members =>
    if isLeaf default members then leaf default key members
    else .error (.unknownShape key (fault j.kindName))
  | j => .error (.unknownShape key (fault j.kindName))

/-- The values of the elements of the list at `key`, from the place `i` on. -/
def elements (default key : String) (i : Nat) : List Json → Except ShapeError (List Value)
  | [] => .ok []
  | j :: rest => do
    let v ← value default (elementKey key i) .notLocalizable j
    return v :: (← elements default key (i + 1) rest)

/-- The fields of the record at `key`. -/
def fields (default key : String) :
    List (String × Json) → Except ShapeError (List (String × Value))
  | [] => .ok []
  | (name, j) :: rest => do
    let v ← value default (key ++ "." ++ name) .fieldNotText j
    return (name, v) :: (← fields default key rest)

/-- The records of the list at `key`, from the place `i` on. -/
def records (default key : String) (i : Nat) : List Json → Except ShapeError (List Record)
  | [] => .ok []
  | .object members :: rest => do
    let fs ← fields default (elementKey key i) members
    return ⟨fs⟩ :: (← records default key (i + 1) rest)
  | _ :: _ => .error (.unknownShape key .mixedList)

/-- What the list at `key` holds. -/
def list (default key : String) (items : List Json) : Except ShapeError Content :=
  if items.all (isElement default) then return .list (← elements default key 0 items)
  else if items.all Json.isObject then return .records (← records default key 0 items)
  else .error (.unknownShape key .mixedList)

/-! ## Nodes -/

mutual

/-- The node at `a` that a value of the document stands for. -/
def node (default : String) (a : Address) : Json → Except ShapeError Node
  | .string text => .ok (.entry ⟨a, .text (.ofText text)⟩)
  | .array items => do return .entry ⟨a, ← list default a.key items⟩
  | .object members =>
    if isLeaf default members then do return .entry ⟨a, .text (← leaf default a.key members)⟩
    else do return .group a (← children default a.childPath members)
  | j => .error (.unknownShape a.key (.notLocalizable j.kindName))
termination_by structural j => j

/-- The nodes below `path` that the members of a mapping stand for. -/
def children (default : String) (path : List String) :
    List (String × Json) → Except ShapeError (List Node)
  | [] => .ok []
  | (name, j) :: rest => do
    let n ← node default ⟨path, name⟩ j
    return n :: (← children default path rest)
termination_by structural members => members

end

end Shape

/-- The tree that a document stands for, its texts written in the language `default`.  The null
value stands for a tree without nodes. -/
def Tree.ofDocument (default : String) : Json → Except ShapeError Tree
  | .object members => do return ⟨default, ← Shape.children default [] members⟩
  | .null => .ok (.empty default)
  | j => .error (.unknownShape "<root>" (.rootNotMapping j.kindName))

end Phrasebook
