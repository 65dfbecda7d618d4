import Phrasebook.Address
import Phrasebook.Value

/-!
# Trees of keys

The texts of a project form a tree.  Its inner nodes are groups, which only give a name to what
is inside them.  Every other node is an `Entry`: a single text, a list of texts, or a list of
records whose fields are texts.

* `Tree.entries` lists the entries in depth-first order, which is the order of generated code.
* `Tree.languages` lists every language that appears anywhere in the tree.
-/

namespace Phrasebook

/-- An element of a list of records: its fields with their texts, in order. -/
structure Record where
  /-- The fields, in order. -/
  fields : List (String × Value)
  deriving DecidableEq

namespace Record

/-- The text of the field called `name`, the first of that name if there are several. -/
def get? (r : Record) (name : String) : Option Value := r.fields.lookup name

end Record

/-- What a node that is not a group holds. -/
inductive Content where
  /-- A single text. -/
  | text (value : Value)
  /-- A list of texts. -/
  | list (values : List Value)
  /-- A list of records. -/
  | records (records : List Record)
  deriving DecidableEq

namespace Content

/-- The values of an entry, in order. -/
def values : Content → List Value
  | text v => [v]
  | list vs => vs
  | records rs => rs.flatMap fun r => r.fields.map (·.2)

end Content

/-- A node that is not a group. -/
structure Entry where
  /-- Where the node stands. -/
  address : Address
  /-- What it holds. -/
  content : Content
  deriving DecidableEq

/-- A node of a tree. -/
inductive Node where
  /-- A node that holds texts. -/
  | entry (e : Entry)
  /-- A group of nodes. -/
  | group (address : Address) (children : List Node)

namespace Node

/-- Where the node stands. -/
def address : Node → Address
  | entry e => e.address
  | group a _ => a

mutual

/-- The entries at and below a node, in depth-first order. -/
def entries : Node → List Entry
  | entry e => [e]
  | group _ children => entriesOf children

/-- The entries at and below some nodes, in depth-first order. -/
def entriesOf : List Node → List Entry
  | [] => []
  | n :: rest => n.entries ++ entriesOf rest

end

mutual

/-- The node and all nodes below it, in depth-first order. -/
def preorder : Node → List Node
  | entry e => [entry e]
  | group a children => group a children :: preorderOf children

/-- Some nodes and all nodes below them, in depth-first order. -/
def preorderOf : List Node → List Node
  | [] => []
  | n :: rest => n.preorder ++ preorderOf rest

end

end Node

/-- All texts of a project. -/
structure Tree where
  /-- The language the default texts are written in. -/
  defaultLanguage : String
  /-- The nodes at the root, in order. -/
  nodes : List Node

namespace Tree

/-- The tree without nodes. -/
def empty (defaultLanguage : String) : Tree := ⟨defaultLanguage, []⟩

/-- Whether the tree has no nodes. -/
def isEmpty (t : Tree) : Bool := t.nodes.isEmpty

/-- The entries of the tree, in depth-first order. -/
def entries (t : Tree) : List Entry := Node.entriesOf t.nodes

/-- All values of the tree, in order. -/
def values (t : Tree) : List Value := t.entries.flatMap fun e => e.content.values

/-- The default language and the languages of all translations, in strictly increasing order. -/
def languages (t : Tree) : List String :=
  (SortedMap.ofList
    ((t.defaultLanguage :: t.values.flatMap fun v => v.overrides.keys).map fun l => (l, ()))).keys

end Tree

end Phrasebook
