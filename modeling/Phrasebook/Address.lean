/-!
# Addresses of keys

A text lives somewhere in a hierarchy of groups.  Its `Address` is the list of the groups around
it, outermost first, and its own name; the `key` of an address joins them all with dots, and is
what a text is looked up by at run time.

* `joinKey path name` is the key of `name` below `path`.
* `elementKey` and `fieldKey` are the keys of the texts inside a list.
* `Address.childPath` is the path of everything inside the group at an address.
-/

namespace Phrasebook

/-- The key of `name` below `path`: all of them joined by dots. -/
def joinKey (path : List String) (name : String) : String := ".".intercalate (path ++ [name])

/-! ## Lookup keys inside lists -/

/-- The key of the element `index` of the list at `key`. -/
def elementKey (key : String) (index : Nat) : String := key ++ "." ++ toString index

/-- The key of a field of the record `index` in the list at `key`. -/
def fieldKey (key : String) (index : Nat) (field : String) : String :=
  elementKey key index ++ "." ++ field

/-- The key that stands for a field in all records of the list at `key`. -/
def fieldPattern (key field : String) : String := key ++ ".$index." ++ field

/-! ## Addresses -/

/-- The place of a node: the groups around it, outermost first, and its name. -/
structure Address where
  /-- The names of the groups around the node, outermost first. -/
  path : List String
  /-- The name of the node itself. -/
  name : String
  deriving DecidableEq, Repr, Inhabited

namespace Address

/-- The names that lead to the node. -/
def segments (a : Address) : List String := a.path ++ [a.name]

/-- The key the node is looked up by. -/
def key (a : Address) : String := joinKey a.path a.name

/-- The path of the nodes inside the group at `a`. -/
def childPath (a : Address) : List String := a.segments

/-- The node called `name` inside the group at `a`. -/
def child (a : Address) (name : String) : Address := ⟨a.childPath, name⟩

end Address

end Phrasebook
