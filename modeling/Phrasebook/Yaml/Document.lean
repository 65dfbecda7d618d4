import Phrasebook.Unicode.WhiteSpace
import Phrasebook.Yaml.Core

/-!
# YAML documents as values

`Yaml.parse?` reads a text that holds one YAML document, or none, as a `Json` value.

* A key of a mapping is the text of its scalar, whatever its style and tag; a later key takes the
  place of an earlier one of the same text.
* An alias has the value of the last node that took its slot.
* At most 128 collections may be inside one another, also by way of aliases, and no more than a
  hundred aliases may be followed for each part of the document (`Node.weight`), so that a short
  text cannot stand for an enormous value.
-/

namespace Phrasebook.Yaml

namespace Node

mutual

/-- The number of scalars and aliases in a node, and of the beginnings and ends of collections. -/
def weight : Node → Nat
  | .alias _ => 1
  | .scalar .. => 1
  | .sequence _ items => weightOfList items + 2
  | .mapping _ entries => weightOfEntries entries + 2

/-- The weight of nodes together. -/
def weightOfList : List Node → Nat
  | [] => 0
  | n :: rest => weight n + weightOfList rest

/-- The weight of keys and values together. -/
def weightOfEntries : List (Node × Node) → Nat
  | [] => 0
  | (k, v) :: rest => weight k + weight v + weightOfEntries rest

end

/-- What is written in front of a node. -/
def properties : Node → Properties
  | .alias _ => ⟨none, none⟩
  | .scalar p .. => p
  | .sequence p _ => p
  | .mapping p _ => p

/-- The slot that a node takes, with the node. -/
def ownSlot (n : Node) : List (Nat × Node) := (n.properties.slot.map (·, n)).toList

mutual

/-- The slots that a node and the nodes in it take, in the order of the text. -/
def slots : Node → List (Nat × Node)
  | .alias _ => []
  | .scalar p plain text => ownSlot (.scalar p plain text)
  | .sequence p items => ownSlot (.sequence p items) ++ slotsOfList items
  | .mapping p entries => ownSlot (.mapping p entries) ++ slotsOfEntries entries

/-- The slots that nodes take. -/
def slotsOfList : List Node → List (Nat × Node)
  | [] => []
  | n :: rest => slots n ++ slotsOfList rest

/-- The slots that keys and values take. -/
def slotsOfEntries : List (Node × Node) → List (Nat × Node)
  | [] => []
  | (k, v) :: rest => slots k ++ slots v ++ slotsOfEntries rest

end

/-! ## Values -/

/-- A reader of values, which keeps how many aliases may still be followed. -/
abbrev Valuation := StateT Nat Option

/-- The node that `n` stands for: `n` itself, or what is in the slot it names. -/
def deref (table : List (Nat × Node)) : Node → Valuation Node
  | .alias slot => do
    match ← get with
    | 0 => failure
    | left + 1 =>
      set left
      match table.lookup slot with
      | some n => return n
      | none => failure
  | n => return n

/-- The text of a key. -/
def keyText (table : List (Nat × Node)) (k : Node) : Valuation String := do
  match ← deref table k with
  | .scalar _ _ text => return text
  | _ => failure

/-- Refuses a collection with a tag that nothing is known about. -/
def checkTag (p : Properties) : Valuation Unit := do
  if p.tag.any Core.isLocal then failure

/-- The value of a node, in which `depth` more collections may be inside one another. -/
def value (table : List (Nat × Node)) : Nat → Node → Valuation Json
  | 0, n => do
    match ← deref table n with
    | .scalar p plain text => Core.scalar? p.tag plain text
    | _ => failure
  | depth + 1, n => do
    match ← deref table n with
    | .scalar p plain text => Core.scalar? p.tag plain text
    | .sequence p items =>
      checkTag p
      return .array (← items.mapM (value table depth))
    | .mapping p entries =>
      checkTag p
      return .ofMembers (← entries.mapM fun (k, v) => do
        return (← keyText table k, ← value table depth v))
    | .alias _ => failure

/-- The value of a document. -/
def toJson? (n : Node) : Option Json := (value n.slots.reverse 128 n (100 * n.weight)).map (·.1)

end Node

/-- Reads a YAML text.  A text of white space has the null value, as has one without a document. -/
def parse? (text : String) : Option Json := do
  if Unicode.isBlank text then return .null
  else (← document? (← tokens? text)).toJson?

end Phrasebook.Yaml
