import Phrasebook.Serial.Fields
import Phrasebook.Tree

/-!
# Trees as documents

The serialized form of values and trees, written by `toJson` and read by `ofJson?`.  What is
written leaves out an empty path and an empty set of translations; what is read may leave out the
number of arguments too, and the nodes of a tree.
-/

namespace Phrasebook

open Serial

namespace Value

/-- The serialized form of a value. -/
def toJson (v : Value) : Json :=
  .object ([("default_text", .string v.defaultText),
      ("argument_count", .number (.natural v.argumentCount))] ++
    if v.overrides.isEmpty then []
    else [("overrides", .object (v.overrides.toList.map fun e => (e.1, .string e.2)))])

/-- Reads a value. -/
def ofJson? (j : Json) : Option Value := do
  let [text, count, overrides] ← fields? ["default_text", "argument_count", "overrides"] j | none
  return ⟨← required string? text, ← orDefault 0 Json.natural? count,
    SortedMap.ofList (← orDefault [] (membersOf? string?) overrides)⟩

end Value

namespace Record

/-- The serialized form of a field. -/
def fieldToJson (f : String × Value) : Json := .array [.string f.1, f.2.toJson]

/-- Reads a field. -/
def fieldOfJson? : Json → Option (String × Value)
  | .array [.string name, v] => (Value.ofJson? v).map (name, ·)
  | _ => none

/-- The serialized form of a record. -/
def toJson (r : Record) : Json := .object [("fields", .array (r.fields.map fieldToJson))]

/-- Reads a record. -/
def ofJson? (j : Json) : Option Record := do
  let [fields] ← fields? ["fields"] j | none
  return ⟨← required (listOf? fieldOfJson?) fields⟩

end Record

namespace Content

/-- The serialized form of what an entry holds: the name of its kind, with its texts. -/
def toJson : Content → String × Json
  | text v => ("leaf", v.toJson)
  | list vs => ("list", .array (vs.map Value.toJson))
  | records rs => ("object_list", .array (rs.map Record.toJson))

/-- Reads what an entry of the kind `kind` holds. -/
def ofJson? (kind : String) (body : Json) : Option Content :=
  if kind = "leaf" then (Value.ofJson? body).map text
  else if kind = "list" then (listOf? Value.ofJson? body).map list
  else if kind = "object_list" then (listOf? Record.ofJson? body).map records
  else none

end Content

namespace Address

/-- The serialized form of a node at `a` with the body `kind`. -/
def nodeJson (a : Address) (kind : String × Json) : Json :=
  .object ((if a.path.isEmpty then [] else [("path", .array (a.path.map .string))]) ++
    [("name", .string a.name), ("kind", .object [kind])])

/-- Reads the address of a node from its fields. -/
def ofFields? (path name : Option Json) : Option Address :=
  return ⟨← orDefault [] (listOf? string?) path, ← required string? name⟩

end Address

namespace Node

mutual

/-- The serialized form of a node. -/
def toJson : Node → Json
  | entry e => e.address.nodeJson e.content.toJson
  | group a children => a.nodeJson ("group", .array (listToJson children))

/-- The serialized forms of some nodes. -/
def listToJson : List Node → List Json
  | [] => []
  | n :: rest => n.toJson :: listToJson rest

end

mutual

/-- Reads a node. -/
def ofJson? (j : Json) : Option Node :=
  match h : fields? ["path", "name", "kind"] j with
  | some [path, name, some (.object [(kind, body)])] =>
    match Address.ofFields? path name with
    | none => none
    | some a =>
      if kind = "group" then
        match body with
        | .array items =>
          have : sizeOf items < sizeOf j := by
            have := sizeOf_lt_of_fields? h (List.mem_cons_of_mem _ (List.mem_cons_of_mem _
              List.mem_cons_self))
            simp only [Json.object.sizeOf_spec, List.cons.sizeOf_spec, Prod.mk.sizeOf_spec,
              Json.array.sizeOf_spec] at this
            omega
          (listOfJson? items).map (group a)
        | _ => none
      else (Content.ofJson? kind body).map fun c => entry ⟨a, c⟩
  | _ => none
termination_by sizeOf j

/-- Reads some nodes. -/
def listOfJson? : List Json → Option (List Node)
  | [] => some []
  | j :: rest =>
    match ofJson? j with
    | none => none
    | some n => (listOfJson? rest).map (n :: ·)
termination_by items => sizeOf items

end

end Node

namespace Tree

/-- The serialized form of a tree. -/
def toJson (t : Tree) : Json :=
  .object [("default_language", .string t.defaultLanguage),
    ("nodes", .array (Node.listToJson t.nodes))]

/-- Reads the nodes of a tree. -/
def nodesOfJson? : Json → Option (List Node)
  | .array items => Node.listOfJson? items
  | _ => none

/-- Reads a tree. -/
def ofJson? (j : Json) : Option Tree := do
  let [language, nodes] ← fields? ["default_language", "nodes"] j | none
  return ⟨← required string? language, ← orDefault [] nodesOfJson? nodes⟩

end Tree

end Phrasebook
