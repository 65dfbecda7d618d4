import Phrasebook.Json.Number

/-!
# Documents as values

The decoded form of a JSON or YAML text: `Json`.  An object is the list of its members in the
order of the text, because that is the order accessors are generated in.

* `Json.setMember` adds a member; one that is there already keeps its place and takes the new
  value.
* `Json.member?` looks a member up.
* `Json.kindName` is how messages speak of a value.
-/

namespace Phrasebook

/-- A decoded document. -/
inductive Json where
  /-- The null value. -/
  | null
  /-- A truth value. -/
  | bool (b : Bool)
  /-- A number. -/
  | number (n : JsonNumber)
  /-- A text. -/
  | string (s : String)
  /-- A list. -/
  | array (items : List Json)
  /-- A mapping, as its members in order. -/
  | object (members : List (String × Json))
  deriving Inhabited

namespace Json

/-- The members with `value` under `name`: at the place of an earlier member of that name, or at
the end. -/
def setMember (name : String) (value : Json) :
    List (String × Json) → List (String × Json)
  | [] => [(name, value)]
  | m :: rest => if m.1 = name then (name, value) :: rest else m :: setMember name value rest

/-- The object of these members, of which a later one replaces an earlier one of its name. -/
def ofMembers (members : List (String × Json)) : Json :=
  object (members.foldl (fun ms m => setMember m.1 m.2 ms) [])

/-- The value of the member `name`, for an object that has one. -/
def member? (j : Json) (name : String) : Option Json :=
  match j with
  | object members => members.lookup name
  | _ => none

/-- Whether the value is a text. -/
def isString : Json → Bool
  | string _ => true
  | _ => false

/-- Whether the value is a mapping. -/
def isObject : Json → Bool
  | object _ => true
  | _ => false

/-- Whether the value is a list. -/
def isArray : Json → Bool
  | array _ => true
  | _ => false

/-- How messages speak of a value. -/
def kindName : Json → String
  | null => "null"
  | bool _ => "a boolean"
  | number _ => "a number"
  | string _ => "a string"
  | array _ => "a list"
  | object _ => "a mapping"

/-- The natural number of 64 bits a value is, if it is one. -/
def natural? : Json → Option UInt64
  | number (.natural n) => some n
  | _ => none

end Json

end Phrasebook
