import Phrasebook.KeyError
import Phrasebook.Naming
import Phrasebook.Tree

/-!
# The plan of a tree

Every output is made from the same list of `Step`s: file a text in the table of a language,
declare an accessor, finish.  `Tree.plan` makes that list in one depth-first pass and leaves out
the keys that cannot be served, each with its errors.

The unit of the plan is the `Block`: the texts behind one accessor, and the accessor.  A leaf is
one block, a list is one block, and each field of a list of records is one.  A block is carried
out whole or not at all (`Block.visit`): first every text is checked against the number of
arguments of its value, then the names of the accessor are claimed, and only then are the texts
filed and the accessor declared.
-/

namespace Phrasebook

/-- One step in making an output. -/
inductive Step where
  /-- File `text` under `key` in the table of `language`. -/
  | text (key text language : String)
  /-- Declare the accessor of a single text. -/
  | accessor (function : String) (address : Address) (argumentCount : UInt64) (default : String)
  /-- Declare the accessor of a list of texts. -/
  | listAccessor (function : String) (address : Address) (values : List Value)
      (defaultLanguage : String)
  /-- Declare the accessor of one field of a list of records. -/
  | fieldAccessor (field : String) (address : Address) (default : String)
  /-- Close the tables and put them together. -/
  | finish
  deriving DecidableEq

/-! ## Claiming names -/

/-- The names that are taken, each with the key that took it. -/
abbrev Claims := List (String × String)

namespace Claims

/-- The first of `names` that is taken, with the key that took it. -/
def firstTaken? (taken : Claims) (names : List String) : Option (String × String) :=
  names.findSome? fun n => (taken.lookup n).map (n, ·)

/-- Takes all of `names` for `key`, unless one of them is taken. -/
def claim (taken : Claims) (key : String) (names : List String) : Except KeyError Claims :=
  match taken.firstTaken? names with
  | some (name, existing) => .error (.nameTaken key name existing)
  | none => .ok (names.map (·, key) ++ taken)

end Claims

/-! ## Outcomes -/

/-- The steps of a plan and the errors of the keys that it leaves out. -/
structure Plan where
  /-- The steps, in order. -/
  steps : List Step
  /-- The errors, in the order of the keys. -/
  errors : List KeyError
  deriving DecidableEq

namespace Plan

/-- The plan without steps and errors. -/
def empty : Plan := ⟨[], []⟩

/-- One plan after another. -/
def append (p q : Plan) : Plan := ⟨p.steps ++ q.steps, p.errors ++ q.errors⟩

instance : Append Plan := ⟨append⟩

end Plan

/-! ## Blocks -/

namespace Value

/-- One error for each language whose text asks for an argument that there is not. -/
def errors (v : Value) (default key : String) : List KeyError :=
  (v.texts default).filterMap fun (language, text) =>
    (Placeholder.firstUnaddressed? text v.argumentCount).map fun index =>
      .unaddressed key language index v.argumentCount

/-- The steps that file all texts of a value under `key`. -/
def steps (v : Value) (default key : String) : List Step :=
  (v.texts default).map fun (language, text) => .text key text language

end Value

/-- The texts behind one accessor, and the accessor. -/
structure Block where
  /-- The key that claims the names. -/
  key : String
  /-- The names that the accessor needs for itself. -/
  names : List String
  /-- The values the accessor reads, with their lookup keys. -/
  values : List (String × Value)
  /-- The step that declares the accessor. -/
  accessor : Step

namespace Block

/-- One error for each text of the block that asks for an argument that there is not. -/
def errors (b : Block) (default : String) : List KeyError :=
  b.values.flatMap fun (key, v) => v.errors default key

/-- The steps of the block: all texts, then the accessor. -/
def steps (b : Block) (default : String) : List Step :=
  (b.values.flatMap fun (key, v) => v.steps default key) ++ [b.accessor]

/-- Carries a block out, unless its texts have errors or its names are taken. -/
def visit (default : String) (taken : Claims) (b : Block) : Claims × Plan :=
  match b.errors default with
  | [] =>
    match taken.claim b.key b.names with
    | .ok taken => (taken, ⟨b.steps default, []⟩)
    | .error e => (taken, ⟨[], [e]⟩)
  | errors => (taken, ⟨[], errors⟩)

/-- Carries out blocks that claim names from one another. -/
def visitAll (default : String) (taken : Claims) : List Block → Plan
  | [] => .empty
  | b :: rest =>
    let (taken, plan) := b.visit default taken
    plan ++ visitAll default taken rest

/-- The block of a single text. -/
def ofText (a : Address) (v : Value) : Block where
  key := a.key
  names := [a.lowerCamel, a.snakeCase]
  values := [(a.key, v)]
  accessor := .accessor a.lowerCamel a v.argumentCount v.defaultText

/-- The block of a list of texts. -/
def ofList (default : String) (a : Address) (vs : List Value) : Block where
  key := a.key
  names := [a.lowerCamel, a.snakeCase]
  values := vs.zipIdx.map fun (v, i) => (elementKey a.key i, v)
  accessor := .listAccessor a.lowerCamel a vs default

/-- The block of one field of a list of records; a record without the field adds nothing. -/
def ofField (a : Address) (rs : List Record) (field : String) : Block where
  key := fieldPattern a.key field
  names := [Naming.memberName field, Naming.snakeCase [field]]
  values := rs.zipIdx.filterMap fun (r, i) => (r.get? field).map (fieldKey a.key i field, ·)
  accessor := .fieldAccessor field a
    (((rs.filterMap (·.get? field)).head?.map (·.defaultText)).getD "")

end Block

/-! ## Entries -/

/-- The names of all fields of some records, in the order in which they first appear. -/
def Record.fieldNames (rs : List Record) : List String :=
  (rs.flatMap fun r => r.fields.map (·.1)).eraseDups

/-- The names taken while a tree is walked. -/
structure Names where
  /-- The names of accessors. -/
  accessors : Claims
  /-- The names of types. -/
  types : Claims

namespace Entry

/-- Carries out an entry.  A list of records first claims the name of its type; its fields claim
their names from one another only. -/
def visit (default : String) (names : Names) (e : Entry) : Names × Plan :=
  match e.content with
  | .text v =>
    let (taken, plan) := (Block.ofText e.address v).visit default names.accessors
    ({ names with accessors := taken }, plan)
  | .list vs =>
    let (taken, plan) := (Block.ofList default e.address vs).visit default names.accessors
    ({ names with accessors := taken }, plan)
  | .records rs =>
    match names.types.claim e.address.key [e.address.typeName] with
    | .error error => (names, ⟨[], [error]⟩)
    | .ok types =>
      ({ names with types }, Block.visitAll default []
        ((Record.fieldNames rs).map (Block.ofField e.address rs)))

/-- Carries out entries in order. -/
def visitAll (default : String) (names : Names) : List Entry → Plan
  | [] => .empty
  | e :: rest =>
    let (names, plan) := e.visit default names
    plan ++ visitAll default names rest

end Entry

/-- The plan of a tree: its entries in depth-first order, and a single last step. -/
def Tree.plan (t : Tree) : Plan :=
  Entry.visitAll t.defaultLanguage ⟨[], []⟩ t.entries ++ ⟨[.finish], []⟩

end Phrasebook
