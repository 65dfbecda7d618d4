import Phrasebook.Buffer
import Phrasebook.Plan
import Phrasebook.Sources

/-!
# Dialects: how a target spells its sources

All targets carry out the same plan in the same way; they differ in how they spell a header, an
entry of a table, an accessor and so on.  A `Dialect` is that spelling.  A `Draft` is what has
been written after some steps; `Dialect.step?` carries out one step more, and `Dialect.step` is
what the step writes.

The first accessor of a list of records also declares the type of the records, and the epilogue
of the binding names every language that has a table.

A step may ask for too much: the parameters of an accessor are listed before they are written, and
there is a size that no list can have.  There the generation breaks off (`Step.Fits`).  Up to that
size, memory is taken to be there.
-/

namespace Phrasebook

/-! ## Spelling -/

namespace Spelling

/-- Lines with a line feed behind each. -/
def lines (ls : List String) : String := String.join (ls.map (· ++ "\n"))

/-- How many names a list can hold: a list takes up fewer than `2 ^ 63` bytes on any machine, and
a name 24 of them, besides its text. -/
def maxParameters : Nat := 0x7FFFFFFFFFFFFFFF / 24

/-- The names of `count` parameters, which are listed only if `count` is at most
`maxParameters`. -/
def parameters (count : UInt64) : List String := (List.range count.toNat).map fun i => s!"value{i}"

end Spelling

/-- The number of parameters that a step lists the names of: only the accessor of a single text has
parameters. -/
def Step.parameterCount : Step → UInt64
  | .accessor _ _ argumentCount _ => argumentCount
  | _ => 0

/-- Whether a list can hold the names of the parameters. -/
def Step.Fits (s : Step) : Prop := s.parameterCount.toNat ≤ Spelling.maxParameters

instance (s : Step) : Decidable s.Fits := inferInstanceAs (Decidable (_ ≤ _))

/-! ## Dialects -/

/-- How a target spells its sources. -/
structure Dialect where
  /-- The target. -/
  target : Target
  /-- The start of the binding, for a package and a fallback language. -/
  prologue (package : Option String) (fallback : String) : String
  /-- The start of the table of a language. -/
  tableHeader (package : Option String) (language : String) : String
  /-- An entry of a table. -/
  tableEntry (key text : String) : String
  /-- The end of a table. -/
  tableClosing : String
  /-- The accessor of a single text. -/
  accessor (function : String) (address : Address) (argumentCount : UInt64) : String
  /-- The accessor of a list of texts of this length. -/
  listAccessor (function : String) (address : Address) (length : Nat) : String
  /-- The name of the type of the records of a list. -/
  typeName (address : Address) : String
  /-- The declaration of a type with this name. -/
  typeDeclaration (name : String) : String
  /-- The accessor of a field of a list of records. -/
  fieldAccessor (address : Address) (field : String) : String
  /-- The end of the binding, for the languages that have a table. -/
  epilogue (languages : List String) : String
  /-- The name of the file with the table of a language. -/
  tableFile (language : String) : String
  /-- The name of the file with the binding. -/
  bindingFile : String

/-- What has been written of the sources of a target. -/
structure Draft where
  /-- The package that the files declare. -/
  package : Option String
  /-- The tables. -/
  tables : Buffers
  /-- The binding. -/
  binding : String
  /-- The names of the types that the binding declares. -/
  types : List String
  deriving DecidableEq

namespace Dialect

/-- The sources before the first step. -/
def start (d : Dialect) (package : Option String) (fallback : String) : Draft :=
  ⟨package, .empty, d.prologue package fallback, []⟩

/-- Appends to the binding. -/
def declare (g : Draft) (text : String) : Draft := { g with binding := g.binding ++ text }

/-- Declares the type of the records at `a`, unless a type of its name is declared. -/
def declareType (d : Dialect) (g : Draft) (a : Address) : Draft :=
  let name := d.typeName a
  if name ∈ g.types then g
  else { declare g (d.typeDeclaration name) with types := name :: g.types }

/-- What one step writes. -/
def step (d : Dialect) (g : Draft) : Step → Draft
  | .text key text language =>
    let tables := g.tables.enter language (d.tableHeader g.package language)
    { g with tables := tables.push language (d.tableEntry key text) }
  | .accessor function a count _ => declare g (d.accessor function a count)
  | .listAccessor function a values _ => declare g (d.listAccessor function a values.length)
  | .fieldAccessor field a _ => declare (d.declareType g a) (d.fieldAccessor a field)
  | .finish =>
    let tables := g.tables.closeAll d.tableClosing
    declare { g with tables } (d.epilogue tables.languages)

/-- What steps write in order. -/
def run (d : Dialect) (g : Draft) (steps : List Step) : Draft := steps.foldl d.step g

/-- Carries out one step, unless it does not fit. -/
def step? (d : Dialect) (g : Draft) (s : Step) : Option Draft :=
  if s.Fits then some (d.step g s) else none

/-- Carries out steps in order, up to the first that does not fit. -/
def run? (d : Dialect) (g : Draft) (steps : List Step) : Option Draft := steps.foldlM d.step? g

/-- The files of a draft. -/
def sources (d : Dialect) (g : Draft) : Sources where
  target := d.target
  tables :=
    ⟨g.tables.byLanguage.toList.map fun e => (e.1, ⟨d.tableFile e.1, e.2.text⟩),
      List.pairwise_map.2 g.tables.byLanguage.sorted⟩
  binding := ⟨d.bindingFile, g.binding⟩

end Dialect

end Phrasebook
