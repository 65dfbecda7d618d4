import Phrasebook.LanguageTag
import Phrasebook.Plan

/-!
# Catalogs

A `Catalog` holds what generated code holds, as tables instead of source text: for each language
the texts by key, and the accessors in the order of their declaration.  Looking a text up in it is
what an accessor does at run time.

* `Catalog.step` carries out one step, `Tree.catalog` a whole plan.
* `Catalog.resolve?` finds a text in the first table of `LanguageTag.resolutionOrder` that has it.
* `Catalog.text` also puts the arguments in; a key that no table has gives the empty text.
-/

namespace Phrasebook

/-- An accessor of generated code. -/
structure Accessor where
  /-- The name it is declared under. -/
  function : String
  /-- The keys it looks up, where `$index` stands for the place of a record. -/
  ids : List String
  /-- The number of its arguments. -/
  argumentCount : UInt64
  deriving DecidableEq, Repr

/-- The tables and accessors of a project. -/
structure Catalog where
  /-- The language whose table is consulted last. -/
  fallback : String
  /-- For each language the texts by key. -/
  tables : SortedMap (SortedMap String)
  /-- The accessors, in the order of their declaration. -/
  accessors : List Accessor
  /-- Whether the last step has been carried out. -/
  finished : Bool
  deriving DecidableEq

namespace Catalog

/-- The catalog without tables and accessors. -/
def empty (fallback : String) : Catalog := ⟨fallback, .empty, [], false⟩

/-- Files a text in the table of its language. -/
def file (c : Catalog) (key text language : String) : Catalog :=
  let table := (c.tables.get? language).getD .empty
  { c with tables := c.tables.insert language (table.insert key text) }

/-- The accessor that a step declares, if it declares one. -/
def accessorOf? : Step → Option Accessor
  | .accessor function address count _ => some ⟨function, [address.key], count⟩
  | .listAccessor function address values _ =>
    some ⟨function, (List.range values.length).map (elementKey address.key), 0⟩
  | .fieldAccessor field address _ => some ⟨field, [fieldPattern address.key field], 0⟩
  | .text .. => none
  | .finish => none

/-- Carries out one step. -/
def step (c : Catalog) (s : Step) : Catalog :=
  match s with
  | .text key text language => c.file key text language
  | .finish => { c with finished := true }
  | s => { c with accessors := c.accessors ++ (accessorOf? s).toList }

/-- Carries out steps in order. -/
def run (c : Catalog) (steps : List Step) : Catalog := steps.foldl step c

/-- The languages that have a table, in increasing order. -/
def languages (c : Catalog) : List String := c.tables.keys

/-- The text under `key` in the table of `language`. -/
def textIn? (c : Catalog) (key language : String) : Option String :=
  (c.tables.get? language).bind fun table => table.get? key

/-- The text under `key` for the language `requested`: from the first table to be consulted that
has the key. -/
def resolve? (c : Catalog) (requested : Option String) (key : String) : Option String :=
  (LanguageTag.resolutionOrder requested c.fallback).findSome? (c.textIn? key)

/-- The text under `key` with its arguments put in, or the empty text. -/
def text (c : Catalog) (requested : Option String) (key : String) (args : List String) : String :=
  match c.resolve? requested key with
  | some message => Placeholder.substitute message args
  | none => ""

end Catalog

/-- The catalog of a tree. -/
def Tree.catalog (t : Tree) : Catalog := (Catalog.empty t.defaultLanguage).run t.plan.steps

end Phrasebook
