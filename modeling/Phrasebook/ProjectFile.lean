import Phrasebook.Files.Path
import Phrasebook.Target
import Phrasebook.Toml

/-!
# Project files

A project file is a TOML text that holds what stays the same from run to run: the document, its
default language, the package of the Kotlin files, and the output directories, as a table
`outputs` with the names of targets as keys.

`ProjectFile.parse?` accepts these keys and no others, each of them once.  The table of the output
directories is written in one of three ways, as statements behind a header, as keys with a dot, or
in braces, and a second way is refused beside the first.
-/

namespace Phrasebook

/-- The contents of a project file; every part may be missing. -/
structure ProjectFile where
  /-- The path of the document. -/
  input : Option String
  /-- The language of the default texts. -/
  defaultLanguage : Option String
  /-- The package of the Kotlin files. -/
  packageName : Option String
  /-- The output directories. -/
  outputs : PerTarget String
  deriving DecidableEq

namespace ProjectFile

/-- The file with nothing in it. -/
def empty : ProjectFile := ⟨none, none, none, .empty⟩

/-- How the table of output directories has been started. -/
inductive OutputsForm where
  /-- Not at all. -/
  | absent
  /-- By keys with a dot, of which more may come. -/
  | dotted
  /-- By a header, so that all statements from there on belong to it. -/
  | header
  /-- In braces. -/
  | closed
  deriving DecidableEq

/-- What is known when some statements have been read. -/
structure Reading where
  /-- The contents so far. -/
  file : ProjectFile
  /-- How the output directories are written. -/
  form : OutputsForm

/-- Sets what is not set yet. -/
def setOnce? (old : Option String) (new : String) : Option (Option String) :=
  match old with
  | none => some (some new)
  | some _ => none

/-- Adds an output directory under a key. -/
def addOutput? (outputs : PerTarget String) (key : Toml.Key) (path : String) :
    Option (PerTarget String) :=
  match key with
  | [name] => do
    let t ← Target.ofTag? name
    if (outputs.get? t).isSome then none else some (outputs.set t path)
  | _ => none

/-- Sets the text of a key outside all tables. -/
def setText? (f : ProjectFile) (name text : String) : Option ProjectFile :=
  match name with
  | "input" => (setOnce? f.input text).map fun v => { f with input := v }
  | "default_language" =>
    (setOnce? f.defaultLanguage text).map fun v => { f with defaultLanguage := v }
  | "package_name" => (setOnce? f.packageName text).map fun v => { f with packageName := v }
  | _ => none

namespace Reading

/-- Adds an output directory under a key, in the given form. -/
def addOutput? (r : Reading) (form : OutputsForm) (key : Toml.Key) (path : String) :
    Option Reading :=
  (ProjectFile.addOutput? r.file.outputs key path).map fun outputs =>
    ⟨{ r.file with outputs := outputs }, form⟩

/-- Reads one statement. -/
def step? (r : Reading) : Toml.Statement → Option Reading
  | .header key =>
    if key = ["outputs"] ∧ r.form = .absent then some { r with form := .header } else none
  | .entry key (.text s) =>
    if r.form = .header then r.addOutput? .header key s
    else
      match key with
      | [name] => (r.file.setText? name s).map fun f => { r with file := f }
      | "outputs" :: key => if r.form = .closed then none else r.addOutput? .dotted key s
      | _ => none
  | .entry key (.table entries) =>
    if key = ["outputs"] ∧ r.form = .absent then
      entries.foldlM (fun r (key, s) => r.addOutput? .closed key s) { r with form := .closed }
    else none

end Reading

/-- Reads a project file. -/
def parse? (text : String) : Option ProjectFile := do
  let statements ← Toml.parse? text
  let r ← statements.foldlM Reading.step? ⟨.empty, .absent⟩
  return r.file

/-- The file with its paths, which lead from the directory `base`, made to lead from where `base`
does. -/
def within (base : String) (f : ProjectFile) : ProjectFile :=
  { f with input := f.input.map (Path.join base), outputs := f.outputs.map (Path.join base) }

end ProjectFile

end Phrasebook
