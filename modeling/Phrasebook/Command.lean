import Phrasebook.Catalog
import Phrasebook.Delivery
import Phrasebook.Format
import Phrasebook.Settings
import Phrasebook.Shape

/-!
# Commands

The three things the program does with a document:

* `Command.generate` writes the files of all targets that have an output directory;
* `Command.check` says how many accessors and which languages a document gives, and fails if a key
  is left out;
* `Command.lookup` finds one text.

All of them warn of each key that is left out.  `Command.run` carries a command out on any host; a
`CommandError` says why it fails.
-/

namespace Phrasebook

/-- A command. -/
inductive Command where
  /-- Write the files that a project file and overrides ask for; `strict` refuses to leave keys
  out. -/
  | generate (config : Option String) (overrides : Overrides) (strict : Bool)
  /-- Check the document at `input`. -/
  | check (input defaultLanguage : String)
  /-- Find the text of `key` in `language`, or in the default language, and put `args` in. -/
  | lookup (input defaultLanguage key : String) (language : Option String) (args : List String)
  deriving DecidableEq

/-- Why a command fails. -/
inductive CommandError where
  /-- The project file cannot be read. -/
  | unreadableConfig (path : String) (error : FileError)
  /-- The project file is none. -/
  | invalidConfig (path : String)
  /-- There are no settings. -/
  | settings (error : SettingsError)
  /-- No target has an output directory. -/
  | noTargets
  /-- The document cannot be read. -/
  | unreadableInput (path : String) (error : FileError)
  /-- The document is not written in its format. -/
  | invalidInput (format : Format)
  /-- The document has no shape that stands for a tree. -/
  | shape (path : String) (error : ShapeError)
  /-- Nothing can be generated. -/
  | generation (error : GenerationError)
  /-- Keys are left out, and therefore nothing is written. -/
  | nothingWritten (count : Nat)
  /-- Keys are left out. -/
  | keysLeftOut (count : Nat)
  /-- The files cannot be written. -/
  | write (error : WriteError)
  /-- No table has the key. -/
  | keyNotFound (key : String)
  deriving DecidableEq, Repr

/-- The wording of an error. -/
def CommandError.message : CommandError → String
  | unreadableConfig path error => s!"Cannot read config file {path}: {error}"
  | invalidConfig path => s!"Invalid config file {path}"
  | settings error => error.message
  | noTargets =>
    "No targets configured: pass --target <kind>=<dir> or add an [outputs] table to the config file"
  | unreadableInput path error => s!"Cannot read input file {path}: {error}"
  | invalidInput format => s!"Invalid {format}"
  | shape path error => error.message ++ s!" in {path}"
  | generation error => error.message
  | nothingWritten count => s!"{count} key(s) failed validation; nothing was written"
  | keysLeftOut count => s!"{count} key(s) failed validation"
  | write error => error.message
  | keyNotFound key => s!"Key not found in any table: {key}"

namespace Command

variable {m : Type → Type} [Monad m] [Host m]

/-- A step of a command on a host. -/
abbrev Action (m : Type → Type) := ExceptT CommandError m

/-- Prints a line. -/
def printLine (text : String) : Action m Unit :=
  (Host.print (text ++ "\n") : m Unit)

/-- Warns of the keys that are left out. -/
def warnAll (errors : List KeyError) : Action m Unit :=
  errors.forM fun e => (Host.warn s!"warning: {e.message}\n" : m Unit)

/-- Reads the tree that the document at `path` stands for. -/
def loadTree (path defaultLanguage : String) : Action m Tree := do
  let text ← match ← (Host.readText path : m _) with
    | .ok text => pure text
    | .error e => throw (.unreadableInput path e)
  let format := Format.ofPath path
  let some document := format.parse? text | throw (.invalidInput format)
  match Tree.ofDocument defaultLanguage document with
  | .ok tree => return tree
  | .error e => throw (.shape path e)

/-- Reads a project file, whose paths lead from the directory it is in. -/
def loadProject (path : String) : Action m ProjectFile := do
  let text ← match ← (Host.readText path : m _) with
    | .ok text => pure text
    | .error e => throw (.unreadableConfig path e)
  let some file := ProjectFile.parse? text | throw (.invalidConfig path)
  return file.within (Path.directory path)

/-- Fails unless `language` is well formed. -/
def requireLanguage (language : String) : Action m Unit := do
  match checkLanguage language with
  | .ok () => return ()
  | .error e => throw (.generation e)

/-- Which of the output directories exist. -/
def existing (c : Config) : Action m (List String) :=
  (c.outputs.toList.map (·.2)).filterM fun path => (Host.isDirectory path : m Bool)

/-- Generates the files of all targets that have an output directory. -/
def generateFiles (s : Settings) (tree : Tree) : Action m Report := do
  let directories ← existing s.config
  match generateEach (fun path => path ∈ directories) tree s.config s.targets with
  | .ok report => return report
  | .error e => throw (.generation e)

/-- The line that says what was written for a target. -/
def summary (s : Sources) : String :=
  s!"✅ {s.target}: {s.tables.toList.length} language file(s) + {s.binding.name}"

/-- Carries out `Command.generate`. -/
def runGenerate (config : Option String) (overrides : Overrides) (strict : Bool) :
    Action m Unit := do
  let file ← match config with
    | some path => loadProject path
    | none => pure .empty
  let settings ← match Settings.resolve file overrides with
    | .ok settings => pure settings
    | .error e => throw (.settings e)
  if settings.targets.isEmpty then throw .noTargets
  let tree ← loadTree settings.input settings.config.defaultLanguage
  let report ← generateFiles settings tree
  warnAll report.errors
  if strict && !report.isClean then throw (.nothingWritten report.errors.length)
  let _ ← (report.write settings.config).adapt .write
  report.outputs.toList.forM fun e => printLine (summary e.2)

/-- Carries out `Command.check`. -/
def runCheck (input defaultLanguage : String) : Action m Unit := do
  requireLanguage defaultLanguage
  let tree ← loadTree input defaultLanguage
  let catalog := tree.catalog
  let errors := tree.plan.errors
  warnAll errors
  let languages := catalog.languages
  let listed := if languages.isEmpty then "none" else ", ".intercalate languages
  printLine s!"{catalog.accessors.length} accessor(s), languages: {listed}"
  if errors.isEmpty then printLine s!"✅ {input} is valid"
  else throw (.keysLeftOut errors.length)

/-- Carries out `Command.lookup`. -/
def runLookup (input defaultLanguage key : String) (language : Option String)
    (args : List String) : Action m Unit := do
  requireLanguage defaultLanguage
  if let some l := language then requireLanguage l
  let tree ← loadTree input defaultLanguage
  let catalog := tree.catalog
  warnAll tree.plan.errors
  if (catalog.resolve? language key).isNone then throw (.keyNotFound key)
  printLine (catalog.text language key args)

/-- Carries out a command. -/
def run : Command → Action m Unit
  | generate config overrides strict => runGenerate config overrides strict
  | check input defaultLanguage => runCheck input defaultLanguage
  | lookup input defaultLanguage key language args =>
    runLookup input defaultLanguage key language args

end Command

end Phrasebook
