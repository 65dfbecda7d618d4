import Phrasebook.Config
import Phrasebook.ProjectFile

/-!
# Settings of a run

A run takes its settings from a project file and from what is given beside it, `Overrides`, which
win (`Settings.resolve`).  The document and the default language must be given in one of the two
places.

`readOutput` reads an output directory as it is given beside the file: `kotlin=shared/src`.
-/

namespace Phrasebook

/-! ## Output directories -/

/-- Why a text names no output directory. -/
inductive OutputError where
  /-- The text has no equals sign. -/
  | noDirectory (text : String)
  /-- The name in front is that of no target. -/
  | unknownTarget (error : Target.Unknown)
  /-- Nothing but white space is behind the equals sign. -/
  | blankDirectory (target : Target)
  deriving DecidableEq, Repr

/-- The wording of an error. -/
def OutputError.message : OutputError → String
  | noDirectory text => s!"Expected <target>=<directory>, got '{text}'"
  | unknownTarget error => error.message
  | blankDirectory target => s!"Missing output directory for target '{target}'"

/-- Reads the name of a target and, behind the first equals sign, a directory. -/
def readOutput (text : String) : Except OutputError (Target × String) :=
  let name := text.toList.takeWhile (· != '=')
  match text.toList.drop name.length with
  | [] => .error (.noDirectory text)
  | _ :: path => do
    let target ← (Target.ofName? (String.ofList name)).mapError .unknownTarget
    let path := String.ofList path
    if Unicode.isBlank path then throw (.blankDirectory target) else return (target, path)

/-! ## Settings -/

/-- What is given beside a project file. -/
structure Overrides where
  /-- The path of the document. -/
  input : Option String
  /-- The language of the default texts. -/
  defaultLanguage : Option String
  /-- The package of the Kotlin files. -/
  packageName : Option String
  /-- Output directories, of which a later one replaces an earlier one of its target. -/
  outputs : List (Target × String)
  deriving DecidableEq

/-- The settings of a run. -/
structure Settings where
  /-- The path of the document. -/
  input : String
  /-- The settings of the generation. -/
  config : Config
  deriving DecidableEq

/-- Why there are no settings. -/
inductive SettingsError where
  /-- No document is given. -/
  | noInput
  /-- No default language is given. -/
  | noLanguage
  /-- The settings of the generation are refused. -/
  | refused (error : GenerationError)
  deriving DecidableEq, Repr

/-- The wording of an error. -/
def SettingsError.message : SettingsError → String
  | noInput => "No input file given: pass --input or set `input` in the config file"
  | noLanguage =>
    "No default language given: pass --default-language or set `default_language` in " ++
      "the config file"
  | refused error => error.message

namespace Settings

/-- The settings that a project file and overrides come to. -/
def resolve (file : ProjectFile) (o : Overrides) : Except SettingsError Settings := do
  let some input := o.input <|> file.input | throw .noInput
  let some language := o.defaultLanguage <|> file.defaultLanguage | throw .noLanguage
  let config : Config :=
    { packageName := o.packageName <|> file.packageName
      defaultLanguage := language
      outputs := o.outputs.foldl (fun p e => p.set e.1 e.2) file.outputs }
  config.check.mapError .refused
  return ⟨input, config⟩

/-- The targets that have an output directory. -/
def targets (s : Settings) : List Target := s.config.outputs.toList.map (·.1)

end Settings

end Phrasebook
