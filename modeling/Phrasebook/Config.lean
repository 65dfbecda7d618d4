import Phrasebook.LanguageTag
import Phrasebook.Target

/-!
# Settings of a generation

What is the same for all targets of a run: the package of the Kotlin files, the default language,
and the directory that the files of each target go to.
-/

namespace Phrasebook

/-- The settings of a generation. -/
structure Config where
  /-- The package of the Kotlin files. -/
  packageName : Option String
  /-- The language of the default texts, which is also the fallback at run time. -/
  defaultLanguage : String
  /-- The output directory of each target. -/
  outputs : PerTarget String
  deriving DecidableEq

/-- Why nothing can be generated. -/
inductive GenerationError where
  /-- The target has no output directory: none is set, or `path` is not one. -/
  | missingDirectory (target : Target) (path : Option String)
  /-- The tag is not the canonical spelling of a language. -/
  | invalidLanguage (language : String)
  /-- The default languages of the tree and of the settings differ. -/
  | languageMismatch (tree config : String)
  /-- An accessor has more parameters than a list can hold the names of.  The program breaks off. -/
  | overflow
  deriving DecidableEq, Repr

namespace GenerationError

/-- The wording of an error. -/
def message : GenerationError → String
  | missingDirectory target path =>
    let detail := match path with
      | some path => s!": {path} does not exist"
      | none => ": no directory configured"
    s!"missing output directory for target `{target}`{detail}"
  | invalidLanguage language => s!"invalid language identifier `{language}`"
  | languageMismatch tree config =>
    s!"tree is written in `{tree}` but the configured default language is `{config}`"
  | overflow => "capacity overflow"

end GenerationError

/-- Refuses a tag that is not the canonical spelling of a language. -/
def checkLanguage (language : String) : Except GenerationError Unit :=
  if LanguageTag.isCanonical language then .ok () else .error (.invalidLanguage language)

namespace Config

/-- Settings without a package and without output directories. -/
def ofLanguage (defaultLanguage : String) : Config := ⟨none, defaultLanguage, .empty⟩

/-- Refuses settings whose default language is no language. -/
def check (c : Config) : Except GenerationError Unit := checkLanguage c.defaultLanguage

/-- Refuses the first of `targets` that has no output directory, where `isDirectory` tells which
paths are directories. -/
def checkDirectories (c : Config) (isDirectory : String → Bool) :
    List Target → Except GenerationError Unit
  | [] => .ok ()
  | t :: rest =>
    match c.outputs.get? t with
    | some path =>
      if isDirectory path then c.checkDirectories isDirectory rest
      else .error (.missingDirectory t (some path))
    | none => .error (.missingDirectory t none)

end Config

end Phrasebook
