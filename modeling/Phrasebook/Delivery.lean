import Phrasebook.Files.Host
import Phrasebook.Generation

/-!
# Writing generated files

`Report.write` puts the files of a report into the output directories of its targets, in order,
and gives their paths.  It makes no directories, and stops at the first target that has none; files
written before that stay.
-/

namespace Phrasebook

/-- Why a report cannot be written. -/
inductive WriteError where
  /-- The target has no output directory: none is set, or `path` is not one. -/
  | noDirectory (target : Target) (path : Option String)
  /-- A file cannot be written. -/
  | file (error : FileError)
  deriving DecidableEq, Repr

/-- The wording of an error. -/
def WriteError.message : WriteError → String
  | noDirectory target path => (GenerationError.missingDirectory target path).message
  | file error => s!"I/O error: {error}"

variable {m : Type → Type} [Monad m] [Host m]

/-- Writes a file into a directory, and gives its path. -/
def SourceFile.write (directory : String) (f : SourceFile) : ExceptT WriteError m String := do
  let path := Path.join directory f.name
  match ← (Host.writeText path f.contents : m _) with
  | .ok () => return path
  | .error e => throw (.file e)

/-- Writes the files of a target into its output directory, and gives their paths. -/
def Sources.write (c : Config) (target : Target) (s : Sources) :
    ExceptT WriteError m (List String) := do
  match c.outputs.get? target with
  | none => throw (.noDirectory target none)
  | some directory =>
    if ← (Host.isDirectory directory : m Bool) then s.files.mapM (SourceFile.write directory)
    else throw (.noDirectory target (some directory))

/-- Writes all files of a report, and gives their paths. -/
def Report.write (c : Config) (r : Report) : ExceptT WriteError m (List String) := do
  return (← r.outputs.toList.mapM fun e => Sources.write c e.1 e.2).flatten

end Phrasebook
