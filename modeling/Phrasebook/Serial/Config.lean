import Phrasebook.Config
import Phrasebook.Serial.Fields

/-!
# Settings as documents

The serialized form of settings, written by `Config.toJson` and read by `Config.ofJson?`.  What is
written leaves out a missing package and an empty table of output directories, and what is read
may leave them out.
-/

namespace Phrasebook.Config

open Serial

/-- Reads a package name, which may be null. -/
def packageOfJson? : Json → Option (Option String)
  | .null => some none
  | .string s => some (some s)
  | _ => none

/-- Reads output directories by the tags of their targets. -/
def outputsOfJson? (j : Json) : Option (PerTarget String) := do
  let entries ← membersOf? string? j
  return .ofList (← entries.mapM fun e => (Target.ofTag? e.1).map (·, e.2))

/-- The serialized form of settings. -/
def toJson (c : Config) : Json :=
  .object (
    (match c.packageName with
      | some p => [("package_name", .string p)]
      | none => []) ++
    [("default_language", .string c.defaultLanguage)] ++
    if c.outputs.isEmpty then []
    else [("outputs", .object (c.outputs.toList.map fun e => (e.1.name, .string e.2)))])

/-- Reads settings. -/
def ofJson? (j : Json) : Option Config := do
  let [package, language, outputs] ←
    fields? ["package_name", "default_language", "outputs"] j | none
  return ⟨← orDefault none packageOfJson? package, ← required string? language,
    ← orDefault .empty outputsOfJson? outputs⟩

end Phrasebook.Config
