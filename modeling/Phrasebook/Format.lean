import Phrasebook.Files.Path
import Phrasebook.Json.Reader
import Phrasebook.Unicode.CaseMapping
import Phrasebook.Yaml.Document

/-!
# Formats of documents

A document is written in JSON or in YAML; the name of its file says which (`Format.ofPath`).
-/

namespace Phrasebook

/-- A format that documents are written in. -/
inductive Format where
  /-- JSON. -/
  | json
  /-- YAML, which files of any name hold that are not marked as JSON. -/
  | yaml
  deriving DecidableEq, Repr

namespace Format

/-- The format of the document at a path. -/
def ofPath (path : String) : Format :=
  match Path.extension? path with
  | some e => if Unicode.asciiLowercase e = "json" then json else yaml
  | none => yaml

/-- The name of a format. -/
def name : Format → String
  | json => "JSON"
  | yaml => "YAML"

instance : ToString Format := ⟨name⟩

/-- Reads a document. -/
def parse? (format : Format) (text : String) : Option Json :=
  match format with
  | json => Json.parse? text
  | yaml => Yaml.parse? text

end Format

end Phrasebook
