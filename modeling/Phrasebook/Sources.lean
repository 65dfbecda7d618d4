import Phrasebook.Target
import Phrasebook.SortedMap

/-!
# Generated sources

What one target comes to: a table file for each language and one binding file, which holds the
accessors and puts the tables together.
-/

namespace Phrasebook

/-- A generated file. -/
structure SourceFile where
  /-- The name of the file, without a directory. -/
  name : String
  /-- What the file holds. -/
  contents : String
  deriving DecidableEq, Repr

/-- All files of one target. -/
structure Sources where
  /-- The target they are written in. -/
  target : Target
  /-- The table file of each language. -/
  tables : SortedMap SourceFile
  /-- The file with the accessors. -/
  binding : SourceFile
  deriving DecidableEq

namespace Sources

/-- All files: the tables in the order of their languages, then the binding. -/
def files (s : Sources) : List SourceFile := s.tables.values ++ [s.binding]

end Sources

end Phrasebook
