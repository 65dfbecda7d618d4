import Phrasebook.Placeholder
import Phrasebook.SortedMap

/-!
# Values: a text and its translations

A `Value` is one localizable text: its wording in the default language, the number of arguments
it may ask for, and the translations that replace it in other languages.

* `Value.ofText` counts the arguments from the text itself.
* `Value.textIn?` is the text for one language, `Value.texts` lists all of them; both ignore a
  translation into the default language.
-/

namespace Phrasebook

/-- A localizable text. -/
structure Value where
  /-- The text in the default language. -/
  defaultText : String
  /-- How many arguments the text may ask for. -/
  argumentCount : UInt64
  /-- The texts in other languages, by tag. -/
  overrides : SortedMap String
  deriving DecidableEq, Inhabited

namespace Value

/-- A text without translations, which may ask for the arguments its tokens name. -/
def ofText (text : String) : Value := ⟨text, Placeholder.maxIndex text, .empty⟩

/-- The value with `text` as its translation into `language`. -/
def setOverride (v : Value) (language text : String) : Value :=
  { v with overrides := v.overrides.insert language text }

/-- The value with another number of arguments. -/
def withArgumentCount (v : Value) (count : UInt64) : Value := { v with argumentCount := count }

/-- The text in `language`, if the value has one, where `default` is the default language. -/
def textIn? (v : Value) (language default : String) : Option String :=
  if language = default then some v.defaultText else v.overrides.get? language

/-- All languages with their texts: the default language first, then the others in order. -/
def texts (v : Value) (default : String) : List (String × String) :=
  (default, v.defaultText) :: v.overrides.toList.filter fun e => e.1 ≠ default

end Value

end Phrasebook
