import Phrasebook.Address
import Phrasebook.Unicode.Alphanumeric
import Phrasebook.Unicode.CaseMapping
import Phrasebook.Unicode.DecimalDigit

/-!
# Identifiers made from names

Generated code declares one function for each key and one type for each list of records.  Their
names are made from the words of the key.

* `words` cuts a segment of a key at every character that is not alphanumeric, and where a
  lowercase letter or a digit meets a capital (`welcomeTitle` has the words `welcome`, `Title`).
* `lowerCamel`, `snakeCase` and `typeName` join the words of all segments in three ways.
* `memberName` and `languageIdentifier` keep the spelling of one segment, and put an underscore
  for each character that an identifier cannot hold.
* `escapeReserved` marks a name that the target language has reserved.
-/

namespace Phrasebook

namespace Naming

open Unicode

/-! ## Words -/

/-- Whether `d` begins a new word right after `c`, both alphanumeric. -/
def isHump (c d : Char) : Bool := isUppercase d && (isLowercase c || isAsciiDigit c)

/-- Whether `d` goes on with the word that `c` belongs to. -/
def continues (c d : Char) : Bool := isAlphanumeric c && isAlphanumeric d && !isHump c d

/-- The words of a segment: the longest runs in which each character goes on with the word of
the one before it, among the runs of alphanumeric characters. -/
def words (segment : List Char) : List (List Char) :=
  (segment.splitBy continues).filter (·.all isAlphanumeric)

/-- The words of all segments, in order. -/
def allWords (segments : List String) : List (List Char) :=
  segments.flatMap fun s => words s.toList

/-! ## Spelling -/

/-- A word with its first character in upper case. -/
def capitalize : List Char → List Char
  | [] => []
  | c :: rest => upperOf c ++ rest

/-- A word with its first character in lower case. -/
def decapitalize : List Char → List Char
  | [] => []
  | c :: rest => lowerOf c ++ rest

/-- The identifier with a given spelling: an underscore stands for nothing at all, and goes in
front of a digit. -/
def finish : List Char → String
  | [] => "_"
  | c :: rest => String.ofList (if isAsciiDigit c then '_' :: c :: rest else c :: rest)

/-- The words of the segments joined as in `homeWelcomeTitle`. -/
def lowerCamel (segments : List String) : String :=
  match allWords segments with
  | [] => finish []
  | w :: ws => finish (decapitalize w ++ ws.flatMap capitalize)

/-- The words of the segments joined as in `home_welcome_title`. -/
def snakeCase (segments : List String) : String :=
  finish (['_'].intercalate ((allWords segments).map lowercase))

/-- The words of the segments joined as in `HomeItems`. -/
def typeName (segments : List String) : String :=
  finish ((allWords segments).flatMap capitalize)

/-- A single segment as an identifier, with its own spelling where that is possible. -/
def memberName (segment : String) : String :=
  finish (segment.toList.map fun c => if isAlphanumeric c || c == '_' then c else '_')

/-- A language tag as a part of an identifier: `en-US` becomes `en_US`. -/
def languageIdentifier (language : String) : String :=
  language.map fun c => if isAsciiAlphanumeric c then c else '_'

/-- `identifier`, with an underscore behind it if it is among the reserved names. -/
def escapeReserved (identifier : String) (reserved : List String) : String :=
  if identifier ∈ reserved then identifier ++ "_" else identifier

end Naming

namespace Address

/-- The name of the accessor of the node, as in `homeWelcomeTitle`. -/
def lowerCamel (a : Address) : String := Naming.lowerCamel a.segments

/-- The name of the accessor of the node, as in `home_welcome_title`. -/
def snakeCase (a : Address) : String := Naming.snakeCase a.segments

/-- The name of the type of the node, as in `HomeItems`. -/
def typeName (a : Address) : String := Naming.typeName a.segments

end Address

end Phrasebook
