import Phrasebook.Naming
import Phrasebook.Unicode.WhiteSpace

/-!
# Language tags

A tag such as `zh-Hant-TW` is a list of subtags joined by hyphens: a language, a script, a region
and any number of variants, all but the first optional.  Reading a tag (`LanguageTag.ofString?`)
forgives its spelling, writing it (`LanguageTag.toString`) gives the canonical one.

Tags become parts of file names and identifiers, so two spellings of one tag must not meet.
`LanguageTag.isCanonical` accepts the tags that are written in their canonical form with a
language of two or three letters.

The two remaining definitions serve the search for a text: `languageKey` is the first subtag, and
`resolutionOrder` lists the tables to consult.
-/

namespace Phrasebook

/-- A language tag, with each subtag in its canonical spelling. -/
structure LanguageTag where
  /-- The language, in small letters. -/
  language : List Char
  /-- The script, of which the first letter is a capital. -/
  script : Option (List Char)
  /-- The region, in capitals or digits. -/
  region : Option (List Char)
  /-- The variants, in small letters, in increasing order and without repetition. -/
  variants : List (List Char)
  deriving DecidableEq, Repr

namespace LanguageTag

open Unicode Naming

/-! ## Subtags -/

/-- Whether `c` is an ASCII letter. -/
def isLetter (c : Char) : Bool := ('a' ≤ c && c ≤ 'z') || ('A' ≤ c && c ≤ 'Z')

/-- `c` with an ASCII small letter made a capital. -/
def asciiUpper (c : Char) : Char :=
  if 'a' ≤ c && c ≤ 'z' then Char.ofNat (c.toNat - 32) else c

/-- The parts of `cs` between hyphens or underscores; there is always one more than of these. -/
def subtags : List Char → List (List Char)
  | [] => [[]]
  | c :: rest =>
    if c = '-' ∨ c = '_' then [] :: subtags rest
    else
      match subtags rest with
      | s :: more => (c :: s) :: more
      | [] => [[c]]

/-- Reads a language: two, three, or five to eight letters. -/
def language? (s : List Char) : Option (List Char) :=
  if 2 ≤ s.length ∧ s.length ≤ 8 ∧ s.length ≠ 4 ∧ s.all isLetter then some (s.map asciiLower)
  else none

/-- Reads a script: four letters. -/
def script? (s : List Char) : Option (List Char) :=
  match s with
  | [a, b, c, d] =>
    if s.all isLetter then some (asciiUpper a :: [b, c, d].map asciiLower) else none
  | _ => none

/-- Reads a region: two letters or three digits. -/
def region? (s : List Char) : Option (List Char) :=
  if (s.length = 2 ∧ s.all isLetter) ∨ (s.length = 3 ∧ s.all isAsciiDigit) then
    some (s.map asciiUpper)
  else none

/-- Whether `c` is an ASCII character other than the null character. -/
def isPlainAscii (c : Char) : Bool := c.toNat != 0 && c.toNat < 128

/-- Reads a variant: five to eight letters and digits, or four characters that start with a digit
or have only letters and digits behind the first. -/
def variant? (s : List Char) : Option (List Char) :=
  if s.all isPlainAscii ∧
      ((5 ≤ s.length ∧ s.length ≤ 8 ∧ s.all isAsciiAlphanumeric) ∨
        (s.length = 4 ∧ ((s.take 1).all isAsciiDigit ∨ (s.drop 1).all isAsciiAlphanumeric))) then
    some (s.map asciiLower)
  else none

/-! ## Whole tags -/

/-- Inserts a variant at its place, unless it is there already. -/
def insertVariant (v : List Char) : List (List Char) → List (List Char)
  | [] => [v]
  | w :: rest =>
    if v < w then v :: w :: rest
    else if v = w then w :: rest
    else w :: insertVariant v rest

/-- Reads the variants that a tag ends with. -/
def variants? : List (List Char) → Option (List (List Char))
  | [] => some []
  | s :: rest => return insertVariant (← variant? s) (← variants? rest)

/-- Reads the region, if there is one, and the variants. -/
def regionAndVariants? (ss : List (List Char)) :
    Option (Option (List Char) × List (List Char)) :=
  match ss with
  | [] => some (none, [])
  | s :: rest =>
    match region? s with
    | some r => return (some r, ← variants? rest)
    | none => return (none, ← variants? ss)

/-- Reads a tag without regard to upper and lower case. -/
def ofChars? (cs : List Char) : Option LanguageTag := do
  let s :: rest := subtags cs | none
  let language ← language? s
  match rest with
  | [] => return ⟨language, none, none, []⟩
  | s :: more =>
    match script? s with
    | some script =>
      let (region, variants) ← regionAndVariants? more
      return ⟨language, some script, region, variants⟩
    | none =>
      let (region, variants) ← regionAndVariants? rest
      return ⟨language, none, region, variants⟩

/-- The canonical spelling of a tag. -/
def toChars (t : LanguageTag) : List Char :=
  ['-'].intercalate (t.language :: (t.script.toList ++ t.region.toList ++ t.variants))

/-- Reads a tag without regard to upper and lower case. -/
def ofString? (s : String) : Option LanguageTag := ofChars? s.toList

instance : ToString LanguageTag := ⟨fun t => String.ofList t.toChars⟩

/-- Whether `s` is the canonical spelling of a tag whose language has two or three letters. -/
def isCanonical (s : String) : Bool :=
  match ofString? s with
  | some t => (t.language.length == 2 || t.language.length == 3) && t.toChars == s.toList
  | none => false

/-! ## Resolution -/

/-- What stands before the first hyphen of a tag: `en-US` has the language key `en`. -/
def languageKey (tag : String) : String := String.ofList (tag.toList.takeWhile (· != '-'))

/-- The tables to consult, in order, for the language `requested`: its own, that of its language
key, and that of the fallback language, which also stands in where nothing is requested. -/
def resolutionOrder (requested : Option String) (fallback : String) : List String :=
  let tag := requested.getD fallback
  [tag, languageKey tag, fallback]

end LanguageTag

end Phrasebook
