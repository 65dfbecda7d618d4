import Phrasebook.Unicode.InversionList

/-!
# White space

The characters with the property `White_Space` (Unicode 17), and `trim`, which drops them from
both ends of a text.
-/

namespace Phrasebook.Unicode

/-- Characters that separate words or lines. -/
def whiteSpaceSet : InversionList := ⟨[
  0x9, 0xE, 0x20, 0x21, 0x85, 0x86, 0xA0, 0xA1, 0x1680, 0x1681, 0x2000, 0x200B, 0x2028, 0x202A,
  0x202F, 0x2030, 0x205F, 0x2060, 0x3000, 0x3001]⟩

/-- Whether `c` is white space. -/
def isWhiteSpace (c : Char) : Bool := whiteSpaceSet.holds c

/-- `cs` without the white space at its two ends. -/
def trimChars (cs : List Char) : List Char :=
  ((cs.dropWhile isWhiteSpace).reverse.dropWhile isWhiteSpace).reverse

/-- `s` without the white space at its two ends. -/
def trim (s : String) : String := String.ofList (trimChars s.toList)

/-- Whether `s` has nothing but white space. -/
def isBlank (s : String) : Bool := s.toList.all isWhiteSpace

end Phrasebook.Unicode
