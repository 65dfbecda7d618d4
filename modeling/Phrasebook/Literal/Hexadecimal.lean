/-!
# Hexadecimal numbers in escapes

Escapes name a character by its code point.  They are written in small hexadecimal digits, either
as many as it takes (`hexDigits`) or exactly four (`hexDigits4`); they are read in capitals too
(`hexNumber?`, `hexChar?`).
-/

namespace Phrasebook.Literal

/-! ## Writing -/

/-- The hexadecimal digits of `n`, the most significant first, without leading zeros. -/
def hexDigits (n : Nat) : List Char := Nat.toDigits 16 n

/-- The last four hexadecimal digits of `n`, the most significant first. -/
def hexDigits4 (n : Nat) : List Char :=
  [n / 0x1000 % 16, n / 0x100 % 16, n / 0x10 % 16, n % 16].map Nat.digitChar

/-! ## Reading -/

/-- The value of a hexadecimal digit. -/
def hexValue? (c : Char) : Option Nat :=
  if '0' ≤ c ∧ c ≤ '9' then some (c.toNat - 48)
  else if 'a' ≤ c ∧ c ≤ 'f' then some (c.toNat - 87)
  else if 'A' ≤ c ∧ c ≤ 'F' then some (c.toNat - 55)
  else none

/-- The number that hexadecimal digits write, the most significant first. -/
def hexNumber? (ds : List Char) : Option Nat :=
  ds.foldlM (fun n d => (hexValue? d).map (n * 16 + ·)) 0

/-- The character whose code point `n` is; halves of surrogate pairs are no characters. -/
def charOfCode? (n : Nat) : Option Char :=
  if (0xD800 ≤ n ∧ n < 0xE000) ∨ 0x10FFFF < n then none else some (Char.ofNat n)

/-- The character that the first `count` of `cs` name as hexadecimal digits, with the characters
behind them. -/
def hexChar? (count : Nat) (cs : List Char) : Option (Char × List Char) :=
  if cs.length < count then none
  else ((hexNumber? (cs.take count)).bind charOfCode?).map fun c => (c, cs.drop count)

end Phrasebook.Literal
