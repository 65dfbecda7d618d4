/-!
# Numbers written in decimal digits

`Decimal.value` is the number that a run of ASCII digits writes, the most significant first.
-/

namespace Phrasebook.Decimal

/-- The number that ASCII digits write, behind digits with the value `n`. -/
def valueFrom (n : Nat) (digits : List Char) : Nat :=
  digits.foldl (fun n c => n * 10 + (c.toNat - 48)) n

/-- The number that ASCII digits write. -/
def value (digits : List Char) : Nat := valueFrom 0 digits

@[simp] theorem value_nil : value [] = 0 := rfl

end Phrasebook.Decimal
