/-!
# Sets of code points as inversion lists

A property of characters is a set of code points, and the sets that matter here are unions of a
few hundred intervals.  An `InversionList` writes such a set as the increasing list of the points
where membership changes: the first point enters the set, the second leaves it, and so on.

`InversionList.contains` decides membership by walking the list and flipping an answer.
-/

namespace Phrasebook.Unicode

/-- A set of code points, given by the points where membership changes, in increasing order. -/
structure InversionList where
  /-- The points where membership changes. -/
  bounds : List Nat

namespace InversionList

/-- Whether an odd number of changes has happened by `n`, for increasing changes. -/
def inside : List Nat → Nat → Bool
  | [], _ => false
  | b :: rest, n => if n < b then false else !inside rest n

/-- Whether the code point `n` belongs to the set. -/
def contains (s : InversionList) (n : Nat) : Bool := inside s.bounds n

/-- Whether the character `c` belongs to the set. -/
def holds (s : InversionList) (c : Char) : Bool := s.contains c.toNat

@[simp] theorem inside_nil (n : Nat) : inside [] n = false := rfl

theorem inside_cons (b n : Nat) (rest : List Nat) :
    inside (b :: rest) n = if n < b then false else !inside rest n := rfl

end InversionList

end Phrasebook.Unicode
