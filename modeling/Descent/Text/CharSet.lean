/-!
# Sets of characters

A set of characters given by the code points at which membership changes. The table of a
property of characters is such a list, and membership is decided by walking it.
-/

namespace Descent

/-- A set of characters: outside before the first of `changes`, which increase, inside from the
first to the second, outside from there to the third, and so on. -/
structure CharSet where
  changes : List Nat

namespace CharSet

/-- Whether a code point lies inside, by the changes that are at or before it. -/
def holds : List Nat → Nat → Bool
  | [], _ => false
  | a :: rest, n => decide (a ≤ n) && !holds rest n

/-- Whether a character is in the set. -/
def contains (s : CharSet) (c : Char) : Bool := holds s.changes c.toNat

end CharSet

end Descent
