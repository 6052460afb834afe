/-!
# Blocks of character names

The names of characters that follow each other.
-/

namespace Descent

/-- The names of the characters from `first` on; a code point without character has none. -/
structure NameBlock where
  first : Nat
  names : List String

/-- The code point of the character with a name, if it is in the block. -/
def NameBlock.codeOf? (b : NameBlock) (name : String) : Option Nat :=
  if name.isEmpty then none else (b.names.idxOf? name).map (b.first + ·)

end Descent
