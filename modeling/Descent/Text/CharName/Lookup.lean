import Descent.Text.CharName.Controls
import Descent.Text.CharName.Letters
import Descent.Text.CharName.Symbols

/-!
# Characters by name

The characters that can be asked for by name: Latin, Greek and Cyrillic letters with the signs
among them, punctuation, symbols, control characters, and the ideographs, which are named by their
code points. The case of letters in a name does not matter.
-/

namespace Descent

/-- The runs of code points of the unified ideographs. -/
def ideographRuns : List (Nat × Nat) :=
  [(0x3400, 0x4DBF), (0x4E00, 0x9FFF), (0x20000, 0x2A6DF), (0x2A700, 0x2B738),
    (0x2B740, 0x2B81D), (0x2B820, 0x2CEA1), (0x2CEB0, 0x2EBE0), (0x30000, 0x3134A)]

/-- The value of an upper case hexadecimal digit. -/
def upperHexDigit? (c : Char) : Option Nat :=
  if c.isDigit then some (c.toNat - 48)
  else if 'A' ≤ c && c ≤ 'F' then some (c.toNat - 55)
  else none

/-- The code point of an ideograph that is named by it, in four or five digits. -/
def ideographNamed? (name : String) : Option Nat := do
  let digits ← name.dropPrefix? "CJK UNIFIED IDEOGRAPH-"
  let values ← digits.copy.toList.mapM upperHexDigit?
  let code := values.foldl (fun n d => n * 16 + d) 0
  guard (values.length = 4 || values.length = 5)
  guard (ideographRuns.any fun (first, last) => first ≤ code && code ≤ last)
  return code

/-- The code point of the character with a name. -/
def characterNamed? (name : String) : Option Nat :=
  let upper := name.map Char.toUpper
  ideographNamed? name <|> nameAliases.lookup upper <|>
    (letterBlocks ++ symbolBlocks).findSome? (·.codeOf? upper)

end Descent
