import Descent.Text.CharSet

/-!
# White space

Two classes of white space: that of all scripts, and the six characters of it that separate
words in plain ASCII text.
-/

namespace Descent

/-- White space of all scripts, with the four information separators. -/
def spaces : CharSet :=
  ⟨[9, 14, 28, 33, 133, 134, 160, 161, 5760, 5761, 8192, 8203, 8232, 8234, 8239, 8240, 8287, 8288,
    12288, 12289]⟩

/-- Whether a character is white space in any script. -/
def isSpace (c : Char) : Bool := spaces.contains c

/-- The ASCII white space: tab, line feed, vertical tab, form feed, carriage return, space. -/
def isAsciiSpace (c : Char) : Bool := (9 ≤ c.toNat && c.toNat ≤ 13) || c == ' '

end Descent
