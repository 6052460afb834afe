import Descent.Text.Integer
import Descent.Text.Quoted

/-!
# Objects of the interchange notation

Flat objects whose members are texts and integers, written on one line. A text escapes the
quotation mark, the backslash and the control characters below the space, and nothing else.
-/

namespace Descent

/-- A member's value. -/
inductive JsonScalar where
  | text (value : String)
  | integer (value : Int)
deriving DecidableEq

namespace JsonScalar

/-- A character as it stands inside a text. -/
def escapedChar (c : Char) : List Char :=
  if c == '"' || c == '\\' then ['\\', c]
  else if c == '\n' then ['\\', 'n']
  else if c == '\r' then ['\\', 'r']
  else if c == '\t' then ['\\', 't']
  else if c == '\x08' then ['\\', 'b']
  else if c == '\x0c' then ['\\', 'f']
  else if c.toNat < 0x20 then '\\' :: 'u' :: hexPadded 4 c.toNat
  else [c]

/-- A text between its quotation marks. -/
def textLiteral (s : String) : List Char :=
  '"' :: s.toList.flatMap escapedChar ++ ['"']

/-- A value as it is written, with all digits of an integer. -/
def written : JsonScalar → List Char
  | .text s => textLiteral s
  | .integer n => (toString n).toList

/-- The digits of a value that is an integer. -/
def digits : JsonScalar → Nat
  | .text _ => 0
  | .integer n => digitCount n

end JsonScalar

/-- The members of an object, each a name, a colon and a value, with commas between them. -/
def jsonMembers (members : List (String × JsonScalar)) : List Char :=
  [',', ' '].intercalate
    (members.map fun m => JsonScalar.textLiteral m.1 ++ ':' :: ' ' :: m.2.written)

/-- The most digits of an integer among the members of an object. -/
def jsonDigits (members : List (String × JsonScalar)) : Nat :=
  (members.map fun m => m.2.digits).foldr max 0

/-- Each integer among the members has at most that many digits. -/
theorem digits_le_jsonDigits {members : List (String × JsonScalar)} {m : String × JsonScalar}
    (h : m ∈ members) : m.2.digits ≤ jsonDigits members := by
  induction members with
  | nil => cases h
  | cons first rest ih =>
    show m.2.digits ≤ max first.2.digits (jsonDigits rest)
    rcases List.mem_cons.1 h with rfl | h
    · exact Nat.le_max_left _ _
    · exact Nat.le_trans (ih h) (Nat.le_max_right _ _)

/-- An object on one line. -/
def jsonObject (members : List (String × JsonScalar)) : String :=
  String.ofList ('\x7b' :: jsonMembers members ++ ['\x7d'])

end Descent
