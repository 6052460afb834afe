/-!
# Reading the interchange notation

The whole grammar of the notation in which errors are told to other programs: texts with every
kind of escape, numbers with fraction and power of ten, lists and objects, and white space between
all of them. Each function here reads what it is about from the beginning of a text and returns it
with what is left, or nothing where the grammar does not allow what stands there.
-/

namespace Descent

/-- A value of the interchange notation. A number is the product of `mantissa` and the power of ten
with `exponent`. -/
inductive Json where
  | null
  | bool (value : Bool)
  | number (mantissa exponent : Int)
  | text (value : String)
  | list (items : List Json)
  | object (members : List (String × Json))

namespace Json

/-! ## White space -/

/-- White space between the parts of a value. -/
def separates (c : Char) : Bool := c == ' ' || c == '\t' || c == '\n' || c == '\r'

/-- What is left after white space. -/
def skipped (cs : List Char) : List Char := cs.dropWhile separates

/-! ## Texts -/

/-- The value of a hexadecimal digit. -/
def hexValue? (c : Char) : Option Nat :=
  if '0' ≤ c && c ≤ '9' then some (c.toNat - 48)
  else if 'a' ≤ c && c ≤ 'f' then some (c.toNat - 87)
  else if 'A' ≤ c && c ≤ 'F' then some (c.toNat - 55)
  else none

/-- A number of sixteen bits in four hexadecimal digits. -/
def readUnit : List Char → Option (Nat × List Char)
  | a :: b :: c :: d :: rest => do
    let n ← [a, b, c, d].foldlM (fun n digit => (hexValue? digit).map (16 * n + ·)) 0
    return (n, rest)
  | _ => none

/-- A character by its number. Beyond sixteen bits it takes two numbers: the first, a high
surrogate, has the upper bits, and the second, a low one, the lower bits. One without the other
stands for no character. -/
def readCodePoint (cs : List Char) : Option (Char × List Char) := do
  let (high, rest) ← readUnit cs
  if 0xd800 ≤ high && high < 0xdc00 then
    match rest with
    | '\\' :: 'u' :: rest => do
      let (low, rest) ← readUnit rest
      if 0xdc00 ≤ low && low < 0xe000 then
        return (Char.ofNat (0x10000 + (high - 0xd800) * 0x400 + (low - 0xdc00)), rest)
      else none
    | _ => none
  else if 0xdc00 ≤ high && high < 0xe000 then none
  else return (Char.ofNat high, rest)

/-- What stands after a backslash. -/
def readEscape : List Char → Option (Char × List Char)
  | '"' :: rest => some ('"', rest)
  | '\\' :: rest => some ('\\', rest)
  | '/' :: rest => some ('/', rest)
  | 'b' :: rest => some ('\x08', rest)
  | 'f' :: rest => some ('\x0c', rest)
  | 'n' :: rest => some ('\n', rest)
  | 'r' :: rest => some ('\r', rest)
  | 't' :: rest => some ('\t', rest)
  | 'u' :: rest => readCodePoint rest
  | _ => none

/-- A character inside a text. Control characters have to be escaped. -/
def readChar : List Char → Option (Char × List Char)
  | '\\' :: rest => readEscape rest
  | c :: rest => if c.toNat < 0x20 then none else some (c, rest)
  | [] => none

/-- The characters up to the closing quotation mark, fewer than `most`. -/
def readChars : Nat → List Char → Option (List Char × List Char)
  | 0, _ => none
  | _ + 1, '"' :: rest => some ([], rest)
  | most + 1, cs => do
    let (c, rest) ← readChar cs
    let (more, rest) ← readChars most rest
    return (c :: more, rest)

/-- A text after its opening quotation mark. -/
def readText (cs : List Char) : Option (String × List Char) := do
  let (chars, rest) ← readChars (cs.length + 1) cs
  return (String.ofList chars, rest)

/-! ## Numbers -/

/-- One digit or more. -/
def readNumeral (cs : List Char) : Option (List Char × List Char) :=
  if (cs.takeWhile Char.isDigit).isEmpty then none
  else some (cs.takeWhile Char.isDigit, cs.dropWhile Char.isDigit)

/-- The digits before the point. They begin with a zero only if there is no other digit. -/
def readWhole (cs : List Char) : Option (List Char × List Char) := do
  let (digits, rest) ← readNumeral cs
  if digits.head? = some '0' ∧ 1 < digits.length then none else return (digits, rest)

/-- The digits after the point, if there is one. -/
def readFraction : List Char → Option (List Char × List Char)
  | '.' :: rest => readNumeral rest
  | rest => some ([], rest)

/-- An integer with an optional sign. -/
def readPower : List Char → Option (Int × List Char)
  | '-' :: rest => do
    let (digits, rest) ← readNumeral rest
    return (-(Nat.ofDigitChars 10 digits 0 : Int), rest)
  | '+' :: rest => do
    let (digits, rest) ← readNumeral rest
    return ((Nat.ofDigitChars 10 digits 0 : Int), rest)
  | rest => do
    let (digits, rest) ← readNumeral rest
    return ((Nat.ofDigitChars 10 digits 0 : Int), rest)

/-- The power of ten, if one is given. -/
def readExponent : List Char → Option (Int × List Char)
  | 'e' :: rest => readPower rest
  | 'E' :: rest => readPower rest
  | rest => some (0, rest)

/-- A number without its sign: the digits before and after the point, and the power of ten. -/
def readMagnitude (cs : List Char) : Option ((Nat × Int) × List Char) := do
  let (whole, rest) ← readWhole cs
  let (fraction, rest) ← readFraction rest
  let (power, rest) ← readExponent rest
  return ((Nat.ofDigitChars 10 (whole ++ fraction) 0, power - fraction.length), rest)

/-- A number. -/
def readNumber : List Char → Option (Json × List Char)
  | '-' :: rest => do
    let ((mantissa, exponent), rest) ← readMagnitude rest
    return (.number (-(mantissa : Int)) exponent, rest)
  | cs => do
    let ((mantissa, exponent), rest) ← readMagnitude cs
    return (.number mantissa exponent, rest)

/-! ## Values -/

/-- The name of a member, and the colon after it. -/
def readName : List Char → Option (String × List Char)
  | '"' :: rest => do
    let (name, rest) ← readText rest
    match skipped rest with
    | ':' :: rest => return (name, rest)
    | _ => none
  | _ => none

mutual

/-- A value. The first argument bounds how deeply its parts are nested and how many there are. -/
def readValue : Nat → List Char → Option (Json × List Char)
  | 0, _ => none
  | _ + 1, 'n' :: 'u' :: 'l' :: 'l' :: rest => some (.null, rest)
  | _ + 1, 't' :: 'r' :: 'u' :: 'e' :: rest => some (.bool true, rest)
  | _ + 1, 'f' :: 'a' :: 'l' :: 's' :: 'e' :: rest => some (.bool false, rest)
  | _ + 1, '"' :: rest => do
    let (s, rest) ← readText rest
    return (.text s, rest)
  | most + 1, '[' :: rest =>
    match skipped rest with
    | ']' :: rest => some (.list [], rest)
    | rest => do
      let (items, rest) ← readItems most rest
      return (.list items, rest)
  | most + 1, '\x7b' :: rest =>
    match skipped rest with
    | '\x7d' :: rest => some (.object [], rest)
    | rest => do
      let (members, rest) ← readMembers most rest
      return (.object members, rest)
  | _ + 1, cs => readNumber cs

/-- The values of a list up to its closing bracket, at least one. -/
def readItems : Nat → List Char → Option (List Json × List Char)
  | 0, _ => none
  | most + 1, cs => do
    let (item, rest) ← readValue most (skipped cs)
    match skipped rest with
    | ',' :: rest => do
      let (items, rest) ← readItems most rest
      return (item :: items, rest)
    | ']' :: rest => return ([item], rest)
    | _ => none

/-- The members of an object up to its closing brace, at least one. -/
def readMembers : Nat → List Char → Option (List (String × Json) × List Char)
  | 0, _ => none
  | most + 1, cs => do
    let (name, rest) ← readName (skipped cs)
    let (value, rest) ← readValue most (skipped rest)
    match skipped rest with
    | ',' :: rest => do
      let (members, rest) ← readMembers most rest
      return ((name, value) :: members, rest)
    | '\x7d' :: rest => return ([(name, value)], rest)
    | _ => none

end

/-- The value that a text stands for, if it stands for one. The bound is never reached, as of three
calls one inside the other the last one begins at least a character further on. -/
def decode (cs : List Char) : Option Json := do
  let (value, rest) ← readValue (2 * cs.length + 2) (skipped cs)
  if (skipped rest).isEmpty then return value else none

example : decode " [-2.50e3, \"\\u00e9\\ud83d\\ude00\\/\", [], true]".toList =
    some (.list [.number (-250) 1, .text "é😀/", .list [], .bool true]) := by cbv

example : decode "[01]".toList = none := by cbv

end Json

end Descent
