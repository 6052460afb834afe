import Descent.Pattern.Token
import Descent.Text.CharName.Lookup

/-!
# Escapes and sets of characters

What a backslash and the characters after it stand for, within sets of characters and outside
them, and how a set is read.
-/

namespace Descent.Pattern

namespace Reader

/-! ## Escapes -/

/-- The number written by digits in a base. -/
def numeral (base : Nat) (digits : List Char) : Nat :=
  digits.foldl (fun n c =>
    let d :=
      if c.isDigit then c.toNat - 48
      else if 97 ≤ c.toNat then c.toNat - 87
      else c.toNat - 55
    n * base + d) 0

/-- A hexadecimal digit. -/
def isHexDigit (c : Char) : Bool :=
  c.isDigit || ('a' ≤ c && c ≤ 'f') || ('A' ≤ c && c ≤ 'F')

/-- An octal digit. -/
def isOctalDigit (c : Char) : Bool := '0' ≤ c && c ≤ '7'

/-- The escapes that stand for one control character or a backslash. -/
def controlEscape? : Char → Option Nat
  | 'a' => some 7
  | 'f' => some 12
  | 'n' => some 10
  | 'r' => some 13
  | 't' => some 9
  | 'v' => some 11
  | '\\' => some 92
  | _ => none

/-- The escapes that stand for a category of characters. -/
def categoryEscape? : Char → Option SetItem
  | 'd' => some (.category .digit false)
  | 'D' => some (.category .digit true)
  | 's' => some (.category .space false)
  | 'S' => some (.category .space true)
  | 'w' => some (.category .word false)
  | 'W' => some (.category .word true)
  | _ => none

/-- The escapes that are conditions on the position. -/
def anchorEscape? : Char → Option Anchor
  | 'A' => some .textStart
  | 'Z' => some .textEnd
  | 'b' => some (.wordEdge false)
  | 'B' => some (.wordEdge true)
  | _ => none

/-- Reads the digits of a hexadecimal escape, exactly so many. -/
def hexEscape (letter : Char) (count : Nat) : Reader Nat := do
  let digits ← takeUpTo isHexDigit count
  let written := String.ofList ('\\' :: letter :: digits)
  if digits.length ≠ count then refuseBack (.incompleteEscape written) written.length
  let code := numeral 16 digits
  if 0x10FFFF < code then refuseBack (.badEscape written) written.length
  return code

/-- Reads the name of a character in braces. -/
def namedEscape : Reader Nat := do
  if !(← accept '\x7b') then refuseBack (.missing "\x7b") 0
  let name ← nameUntil '\x7d' "character name" "" ((← get).rest.length + 1)
  match characterNamed? name with
  | some code => return code
  | none => refuseBack (.undefinedCharacter name) (name.length + 4)

/-- An escape that stands for a single character and is none of the others. -/
def plainEscape (c : Char) : Reader Nat := do
  match c with
  | 'x' => hexEscape 'x' 2
  | 'u' => hexEscape 'u' 4
  | 'U' => hexEscape 'U' 8
  | 'N' => namedEscape
  | _ =>
    if c.isAlphanum then refuseBack (.badEscape (Token.escape c).text) 2
    return c.toNat

/-- An octal escape whose digits have been read. -/
def octalEscape (digits : List Char) : Reader Nat := do
  let code := numeral 8 digits
  let written := String.ofList ('\\' :: digits)
  if 255 < code then refuseBack (.octalEscape written) written.length
  return code

/-- What an escape stands for within a set of characters. -/
def setEscape (c : Char) : Reader SetItem := do
  match controlEscape? c, categoryEscape? c with
  | some code, _ => return .single code
  | _, some category => return category
  | none, none =>
    if c = 'b' then return .single 8
    else if isOctalDigit c then
      return .single (← octalEscape (c :: (← takeUpTo isOctalDigit 2)))
    else return .single (← plainEscape c)

/-- A reference to a group by number. -/
def numberedGroup (digits : List Char) : Reader Node := do
  let index := numeral 10 digits
  if index < (← groupCount) then
    if !(← isClosed index) then refuseBack .openGroup (digits.length + 1)
    checkLookBehind index
    backrefTo index
  else refuseBack (.invalidGroup index) digits.length

/-- An escape that starts with a digit other than zero: three octal digits are a character, and
anything else is a reference to a group. -/
def digitEscape (c : Char) : Reader Node := do
  match ← takeUpTo Char.isDigit 1 with
  | [] => numberedGroup [c]
  | second =>
    if isOctalDigit c && second.all isOctalDigit then
      match ← takeUpTo isOctalDigit 1 with
      | [] => numberedGroup (c :: second)
      | third => return .char false (← octalEscape (c :: second ++ third))
    else numberedGroup (c :: second)

/-- What an escape stands for outside sets. -/
def escape (c : Char) : Reader Node := do
  match anchorEscape? c, categoryEscape? c, controlEscape? c with
  | some anchor, _, _ => return .anchor anchor
  | _, some category, _ => return .set false [category]
  | _, _, some code => return .char false code
  | none, none, none =>
    if c = '0' then return .char false (← octalEscape (c :: (← takeUpTo isOctalDigit 2)))
    else if c.isDigit then digitEscape c
    else return .char false (← plainEscape c)

/-! ## Sets of characters -/

/-- What a token stands for within a set. -/
def setItem : Token → Reader SetItem
  | .char c => return .single c.toNat
  | .escape c => setEscape c
  | .danglingBackslash => refuseBack .trailingBackslash 1

/-- The node of a set; a single character needs no set. -/
def setNode (negated : Bool) (items : List SetItem) : Node :=
  match items.eraseDups with
  | [.single code] => .char negated code
  | several => .set negated several

/-- Reads the items of a set that began at `start`, up to its bracket. A bracket right at the
start is an item. -/
def setItems (start : Nat) (items : List SetItem) : Nat → Reader (List SetItem)
  | 0 => refuse .unterminatedSet start
  | bound + 1 => do
    match ← token with
    | none => refuse .unterminatedSet start
    | some this =>
      if this = .char ']' && !items.isEmpty then return items
      let first ← setItem this
      if ← accept '-' then
        match ← token with
        | none => refuse .unterminatedSet start
        | some that =>
          if that = .char ']' then return items ++ [first, .single 45]
          let last ← setItem that
          match first, last with
          | .single lo, .single hi =>
            if hi < lo then
              refuseBack (.badRange this.text that.text) (this.size + 1 + that.size)
            setItems start (items ++ [.range lo hi]) bound
          | _, _ => refuseBack (.badRange this.text that.text) (this.size + 1 + that.size)
      else setItems start (items ++ [first]) bound

/-- Reads a set whose opening bracket has been read. -/
def charSet : Reader Node := do
  let start := (← here) - 1
  let negated ← accept '^'
  let items ← setItems start [] ((← get).rest.length + 1)
  return setNode negated items

end Reader

end Descent.Pattern
