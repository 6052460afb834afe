import Descent.Pattern.Error

/-!
# Reading a pattern token by token

A pattern is read as characters and escapes. The reader looks one token ahead, so a backslash at
the very end is noticed as soon as the token before it has been read.
-/

namespace Descent.Pattern

/-! ## Tokens -/

/-- A character of a pattern, one after a backslash, or a backslash at the end. -/
inductive Token where
  | char (c : Char)
  | escape (c : Char)
  | danglingBackslash
deriving DecidableEq

namespace Token

/-- A token as it is written. -/
def text : Token → String
  | .char c => String.ofList [c]
  | .escape c => String.ofList ['\\', c]
  | .danglingBackslash => "\\"

/-- The number of characters of a token. -/
def size : Token → Nat
  | .char _ => 1
  | .escape _ => 2
  | .danglingBackslash => 1

end Token

/-- The tokens of a pattern. -/
def tokens : List Char → List Token
  | [] => []
  | ['\\'] => [.danglingBackslash]
  | '\\' :: c :: rest => .escape c :: tokens rest
  | c :: rest => .char c :: tokens rest

/-! ## The reader -/

/-- What is left to read, and what is known of the groups so far. -/
structure Reading where
  /-- The tokens that are left. -/
  rest : List Token
  /-- The position of the next token. -/
  index : Nat
  /-- The modes of the whole pattern. -/
  modes : List Flag
  /-- The widths of the groups from number one on; an open group has none yet. -/
  widths : List (Option Width)
  /-- The numbers of the groups that have names. -/
  names : List (String × Nat)
  /-- Inside a condition on what stands before, the number of its first group. -/
  lookBehind : Option Nat
  /-- The groups that conditions ask for by number, and where. -/
  conditions : List (Nat × Nat)

/-- Reads a part of a pattern. -/
abbrev Reader := StateT Reading (Except Error)

namespace Reader

variable {α : Type}

/-- Fails for a reason at a position. -/
def refuse (reason : Reason) (position : Nat) : Reader α :=
  throw (.unreadable reason (some position))

/-- The position of the next token. -/
def here : Reader Nat := return (← get).index

/-- Fails for a reason, so many characters before the next token. -/
def refuseBack (reason : Reason) (offset : Nat) : Reader α := do
  refuse reason ((← here) - offset)

/-- The next token. -/
def lookahead : Reader (Option Token) := return (← get).rest.head?

/-- Notices a backslash at the end when it is the next token. -/
def noticeDangling : Reader Unit := do
  if (← lookahead) = some .danglingBackslash then refuse .trailingBackslash (← here)

/-- Reads the next token. -/
def token : Reader (Option Token) := do
  let s ← get
  match s.rest with
  | [] => return none
  | t :: rest =>
    set { s with rest := rest, index := s.index + t.size }
    noticeDangling
    return some t

/-- Reads the given character if it is next. -/
def accept (c : Char) : Reader Bool := do
  if (← lookahead) = some (.char c) then
    let _ ← token
    return true
  else return false

/-- Reads at most `count` characters that satisfy a condition. -/
def takeUpTo (holds : Char → Bool) : Nat → Reader (List Char)
  | 0 => return []
  | count + 1 => do
    match ← lookahead with
    | some (.char c) =>
      if holds c then
        let _ ← token
        return c :: (← takeUpTo holds count)
      else return []
    | _ => return []

/-- Reads all characters that satisfy a condition. -/
def takeAll (holds : Char → Bool) : Reader (List Char) := do
  takeUpTo holds (← get).rest.length

/-- Reads a name up to a terminator, with a bound on the tokens that no pattern reaches. -/
def nameUntil (terminator : Char) (what : String) (sofar : String) : Nat → Reader String
  | 0 => refuseBack (.missing what) 0
  | bound + 1 => do
    match ← token with
    | none =>
      if sofar.isEmpty then refuseBack (.missing what) 0
      else refuseBack (.unterminatedName terminator) sofar.length
    | some t =>
      if t = .char terminator then
        if sofar.isEmpty then refuseBack (.missing what) 1 else return sofar
      else nameUntil terminator what (sofar ++ t.text) bound

/-- Reads the name of a group up to a terminator. -/
def groupName (terminator : Char) : Reader String := do
  nameUntil terminator "group name" "" ((← get).rest.length + 1)

/-! ## Groups -/

/-- The number that the next group will have. -/
def groupCount : Reader Nat := return (← get).widths.length + 1

/-- Whether a group with the number is complete. -/
def isClosed (index : Nat) : Reader Bool := do
  return index ≠ 0 && ((← get).widths[index - 1]?.bind id).isSome

/-- Inside a condition on what stands before, only groups complete before it can be used. -/
def checkLookBehind (index : Nat) : Reader Unit := do
  match (← get).lookBehind with
  | none => return ()
  | some first =>
    if !(← isClosed index) then refuseBack .openGroup 0
    if first ≤ index then refuseBack .lookBehindGroup 0

/-- Begins a group and gives its number. -/
def openGroup (name : Option String) : Reader Nat := do
  let index ← groupCount
  match name with
  | none => modify fun s => { s with widths := s.widths ++ [none] }
  | some n =>
    match (← get).names.lookup n with
    | some earlier => refuseBack (.redefinedGroup n index earlier) (n.length + 1)
    | none =>
      modify fun s =>
        { s with widths := s.widths ++ [none], names := (n, index) :: s.names }
  return index

/-- Ends a group, whose width is known now. -/
def closeGroup (index : Nat) (width : Width) : Reader Unit :=
  modify fun s => { s with widths := s.widths.set (index - 1) (some width) }

/-- A reference to a complete group. -/
def backrefTo (index : Nat) : Reader Node := do
  return .backref index (((← get).widths[index - 1]?.bind id).getD ⟨0, 0⟩)

end Reader

end Descent.Pattern
