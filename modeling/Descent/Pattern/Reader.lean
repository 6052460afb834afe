import Descent.Pattern.Escape
import Descent.Pattern.Program
import Descent.Text.Alphanumeric
import Descent.Text.Integer
import Descent.Text.Name
import Descent.Text.Space

/-!
# Reading patterns

From the text of a pattern to its tree. The reader goes from left to right; nesting is bounded
by the number of tokens.
-/

namespace Descent.Pattern

namespace Reader

/-! ## Repetitions -/

/-- No repetition counts as far as this. -/
def countCap : Nat := 4294967295

/-- A bound of a repetition, if it is written. -/
def repetitionBound (digits : List Char) : Reader (Option Nat) := do
  if digits.isEmpty then return none
  if digitLimit < digits.length then throw (.countTooLong digits.length digitLimit)
  let n := numeral 10 digits
  if countCap ≤ n then throw .countTooLarge
  return some n

/-- Reads the bounds of a repetition in braces, whose opening brace has been read. Without bounds
that can be read, nothing is read and the brace is a plain character. -/
def bracedBounds : Reader (Option (Nat × Option Nat)) := do
  let saved ← get
  if (← lookahead) = some (.char '\x7d') then return none
  let lo ← takeAll Char.isDigit
  let hi ← if ← accept ',' then takeAll Char.isDigit else pure lo
  if ← accept '\x7d' then
    let least ← repetitionBound lo
    let most ← repetitionBound hi
    if most.any (· < least.getD 0) then refuse .reversedRepeat saved.index
    return some (least.getD 0, most)
  else
    set saved
    return none

/-- The bounds of a repetition whose first character has been read. -/
def repetitionBounds (c : Char) : Reader (Option (Nat × Option Nat)) := do
  match c with
  | '?' => return some (0, some 1)
  | '*' => return some (0, none)
  | '+' => return some (1, none)
  | _ => bracedBounds

/-- How eagerly a repetition repeats. -/
def greed : Reader Greed := do
  if ← accept '?' then return .reluctant
  if ← accept '+' then return .possessive
  return .greedy

/-- Repeats the last node that was read, the head of `sofar`. The repetition's sign stands at
`sign`. -/
def repeatLast (sofar : List Node) (sign : Nat) (min : Nat) (max : Option Nat) :
    Reader (List Node) := do
  match sofar with
  | [] => refuse .nothingToRepeat sign
  | last :: earlier =>
    if last.isAnchor then refuse .nothingToRepeat sign
    if last.isRepetition then refuse .multipleRepeat sign
    return .repetition (← greed) min max last.unwrapped :: earlier

/-! ## Modes and names -/

/-- The modes that are turned on, and what follows them. -/
def modesOn (c : Char) (on : List Flag) : Nat → Reader (List Flag × Char)
  | 0 => refuseBack (.missing "-, : or )") 0
  | bound + 1 => do
    match Flag.ofLetter? c with
    | none => refuseBack (.missing "-, : or )") 1
    | some flag =>
      if flag = .locale then refuseBack .localeFlag 0
      let on := on ++ [flag]
      if flag.isAlphabet && on.any fun f => f.isAlphabet && f != flag then
        refuseBack .conflictingFlags 0
      match ← token with
      | none => refuseBack (.missing "-, : or )") 0
      | some (.char next) =>
        if [')', '-', ':'].contains next then return (on, next)
        if (Flag.ofLetter? next).isNone then
          refuseBack (if isLetter next then .unknownFlag else .missing "-, : or )") 1
        modesOn next on bound
      | some t => refuseBack (.missing "-, : or )") t.size

/-- The modes that are turned off, up to the colon. -/
def modesOff (off : List Flag) : Nat → Reader (List Flag)
  | 0 => refuseBack (.missing ":") 0
  | bound + 1 => do
    let what := if off.isEmpty then "flag" else ":"
    match ← token with
    | none => refuseBack (.missing what) 0
    | some (.char next) =>
      if next = ':' && !off.isEmpty then return off
      match Flag.ofLetter? next with
      | none =>
        refuseBack (if isLetter next then .unknownFlag else .missing what) 1
      | some flag =>
        if flag.isAlphabet then refuseBack .fixedFlags 0
        modesOff (off ++ [flag]) bound
    | some t => refuseBack (.missing what) t.size

/-- Reads modes whose first character is `c`: those to turn on and off in a group, or nothing when
they are for the whole pattern. -/
def groupModes (c : Char) : Reader (Option (List Flag × List Flag)) := do
  let bound := (← get).rest.length + 1
  let (on, next) ← if c = '-' then pure ([], '-') else modesOn c [] bound
  if next = ')' then
    modify fun s => { s with modes := s.modes ++ on }
    return none
  if on.contains .template then refuseBack .globalFlagOn 1
  let off ← if next = '-' then modesOff [] bound else pure []
  if off.contains .template then refuseBack .globalFlagOff 1
  if on.any off.contains then refuseBack .contradictoryFlags 1
  return some (on, off)

/-- Reads and checks the name of a group up to a terminator. -/
def checkedGroupName (terminator : Char) : Reader String := do
  let name ← groupName terminator
  if !isName name.toList then refuseBack (.badGroupName name) (name.length + 1)
  return name

/-- A reference to a group by name. -/
def namedBackref : Reader Node := do
  let name ← checkedGroupName ')'
  match (← get).names.lookup name with
  | none => refuseBack (.unknownGroupName name) (name.length + 1)
  | some index =>
    if !(← isClosed index) then refuseBack .openGroup (name.length + 1)
    checkLookBehind index
    backrefTo index

/-- No group has a number as large as this. -/
def groupCap : Nat := 1073741823

/-- Reads the group that a condition asks for, by name or number. -/
def conditionGroup : Reader Nat := do
  let name ← groupName ')'
  let offset := name.length + 1
  let index ←
    if isName name.toList then
      match (← get).names.lookup name with
      | none => refuseBack (.unknownGroupName name) offset
      | some index => pure index
    else
      match parseInteger (some digitLimit) name.toList with
      | .ok (.ofNat 0) => refuseBack .badGroupNumber offset
      | .ok (.ofNat n) =>
        if groupCap ≤ n then refuseBack (.invalidGroup n) offset
        let position := (← here) - offset
        modify fun s => { s with conditions := s.conditions ++ [(n, position)] }
        pure n
      | _ => refuseBack (.badGroupName name) offset
  checkLookBehind index
  return index

/-- Skips a comment that began at `start`, up to its parenthesis. -/
def comment (start : Nat) : Nat → Reader Unit
  | 0 => refuse .unterminatedComment start
  | bound + 1 => do
    match ← token with
    | none => refuse .unterminatedComment start
    | some t => if t = .char ')' then return () else comment start bound

/-- Skips the rest of a line. -/
def restOfLine : Nat → Reader Unit
  | 0 => return ()
  | bound + 1 => do
    match ← token with
    | none => return ()
    | some t => if t = .char '\n' then return () else restOfLine bound

/-! ## Sequences and groups -/

/-- What an opening parenthesis begins. -/
inductive Opening where
  /-- A group with a number, and perhaps a name. -/
  | capture (name : Option String)
  /-- A group without number, with modes turned on and off. -/
  | plain (on off : List Flag)
  /-- A group that is matched in the first way only. -/
  | atomic
  /-- A condition on what follows or stands before. -/
  | look (behind negated : Bool)
  /-- A choice by whether a group has matched. -/
  | conditional (group : Nat)
  /-- A reference to a group. -/
  | reference (node : Node)
  /-- Modes for the whole pattern. -/
  | wholeModes
  /-- A comment. -/
  | comment

/-- Reads what follows an opening parenthesis at `start` and a question mark and the letter that
announces names. -/
def namedOpening : Reader Opening := do
  if ← accept '<' then return .capture (some (← checkedGroupName '>'))
  if ← accept '=' then return .reference (← namedBackref)
  match ← token with
  | none => refuseBack .unexpectedEnd 0
  | some t => refuseBack (.unknownExtension ("P" ++ t.text)) (t.size + 2)

/-- Reads what follows an opening parenthesis, a question mark and a less-than sign. -/
def lookBehindOpening : Reader Opening := do
  match ← token with
  | none => refuseBack .unexpectedEnd 0
  | some (.char '=') => return .look true false
  | some (.char '!') => return .look true true
  | some t => refuseBack (.unknownExtension ("<" ++ t.text)) (t.size + 2)

/-- Reads what an opening parenthesis at `start` begins. -/
def opening (start : Nat) : Reader Opening := do
  if !(← accept '?') then return .capture none
  match ← token with
  | none => refuseBack .unexpectedEnd 0
  | some (.char 'P') => namedOpening
  | some (.char ':') => return .plain [] []
  | some (.char '#') =>
    comment start ((← get).rest.length + 1)
    return .comment
  | some (.char '=') => return .look false false
  | some (.char '!') => return .look false true
  | some (.char '<') => lookBehindOpening
  | some (.char '(') => return .conditional (← conditionGroup)
  | some (.char '>') => return .atomic
  | some t =>
    match t with
    | .char c =>
      if c = '-' || (Flag.ofLetter? c).isSome then
        match ← groupModes c with
        | none => return .wholeModes
        | some (on, off) => return .plain on off
      else refuseBack (.unknownExtension t.text) (t.size + 1)
    | _ => refuseBack (.unknownExtension t.text) (t.size + 1)

/-- Reads the closing parenthesis of a group that began at `start`. -/
def closing (start : Nat) : Reader Unit := do
  if !(← accept ')') then refuse .unterminatedGroup start

/-- The node of a single token that is neither a repetition nor a parenthesis nor a bracket. -/
def atom : Token → Reader Node
  | .escape c => escape c
  | .char '.' => return .any
  | .char '^' => return .anchor .lineStart
  | .char '$' => return .anchor .lineEnd
  | .char c => return .char false c.toNat
  | .danglingBackslash => refuseBack .trailingBackslash 1

/-- Whether a character may begin a repetition. -/
def isRepetitionSign (c : Char) : Bool := ['*', '+', '?', '\x7b'].contains c

/-- Whether the whole pattern is in the verbose mode by now. -/
def isVerbose : Reader Bool := return (← get).modes.contains .verbose

/-- The nodes of a sequence that has been read in reverse. -/
def inOrder (sofar : List Node) : List Node := sofar.reverse.flatMap Node.unwrapped

mutual

/-- Reads alternatives, up to a closing parenthesis or the end. In the verbose mode spaces and
comments are skipped. -/
def alternatives (top verbose : Bool) (branches : List (List Node)) : Nat → Reader (List Node)
  | 0 => refuseBack .unexpectedEnd 0
  | depth + 1 => do
    let branch ← sequence (top && branches.isEmpty) verbose [] depth
    let branches := branches ++ [branch]
    if ← accept '|' then
      let whole ← isVerbose
      alternatives top (if top then whole else verbose) branches depth
    else return joinBranches branches

/-- Reads nodes one after another, up to a bar, a closing parenthesis or the end. The nodes read
so far are given in reverse. Modes for the whole pattern stand before its first node. -/
def sequence (first verbose : Bool) (sofar : List Node) : Nat → Reader (List Node)
  | 0 => refuseBack .unexpectedEnd 0
  | depth + 1 => do
    match ← lookahead with
    | none => return inOrder sofar
    | some (.char '|') => return inOrder sofar
    | some (.char ')') => return inOrder sofar
    | some this =>
      let start ← here
      let _ ← token
      match this with
      | .char c =>
        if verbose && isAsciiSpace c then sequence first verbose sofar depth
        else if verbose && c = '#' then
          restOfLine ((← get).rest.length + 1)
          sequence first verbose sofar depth
        else if c = '[' then
          let node ← charSet
          sequence first verbose (node :: sofar) depth
        else if isRepetitionSign c then
          match ← repetitionBounds c with
          | none =>
            let node ← atom this
            sequence first verbose (node :: sofar) depth
          | some (min, max) =>
            let nodes ← repeatLast sofar start min max
            sequence first verbose nodes depth
        else if c = '(' then
          match ← opening start with
          | .wholeModes =>
            if !first || !sofar.isEmpty then refuse .misplacedFlags start
            sequence first (← isVerbose) sofar depth
          | .comment => sequence first verbose sofar depth
          | kind =>
            let node ← group verbose start kind depth
            sequence first verbose (node :: sofar) depth
        else
          let node ← atom this
          sequence first verbose (node :: sofar) depth
      | _ =>
        let node ← atom this
        sequence first verbose (node :: sofar) depth

/-- Reads what stands in a parenthesis, and the closing one. -/
def group (verbose : Bool) (start : Nat) (kind : Opening) : Nat → Reader Node
  | 0 => refuseBack .unexpectedEnd 0
  | depth + 1 => do
    match kind with
    | .capture name =>
      let index ← openGroup name
      let body ← alternatives false verbose [] depth
      closing start
      closeGroup index (widthOf body)
      return .group (some index) [] [] body
    | .plain on off =>
      let inner := (verbose || on.contains .verbose) && !off.contains .verbose
      let body ← alternatives false inner [] depth
      closing start
      return .group none on off body
    | .atomic =>
      let body ← alternatives false verbose [] depth
      closing start
      return .atomic body
    | .look behind negated =>
      let outer := (← get).lookBehind
      if behind && outer.isNone then
        let first ← groupCount
        modify fun s => { s with lookBehind := some first }
      let body ← alternatives false verbose [] depth
      if behind && outer.isNone then modify fun s => { s with lookBehind := none }
      closing start
      return .look behind negated body
    | .conditional index =>
      let yes ← sequence false verbose [] depth
      let no ←
        if ← accept '|' then
          let no ← sequence false verbose [] depth
          if (← lookahead) = some (.char '|') then refuseBack .tooManyBranches 0
          pure (some no)
        else pure none
      closing start
      return .conditional index yes no
    | .reference node => return node
    | .wholeModes => return .group none [] [] []
    | .comment => return .group none [] [] []

end

/-- Reads a whole pattern: its tree, and its modes. -/
def whole : Reader (List Node × List Flag) := do
  noticeDangling
  let s ← get
  let nodes ← alternatives true (← isVerbose) [] (3 * s.rest.length + 8)
  let s ← get
  if s.modes.contains .ascii && s.modes.contains .unicode then throw .contradictoryModes
  if !s.rest.isEmpty then refuseBack .unbalanced 0
  match s.conditions.find? fun c => s.widths.length < c.1 with
  | some (index, position) => refuse (.invalidGroup index) position
  | none => return (nodes, s.modes)

end Reader

/-- The tree of a pattern in the given modes, and the modes with those that the pattern turns on
for all of it. -/
def read (pattern : List Char) (modes : List Flag) : Except Error (List Node × List Flag) :=
  let reading : Reading :=
    { rest := tokens pattern, index := 0, modes, widths := [], names := [], lookBehind := none,
      conditions := [] }
  Reader.whole.run' reading

/-- The program of a pattern in the given modes. -/
def compile (pattern : List Char) (modes : List Flag) : Except Error Program := do
  let (nodes, modes) ← read pattern modes
  Program.ofTree nodes modes

end Descent.Pattern
