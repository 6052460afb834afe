import Descent.Pattern.Tree
import Descent.Text.Quoted

/-!
# Unreadable patterns

Why a pattern cannot be read, and where.
-/

namespace Descent.Pattern

/-- Why a pattern cannot be read. -/
inductive Reason where
  | trailingBackslash
  | badEscape (escape : String)
  | incompleteEscape (escape : String)
  | octalEscape (escape : String)
  | unterminatedSet
  | badRange (first last : String)
  | nothingToRepeat
  | multipleRepeat
  | reversedRepeat
  | unbalanced
  | unterminatedGroup
  | unterminatedComment
  | unexpectedEnd
  | unknownExtension (extension : String)
  | missing (what : String)
  | unterminatedName (terminator : Char)
  | badGroupName (name : String)
  | unknownGroupName (name : String)
  | redefinedGroup (name : String) (index earlier : Nat)
  | badGroupNumber
  | invalidGroup (index : Nat)
  | openGroup
  | lookBehindGroup
  | tooManyBranches
  | misplacedFlags
  | unknownFlag
  | localeFlag
  | conflictingFlags
  | fixedFlags
  | contradictoryFlags
  | globalFlagOn
  | globalFlagOff
  | undefinedCharacter (name : String)
  | templateRepetition (greed : Greed)
  | variableLookBehind
deriving DecidableEq

/-- The name of a repetition in messages. -/
def Greed.operatorName : Greed → String
  | .greedy => "MAX_REPEAT"
  | .reluctant => "MIN_REPEAT"
  | .possessive => "POSSESSIVE_REPEAT"

/-- What is said of a reason. -/
def Reason.text : Reason → String
  | .trailingBackslash => "bad escape (end of pattern)"
  | .badEscape escape => "bad escape " ++ escape
  | .incompleteEscape escape => "incomplete escape " ++ escape
  | .octalEscape escape => s!"octal escape value {escape} outside of range 0-0o377"
  | .unterminatedSet => "unterminated character set"
  | .badRange first last => s!"bad character range {first}-{last}"
  | .nothingToRepeat => "nothing to repeat"
  | .multipleRepeat => "multiple repeat"
  | .reversedRepeat => "min repeat greater than max repeat"
  | .unbalanced => "unbalanced parenthesis"
  | .unterminatedGroup => "missing ), unterminated subpattern"
  | .unterminatedComment => "missing ), unterminated comment"
  | .unexpectedEnd => "unexpected end of pattern"
  | .unknownExtension extension => "unknown extension ?" ++ extension
  | .missing what => "missing " ++ what
  | .unterminatedName terminator => s!"missing {terminator}, unterminated name"
  | .badGroupName name => "bad character in group name " ++ quoted name
  | .unknownGroupName name => "unknown group name " ++ quoted name
  | .redefinedGroup name index earlier =>
    s!"redefinition of group name {quoted name} as group {index}; was group {earlier}"
  | .badGroupNumber => "bad group number"
  | .invalidGroup index => s!"invalid group reference {index}"
  | .openGroup => "cannot refer to an open group"
  | .lookBehindGroup => "cannot refer to group defined in the same lookbehind subpattern"
  | .tooManyBranches => "conditional backref with more than two branches"
  | .misplacedFlags => "global flags not at the start of the expression"
  | .unknownFlag => "unknown flag"
  | .localeFlag => "bad inline flags: cannot use 'L' flag with a str pattern"
  | .conflictingFlags => "bad inline flags: flags 'a', 'u' and 'L' are incompatible"
  | .fixedFlags => "bad inline flags: cannot turn off flags 'a', 'u' and 'L'"
  | .contradictoryFlags => "bad inline flags: flag turned on and off"
  | .globalFlagOn => "bad inline flags: cannot turn on global flag"
  | .globalFlagOff => "bad inline flags: cannot turn off global flag"
  | .undefinedCharacter name => "undefined character name " ++ quoted name
  | .templateRepetition greed => "internal: unsupported template operator " ++ greed.operatorName
  | .variableLookBehind => "look-behind requires fixed-width pattern"

/-- What is wrong with a pattern. -/
inductive Error where
  /-- It cannot be read, for a reason that has a position or concerns the whole. -/
  | unreadable (reason : Reason) (position : Option Nat)
  /-- A repetition's count is too large. -/
  | countTooLarge
  /-- A repetition's count has too many digits. -/
  | countTooLong (digits limit : Nat)
  /-- The flags given with the pattern contradict those inside it. -/
  | contradictoryModes
  /-- A condition on what stands before looks too far back. -/
  | lookBehindTooWide
deriving DecidableEq

/-- A position in a pattern, with line and column if the pattern has several lines. -/
def positionText (pattern : List Char) (position : Nat) : String :=
  let sofar := pattern.take position
  let line := sofar.count '\n' + 1
  let column := position - sofar.length + (sofar.reverse.takeWhile (· != '\n')).length + 1
  if pattern.contains '\n' then s!" at position {position} (line {line}, column {column})"
  else s!" at position {position}"

/-- The reason with its position in the pattern. -/
def explanation (pattern : List Char) (reason : Reason) (position : Option Nat) : String :=
  reason.text ++ (position.map (positionText pattern)).getD ""

end Descent.Pattern
