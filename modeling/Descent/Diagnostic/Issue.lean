import Descent.Diagnostic.Code
import Descent.Value.Basic

/-!
# Diagnostics and issues

A diagnostic is what is told to the reader: a code, a message and perhaps a hint. An issue is
what went wrong; its diagnostic follows from it, so that every wording stands here once. An issue
with too large an integer in its message cannot be told: whoever reports one looks first at how
many digits it has.
-/

namespace Descent

/-! ## Diagnostics -/

/-- A message with its code, and a hint on how to mend the problem. -/
structure Diagnostic where
  code : Code
  message : String
  hint : Option String
deriving DecidableEq

/-- A diagnostic as it is shown, with all its parts. -/
def Diagnostic.shown (d : Diagnostic) : String :=
  let hint := (d.hint.map quoted).getD "None"
  s!"Diagnostic(code={d.code.shown}, message={quoted d.message}, hint={hint})"

/-! ## Issues -/

/-- What can go wrong: first with a text, then with a rule, and last what is only told. -/
inductive Issue where
  /-- A literal did not match; `found` is what had been read before the mismatch. -/
  | expectedLiteral (literal found : String)
  /-- The text ended inside a literal. -/
  | literalAtEnd (literal : String)
  /-- A pattern did not match the candidate `found`. -/
  | expectedPattern (pattern found : String)
  /-- The text ended where a pattern was to match. -/
  | patternAtEnd (pattern : String)
  /-- The text goes on with `found` where it should end. -/
  | expectedEnd (found : String)
  /-- No alternative matched. -/
  | noMatch (labels : List String)
  /-- A repetition matched too few or too many times. -/
  | countMismatch (min : Int) (max : Option Int) (found : Int)
  /-- A literal has no characters. -/
  | emptyLiteral
  /-- A pattern cannot be read. -/
  | invalidPattern (pattern reason : String)
  /-- A choice has no alternatives. -/
  | noAlternatives
  /-- A repetition's bounds cannot be met. -/
  | invalidBounds (min : Int) (max : Option Int)
  /-- A recursive rule was run before it was defined. -/
  | unboundRule (name : Option String)
  /-- A value other than a single character was to be a blank character. -/
  | invalidBlank (value : Value)
  /-- Something else, of which the diagnostic is given. -/
  | stated (diagnostic : Diagnostic)

namespace Issue

/-- The code of an issue. -/
def code : Issue → Code
  | .expectedLiteral .. => .expectedLiteral
  | .literalAtEnd _ => .unexpectedEnd
  | .expectedPattern .. => .expectedPattern
  | .patternAtEnd _ => .unexpectedEnd
  | .expectedEnd _ => .expectedEnd
  | .noMatch _ => .noMatch
  | .countMismatch .. => .countMismatch
  | .emptyLiteral => .emptyLiteral
  | .invalidPattern .. => .invalidPattern
  | .noAlternatives => .noAlternatives
  | .invalidBounds .. => .invalidBounds
  | .unboundRule _ => .unboundRule
  | .invalidBlank _ => .invalidBlank
  | .stated diagnostic => diagnostic.code

/-- What stands in place of a character at the end of the text. -/
def endWord : String := "eof"

/-- An upper bound, a star when there is none. -/
def boundText : Option Int → String
  | none => "*"
  | some n => toString n

/-- The most digits of the bounds of a repetition. -/
def boundDigits (min : Int) (max : Option Int) : Nat :=
  Nat.max (digitCount min) ((max.map digitCount).getD 0)

/-- How a recursive rule is spoken of: by its name, if it has one. -/
def recursiveLabel : Option String → String
  | none => "placeholder"
  | some name => if name.isEmpty then "placeholder" else s!"'{name}'"

/-- The message of an issue. -/
def message : Issue → String
  | .expectedLiteral literal found => s!"expected {literal} found {found}"
  | .literalAtEnd literal => s!"expected {literal} found {endWord}"
  | .expectedPattern pattern found => s!"expected {pattern} found {found}"
  | .patternAtEnd pattern => s!"expected {pattern} found {endWord}"
  | .expectedEnd found => s!"expected {endWord} found {found}"
  | .noMatch labels => "no match: expected one of " ++ ", ".intercalate labels
  | .countMismatch min max found => s!"expected {min}..{boundText max} found {found}"
  | .emptyLiteral => "Literal must contain at least one character"
  | .invalidPattern pattern reason => s!"Invalid pattern '{pattern}': {reason}"
  | .noAlternatives => "choices() requires at least one alternative"
  | .invalidBounds min max => s!"Invalid repetition bounds {min}..{boundText max}"
  | .unboundRule name =>
    s!"Recursive rule {recursiveLabel name} invoked before its definition was bound"
  | .invalidBlank value => s!"Whitespace must be a single character, got {value.shown}"
  | .stated diagnostic => diagnostic.message

/-- The most digits of an integer that the author of a rule has put into a message. The count of a
repetition is that of a list, and no list is so long that its count could not be written. -/
def mostDigits : Issue → Nat
  | .countMismatch min max _ => boundDigits min max
  | .invalidBounds min max => boundDigits min max
  | .invalidBlank value => value.mostDigits
  | _ => 0

/-- The hint of an issue. Only some problems with rules have one. -/
def hint : Issue → Option String
  | .emptyLiteral => some "Use optional() or many() to express an empty match"
  | .invalidBounds .. =>
    some "Bounds must be non-negative and max_count must not be below min_count"
  | .unboundRule _ =>
    some "Only invoke the placeholder from inside a parse, not while building the grammar"
  | .stated diagnostic => diagnostic.hint
  | _ => none

/-- The diagnostic of an issue. -/
def diagnostic (i : Issue) : Diagnostic := ⟨i.code, i.message, i.hint⟩

end Issue

end Descent
