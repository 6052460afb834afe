import Descent.Diagnostic.Issue
import Descent.Text.Json

/-!
# Parse errors

A text that does not match a rule: the issue, the stretch of the text on which the rule failed,
the range to underline, and notes on the alternatives that were tried. An error is rendered with
the line and a row of carets under it, on a single line, or as an object for other programs; here
are the texts of the renderings, each of which may still be refused.
-/

namespace Descent

/-- A text did not match a rule. -/
structure ParseError where
  issue : Issue
  location : Location
  problem : Span
  notes : List String

namespace ParseError

/-- An error that underlines the whole location, or the range that is given. -/
def located (issue : Issue) (location : Location) (problem : Option Span) : ParseError :=
  ⟨issue, location, problem.getD location.span, []⟩

/-- The message, without position and text. -/
def message (e : ParseError) : String := e.issue.message

/-- The code of the issue. -/
def code (e : ParseError) : Code := e.issue.code

/-- An error as it is shown among other values. -/
def shown (e : ParseError) : String :=
  s!"ParseError({e.code.name}, {quoted e.message}, problem={e.problem.start}..{e.problem.stop})"

/-! ## Renderings -/

/-- Line, column and message. -/
def simple (e : ParseError) : String :=
  s!"{e.location.snapshot.line}:{e.location.snapshot.column}: {e.message}"

/-- Carets under the range of the problem. -/
def underline (e : ParseError) : String :=
  String.ofList (List.replicate e.problem.start ' ' ++ List.replicate e.problem.length '^')

/-- The message with its position, the line it is about, and the underlined range. -/
def caret (e : ParseError) : String :=
  s!"Error at {e.simple}\n{e.location.currentLine}\n{e.underline}"

/-- The members of the object for other programs. -/
def members (e : ParseError) : List (String × JsonScalar) :=
  [("code", .text e.code.name),
    ("code_value", .integer e.code.number),
    ("message", .text e.message),
    ("line", .integer e.location.snapshot.line),
    ("column", .integer e.location.snapshot.column),
    ("start", .integer e.problem.start),
    ("end", .integer e.problem.stop),
    ("lexeme", .text e.location.lexeme)]

/-- The three renderings. -/
inductive Format where
  | caret
  | simple
  | json
deriving DecidableEq

/-- The rendering with a name. -/
def Format.ofName? : String → Option Format
  | "caret" => some .caret
  | "simple" => some .simple
  | "json" => some .json
  | _ => none

end ParseError

end Descent
