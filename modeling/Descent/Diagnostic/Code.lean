/-!
# Diagnostic codes

Every kind of problem has a code with a name and a number: from 1001 on for texts that do not
match a rule, from 2001 on for rules that are built incorrectly.
-/

namespace Descent

/-- The kinds of problems. -/
inductive Code where
  | expectedLiteral
  | expectedPattern
  | unexpectedEnd
  | noMatch
  | countMismatch
  | expectedEnd
  | emptyLiteral
  | invalidPattern
  | noAlternatives
  | invalidBounds
  | unboundRule
  | invalidBlank
deriving DecidableEq

namespace Code

/-- All codes, by number. -/
def all : List Code :=
  [.expectedLiteral, .expectedPattern, .unexpectedEnd, .noMatch, .countMismatch, .expectedEnd,
    .emptyLiteral, .invalidPattern, .noAlternatives, .invalidBounds, .unboundRule, .invalidBlank]

/-- The name of a code. -/
def name : Code → String
  | .expectedLiteral => "EXPECTED_LITERAL"
  | .expectedPattern => "EXPECTED_PATTERN"
  | .unexpectedEnd => "UNEXPECTED_EOF"
  | .noMatch => "NO_MATCH"
  | .countMismatch => "COUNT_MISMATCH"
  | .expectedEnd => "EXPECTED_EOF"
  | .emptyLiteral => "EMPTY_LITERAL"
  | .invalidPattern => "INVALID_PATTERN"
  | .noAlternatives => "NO_ALTERNATIVES"
  | .invalidBounds => "INVALID_BOUNDS"
  | .unboundRule => "UNBOUND_RULE"
  | .invalidBlank => "INVALID_WHITESPACE"

/-- The number of a code. -/
def number : Code → Nat
  | .expectedLiteral => 1001
  | .expectedPattern => 1002
  | .unexpectedEnd => 1003
  | .noMatch => 1004
  | .countMismatch => 1005
  | .expectedEnd => 1006
  | .emptyLiteral => 2001
  | .invalidPattern => 2002
  | .noAlternatives => 2003
  | .invalidBounds => 2004
  | .unboundRule => 2005
  | .invalidBlank => 2006

/-- The code with a name. -/
def ofName? (name : String) : Option Code := all.find? (·.name == name)

/-- The code with a number. -/
def ofNumber? (number : Int) : Option Code := all.find? fun c => (c.number : Int) == number

/-- The name of a code with that of its kind before it. -/
def qualifiedName (c : Code) : String := "DiagnosticCode." ++ c.name

/-- A code as it is shown, with its number. -/
def shown (c : Code) : String := s!"<{c.qualifiedName}: {c.number}>"

/-- A code is found by its name. -/
theorem ofName?_name (c : Code) : ofName? c.name = some c := by cases c <;> decide

end Code

end Descent
