import Descent.Diagnostic.ParseError
import Descent.Text.Integer

/-!
# Faults

What ends a run for good. A text that does not match is a `ParseError`, and rules may recover
from it; everything else that can go wrong is a fault, which no rule recovers from. Two faults
stand for limits of a run: calls that go too deep, and the attempts of a repetition running out.

Whatever puts integers into a text is refused when one of them has more digits than the limit
allows, and always in the same way, by `withinDigits`.
-/

namespace Descent

/-- The families of faults. -/
inductive FaultKind where
  /-- A rule or a grammar is at fault. -/
  | rule
  /-- A rule was built incorrectly. -/
  | grammar
  /-- A value is outside what an operation takes. -/
  | value
  /-- A name is not known. -/
  | key
  /-- A position or an item does not exist. -/
  | index
  /-- A division by zero. -/
  | division
  /-- Rules called each other too deeply. -/
  | depth
  /-- A number is too large for what it is needed for. -/
  | overflow
  /-- There is no room for a text. -/
  | memory
  /-- A program for a pattern is refused. -/
  | program
  /-- A function was given a value of the wrong kind. -/
  | type
  /-- The attempts of a repetition have run out. -/
  | endless
deriving DecidableEq

namespace FaultKind

/-- The families that are about rules. -/
def isRule : FaultKind → Bool
  | .rule | .grammar => true
  | _ => false

/-- The families that are about unsuitable values; a rule built incorrectly is one of them. -/
def isValue : FaultKind → Bool
  | .value | .grammar => true
  | _ => false

end FaultKind

/-- What is reported with a fault: words, or a diagnostic. -/
inductive Notice where
  | plain (message : String)
  | coded (diagnostic : Diagnostic)
deriving DecidableEq

namespace Notice

/-- The words of a notice. -/
def message : Notice → String
  | .plain message => message
  | .coded diagnostic => diagnostic.message

/-- The diagnostic of a notice, if it is one. -/
def diagnostic? : Notice → Option Diagnostic
  | .plain _ => none
  | .coded diagnostic => some diagnostic

end Notice

/-- What ends a run for good. -/
inductive Fault where
  /-- A cursor or a span was given an impossible position. -/
  | position (error : PositionError)
  /-- A fault that a rule's author raised, or an issue with a rule. -/
  | raised (kind : FaultKind) (notice : Notice)
  /-- A text is longer than the limit. -/
  | oversized (length : Nat) (limit : Nat)
  /-- A text does not stand for an integer. -/
  | notAnInteger (text : String)
  /-- A text has more digits than an integer may have. -/
  | longNumeral (digits limit : Nat)
  /-- An integer has more digits than its text may have. -/
  | longInteger (limit : Nat)
  /-- A value does not have two parts, but so many. -/
  | notTwoParts (count : Nat)
  /-- An item of an empty list was asked for. -/
  | emptyList
  /-- A variable, a register or an operator is not known. -/
  | unknownName (name : String)
  /-- A rendering is not known. -/
  | unknownFormat (name : String)
  /-- There is no diagnostic code with the number. -/
  | unknownCode (number : Int)
  /-- A division by zero. -/
  | divisionByZero
  /-- Rules called each other more deeply than the limit. -/
  | tooDeep
  /-- A repetition has not come to an end within its attempts. -/
  | endless
  /-- A function was given a value of the wrong kind. -/
  | mistyped
  /-- A pattern's repetition count is too large. -/
  | countTooLarge
  /-- A pattern's condition on what stands before looks too far back. -/
  | lookBehindTooWide
  /-- A range to underline starts, or reaches, further than can be counted. -/
  | rangeTooLarge
  /-- There is no room for a range to underline. -/
  | noRoom
deriving DecidableEq

/-! ## Integers in texts -/

/-- Something that is told with integers of at most so many digits, unless those are too many to
be written. -/
def withinDigits {α : Type} (digits : Nat) (a : α) : Except Fault α :=
  if digitLimit < digits then .error (.longInteger digitLimit) else .ok a

theorem withinDigits_of_le {α : Type} {digits : Nat} {a : α} (h : digits ≤ digitLimit) :
    withinDigits digits a = .ok a := if_neg (Nat.not_lt.2 h)

theorem withinDigits_of_lt {α : Type} {digits : Nat} {a : α} (h : digitLimit < digits) :
    withinDigits digits a = .error (.longInteger digitLimit) := if_pos h

/-- An issue that is to be reported, unless its message cannot be written. -/
def Issue.told (issue : Issue) : Except Fault Issue := withinDigits issue.mostDigits issue

namespace Fault

/-! ## Rules that are at fault -/

/-- A rule that was built incorrectly, or the reason why that cannot be told. -/
def grammar (issue : Issue) : Fault :=
  match issue.told with
  | .ok issue => .raised .grammar (.coded issue.diagnostic)
  | .error f => f

theorem grammar_of_le (issue : Issue) (h : issue.mostDigits ≤ digitLimit) :
    grammar issue = .raised .grammar (.coded issue.diagnostic) := by
  rw [grammar, Issue.told, withinDigits_of_le h]

theorem grammar_of_lt (issue : Issue) (h : digitLimit < issue.mostDigits) :
    grammar issue = .longInteger digitLimit := by
  rw [grammar, Issue.told, withinDigits_of_lt h]

/-! ## Families and words -/

/-- The family of a fault. -/
def kind : Fault → FaultKind
  | .position .beforeText => .index
  | .position _ => .value
  | .raised kind _ => kind
  | .oversized .. => .value
  | .notAnInteger _ => .value
  | .longNumeral .. => .value
  | .longInteger _ => .value
  | .notTwoParts _ => .value
  | .emptyList => .index
  | .unknownName _ => .key
  | .unknownFormat _ => .value
  | .unknownCode _ => .value
  | .divisionByZero => .division
  | .tooDeep => .depth
  | .endless => .endless
  | .mistyped => .type
  | .countTooLarge => .overflow
  | .lookBehindTooWide => .program
  | .rangeTooLarge => .overflow
  | .noRoom => .memory

/-- The most digits of an integer in the words of a fault. -/
def mostDigits : Fault → Nat
  | .position error => error.mostDigits
  | .unknownCode number => digitCount number
  | _ => 0

/-- The words of a fault, with all digits of its integers. -/
def words : Fault → String
  | .position error => error.message
  | .raised _ notice => notice.message
  | .oversized length limit =>
    s!"Source size ({grouped length} characters) exceeds maximum " ++
      s!"({grouped limit} characters). Pass max_source_size to syntax() to increase the limit."
  | .notAnInteger text =>
    "invalid literal for int() with base 10: " ++
      String.ofList ((quoted text).toList.take 200)
  | .longNumeral digits limit =>
    s!"Exceeds the limit ({limit} digits) for integer string conversion: value has {digits} " ++
      "digits; use sys.set_int_max_str_digits() to increase the limit"
  | .longInteger limit =>
    s!"Exceeds the limit ({limit} digits) for integer string conversion; " ++
      "use sys.set_int_max_str_digits() to increase the limit"
  | .notTwoParts count =>
    if count < 2 then s!"not enough values to unpack (expected 2, got {count})"
    else "too many values to unpack (expected 2)"
  | .unknownFormat name => s!"{quoted name} is not a valid OutputFormat"
  | .unknownCode number => s!"{number} is not a valid DiagnosticCode"
  | .emptyList => "list index out of range"
  | .unknownName name => quoted name
  | .divisionByZero => "division by zero"
  | .tooDeep => "maximum recursion depth exceeded"
  | .endless => "a repetition does not end"
  | .mistyped => "a value of another kind was expected"
  | .countTooLarge => "the repetition number is too large"
  | .lookBehindTooWide => "a condition on what stands before looks too far back"
  | .rangeTooLarge => "a range is too large to be counted"
  | .noRoom => "there is no room for a range"

/-- What is said about a fault: its words, or that they cannot be written. -/
def message (f : Fault) : String :=
  match withinDigits f.mostDigits f.words with
  | .ok words => words
  | .error refusal => refusal.words

/-- The diagnostic that a fault carries, if any. -/
def diagnostic? : Fault → Option Diagnostic
  | .raised _ notice => notice.diagnostic?
  | _ => none

/-- A rule at fault is told of with the message of its issue. -/
theorem message_grammar (issue : Issue) (h : issue.mostDigits ≤ digitLimit) :
    (grammar issue).message = issue.message := by
  rw [grammar_of_le issue h]
  rfl

end Fault

end Descent
