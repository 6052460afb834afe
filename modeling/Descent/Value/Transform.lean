import Descent.Diagnostic.Rendering
import Descent.Outcome
import Descent.Value.Basic

/-!
# Transforming values

Some functions that a grammar applies to the values of its rules, and some that it applies to a
parse error from which it recovers. Rules take any function; these are the ones that have a name.
-/

namespace Descent

/-! ## Arithmetic on values -/

/-- The operators of integer arithmetic by their texts; division goes down to the next
integer. -/
def applyOperator (operator : String) (a b : Int) : Outcome Int :=
  match operator with
  | "+" => .value (a + b)
  | "-" => .value (a - b)
  | "*" => .value (a * b)
  | "/" => if b = 0 then .fault .divisionByZero else .value (Int.fdiv a b)
  | _ => .fault (.unknownName operator)

namespace Value

/-- The two parts of a value, which has to have exactly two. -/
def halves (v : Value) : Outcome (Value × Value) :=
  match v.items? with
  | some [left, right] => .value (left, right)
  | some items => .fault (.notTwoParts items.length)
  | none => .fault .mistyped

/-- One step of a chain of operations: an operator, by its location, and its right operand. -/
def foldStep (acc : Value) (step : Value) : Outcome Value :=
  step.halves.bind fun
    | (.location operator, operand) =>
      if ["+", "-", "*", "/"].contains operator.lexeme then do
        let a ← .ofOption acc.toInt?
        let b ← .ofOption operand.toInt?
        return .int (← applyOperator operator.lexeme a b)
      else .fault (.unknownName operator.lexeme)
    | _ => .fault .mistyped

/-- Applies the steps of a chain from left to right. -/
def foldSteps (acc : Value) : List Value → Outcome Value
  | [] => .value acc
  | step :: rest => (foldStep acc step).bind fun acc => foldSteps acc rest

/-- Evaluates a number and the chain of operations that follows it. -/
def fold (v : Value) : Outcome Value :=
  v.halves.bind fun (first, chain) => (Outcome.ofOption chain.items?).bind (foldSteps first)

/-- The sum of a list of numbers. -/
def sum (items : List Value) : Option Int :=
  items.foldlM (fun acc v => v.toInt?.map (acc + ·)) 0

/-- The integer that a text stands for, with at most so many digits. -/
def integerOf (limit : Option Nat) (text : String) : Outcome Value :=
  match parseInteger limit text.toList with
  | .ok n => .value (.int n)
  | .error .malformed => .fault (.notAnInteger text)
  | .error (.tooLong digits most) => .fault (.longNumeral digits most)

/-- The integer that a text stands for once all white space in it is removed. -/
def squeezedIntegerOf (limit : Option Nat) (text : String) : Outcome Value :=
  integerOf limit (String.ofList (text.toList.filter (!isSpace ·)))

/-- A value as a text of its own, unless an integer in it has too many digits. -/
def written (v : Value) : Except Fault String := withinDigits v.mostDigits v.displayed

/-- The texts of a list of texts. -/
def texts? (items : List Value) : Option (List String) :=
  items.mapM fun
    | .text s => some s
    | _ => none

end Value

/-! ## Functions on values -/

/-- A function on the value of a rule. -/
inductive Transform where
  /-- The lexeme of a location. -/
  | lexeme
  /-- The offset at which a location starts. -/
  | start
  /-- The offset at which a location ends. -/
  | stop
  /-- The line on which a location starts. -/
  | currentLine
  /-- The integer that a location's lexeme stands for. -/
  | integer
  /-- The same, with all white space in the lexeme removed. -/
  | squeezedInteger
  /-- The number of items. -/
  | length
  /-- The sum of the items. -/
  | sum
  /-- The first item. -/
  | first
  /-- The last item. -/
  | last
  /-- The items in reverse. -/
  | reversed
  /-- One more. -/
  | increment
  /-- The opposite number. -/
  | negate
  /-- The value as a text. -/
  | display
  /-- The texts of a list one after another. -/
  | concat
  /-- A list with the value as its only item. -/
  | wrap
  /-- A head and a list as one list. -/
  | cons
  /-- Locations by their lexemes and pairs as lists, everywhere. -/
  | plain
  /-- A number and a chain of operations, evaluated. -/
  | fold
  /-- Always the same value. -/
  | const (value : Value)
  /-- A fault. -/
  | raise (kind : FaultKind) (message : String)
  /-- A parse error at a location, which may underline another range. -/
  | reject (message : String) (problem : Option (Int × Int))

/-- The range to underline, if one is given. -/
def problemSpan (problem : Option (Int × Int)) : Outcome (Option Span) :=
  match problem with
  | none => .value none
  | some (start, stop) => (Outcome.ofPosition (Span.between start stop)).bind (.value ∘ some)

namespace Transform

/-- Applies a function to a location. -/
def onLocation (v : Value) (f : Location → Outcome Value) : Outcome Value :=
  match v with
  | .location l => f l
  | _ => .fault .mistyped

/-- Applies a function to the parts of a value. -/
def onItems (v : Value) (f : List Value → Outcome Value) : Outcome Value :=
  (Outcome.ofOption v.items?).bind f

/-- An item that has to be there. -/
def item : Option Value → Outcome Value
  | some v => .value v
  | none => .fault .emptyList

/-- Applies a function to a number. -/
def onNumber (v : Value) (f : Int → Int) : Outcome Value :=
  (Outcome.ofOption v.toInt?).bind fun n => .value (.int (f n))

/-- Applies a transformation to a value. -/
def apply : Transform → Value → Outcome Value
  | .lexeme, v => onLocation v fun l => .value (.text l.lexeme)
  | .start, v => onLocation v fun l => .value (.int l.span.start)
  | .stop, v => onLocation v fun l => .value (.int l.span.stop)
  | .currentLine, v => onLocation v fun l => .value (.text l.currentLine)
  | .integer, v => onLocation v fun l => Value.integerOf (some digitLimit) l.lexeme
  | .squeezedInteger, v => onLocation v fun l =>
    Value.squeezedIntegerOf (some digitLimit) l.lexeme
  | .length, v => onItems v fun items => .value (.int items.length)
  | .sum, v => onItems v fun items =>
    (Outcome.ofOption (Value.sum items)).bind fun n => .value (.int n)
  | .first, v => onItems v fun items => item items.head?
  | .last, v => onItems v fun items => item items.getLast?
  | .reversed, v => onItems v fun items => .value (.list items.reverse)
  | .increment, v => onNumber v (· + 1)
  | .negate, v => onNumber v (- ·)
  | .display, v => (Outcome.ofExcept v.written).bind fun s => .value (.text s)
  | .concat, v => onItems v fun items =>
    (Outcome.ofOption (Value.texts? items)).bind fun ts => .value (.text (String.join ts))
  | .wrap, v => .value (.list [v])
  | .cons, v => v.halves.bind fun (head, tail) =>
    onItems tail fun items => .value (.list (head :: items))
  | .plain, v => .value v.plain
  | .fold, v => v.fold
  | .const value, _ => .value value
  | .raise kind message, _ => .fault (.raised kind (.plain message))
  | .reject message problem, v => onLocation v fun l =>
    (problemSpan problem).bind fun span => .failure (.located (.expectedEnd message) l span)

end Transform

/-! ## Functions on parse errors -/

/-- What to make of a parse error from which a rule recovers. -/
inductive Handler where
  /-- Its message. -/
  | message
  /-- The name of its code. -/
  | code
  /-- Its rendering with carets. -/
  | rendering
  /-- The error as it is shown. -/
  | shown
  /-- The two ends of its location's span. -/
  | span
  /-- Its location. -/
  | location
  /-- Its notes. -/
  | notes
  /-- The same error again. -/
  | rethrow
  /-- Always the same value. -/
  | const (value : Value)
  /-- A fault. -/
  | raise (kind : FaultKind) (message : String)

/-- Applies a handler to an error, with room for rows of so many characters. -/
def Handler.apply (room : Nat) : Handler → ParseError → Outcome Value
  | .message, e => .value (.text e.message)
  | .code, e => .value (.text e.code.name)
  | .rendering, e => (Outcome.ofExcept (e.rendered room)).bind fun s => .value (.text s)
  | .shown, e => (Outcome.ofExcept e.represented).bind fun s => .value (.text s)
  | .span, e => .value (.list [.int e.location.span.start, .int e.location.span.stop])
  | .location, e => .value (.location e.location)
  | .notes, e => .value (.list (e.notes.map .text))
  | .rethrow, e => .failure e
  | .const value, _ => .value value
  | .raise kind words, _ => .fault (.raised kind (.plain words))

end Descent
