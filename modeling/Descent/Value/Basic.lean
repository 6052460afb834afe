import Descent.Location
import Descent.Text.Integer

/-!
# Values

What rules produce: nothing, truth values, integers, texts, lists, pairs and locations.
-/

namespace Descent

/-- The value of a rule. -/
inductive Value where
  | null
  | bool (b : Bool)
  | int (n : Int)
  | text (s : String)
  | list (items : List Value)
  | pair (left right : Value)
  | location (l : Location)

namespace Value

instance : Inhabited Value := ⟨.null⟩

/-! ## Showing -/

mutual

/-- A value as it is shown inside messages, with all digits of its integers. -/
def shown : Value → String
  | .null => "None"
  | .bool true => "True"
  | .bool false => "False"
  | .int n => toString n
  | .text s => quoted s
  | .list items => "[" ++ ", ".intercalate (shownAll items) ++ "]"
  | .pair left right => "(" ++ shown left ++ ", " ++ shown right ++ ")"
  | .location l => l.shown

/-- The values of a list, each as it is shown. -/
def shownAll : List Value → List String
  | [] => []
  | v :: rest => shown v :: shownAll rest

end

/-- A value as a text of its own: a text is itself, anything else as it is shown. -/
def displayed : Value → String
  | .text s => s
  | v => v.shown

mutual

/-- The most digits that an integer in a value has, the ends of locations included. -/
def mostDigits : Value → Nat
  | .int n => digitCount n
  | .list items => mostDigitsAll items
  | .pair left right => max (mostDigits left) (mostDigits right)
  | .location l => l.span.mostDigits
  | _ => 0

/-- The most digits that an integer in the values of a list has. -/
def mostDigitsAll : List Value → Nat
  | [] => 0
  | v :: rest => max (mostDigits v) (mostDigitsAll rest)

end

/-! ## Views -/

/-- The number a value counts as: truth values count as one and zero. -/
def toInt? : Value → Option Int
  | .int n => some n
  | .bool b => some (if b then 1 else 0)
  | _ => none

/-- The parts of a value that has parts in order: a list's items, a pair's sides, the characters
of a text. -/
def items? : Value → Option (List Value)
  | .list items => some items
  | .pair left right => some [left, right]
  | .text s => some (s.toList.map fun c => .text (String.singleton c))
  | _ => none

mutual

/-- The value with every location replaced by its text and every pair by a list of two. -/
def plain : Value → Value
  | .list items => .list (plainAll items)
  | .pair left right => .list [plain left, plain right]
  | .location l => .text l.lexeme
  | v => v

/-- The values of a list, each made plain. -/
def plainAll : List Value → List Value
  | [] => []
  | v :: rest => plain v :: plainAll rest

end

end Value

/-- Whether a value is one of the offsets of a span. -/
def Span.containsValue (s : Span) (v : Value) : Bool := v.toInt?.any s.contains

end Descent
