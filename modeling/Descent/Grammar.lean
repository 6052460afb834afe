import Descent.Blanks.Register

/-!
# Grammars

The context in which the rules of a grammar are written: it holds the blank characters that every
parse steps over. A cursor made from it has a set of its own, so registering blank characters
during a parse never changes the grammar.
-/

namespace Descent

/-- The blank characters of a grammar. -/
structure Grammar where
  blanks : Blanks
deriving DecidableEq

namespace Grammar

/-- A grammar without blank characters. -/
def empty : Grammar := ⟨Blanks.empty⟩

/-- What is blank unless something else is said: space, tab, carriage return and line end. -/
def defaultBlanks : List Value := [.text "\t", .text "\n", .text "\r", .text " "]

/-- Registers blank characters, the usual ones if none are given. -/
def whitespace (g : Grammar) (values : List Value) : Except Fault Grammar :=
  (g.blanks.register (if values.isEmpty then defaultBlanks else values)).map Grammar.mk

/-- The cursor for one parse of a text. -/
def cursor (g : Grammar) (text : List Char) : Cursor text := ⟨0, g.blanks⟩

/-! ## Trying a grammar out -/

/-- An operation on a grammar. -/
inductive Operation where
  /-- Registers blank characters. -/
  | whitespace (values : List Value)
  /-- Looks at the first character of a text that is not blank. -/
  | peek (text : List Char)
  /-- The same, after registering more blank characters on the cursor alone. -/
  | leak (text : List Char) (values : Value)
  /-- Checks whether all values are single characters. -/
  | validate (values : Value)

/-- What an operation answers. -/
inductive Reply where
  | done
  | peeked (found : Option Char) (pos : Int) (blanks : Option Blanks)
  | characters (texts : List String)

/-- Peeks at a text with a cursor. -/
def peekWith {text : List Char} (c : Cursor text) (blanks : Option Blanks) : Except Fault Reply :=
  match c.peek with
  | (.ok found, c') => .ok (.peeked found c'.pos blanks)
  | (.error e, _) => .error (.position e)

/-- Performs an operation. Only a registration changes the grammar. -/
def perform (g : Grammar) : Operation → Except Fault Reply × Grammar
  | .whitespace values =>
    match g.whitespace values with
    | .ok g' => (.ok .done, g')
    | .error f => (.error f, g)
  | .peek text => (peekWith (g.cursor text) none, g)
  | .leak text values =>
    match g.blanks.registerItems values with
    | .ok blanks =>
      let c : Cursor text := { g.cursor text with blanks }
      (peekWith c (some blanks), g)
    | .error f => (.error f, g)
  | .validate values =>
    match values.items? with
    | some items => ((Value.singleCharacters items).map .characters, g)
    | none => (.error .mistyped, g)

/-- Performs operations in order, for each the answer and the grammar after it. -/
def performAll (g : Grammar) : List Operation → List (Except Fault Reply × Grammar)
  | [] => []
  | op :: rest =>
    let (reply, g') := g.perform op
    (reply, g') :: g'.performAll rest

end Grammar

end Descent
