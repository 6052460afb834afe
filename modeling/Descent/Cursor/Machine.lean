import Descent.Blanks.Register

/-!
# A cursor with registers

A cursor together with named checkpoints of it, and the operations on them one at a time. Each
checkpoint is a cursor with a position of its own. The blank characters are one set that all cursors
look at, so whoever registers more of them does it for all.
-/

namespace Descent

/-- A cursor and the cursors in its registers. -/
structure Machine (text : List Char) where
  cursor : Cursor text
  registers : List (String × Cursor text)

namespace Machine

variable {text : List Char}

/-- An operation on the cursor and the registers. -/
inductive Operation where
  | peek
  | advance (count : Int)
  | atEnd
  | line
  | column
  | lines
  /-- Stores a checkpoint of the cursor. -/
  | save (register : String)
  /-- Moves the cursor to a checkpoint. -/
  | restore (register : String)
  /-- Exchanges the cursor and a checkpoint. -/
  | swap (register : String)
  /-- Compares the cursor with a checkpoint. -/
  | equals (register : String)
  /-- The location from the cursor to a checkpoint. -/
  | locate (register : String)
  /-- Registers a blank character. -/
  | addBlank (value : Value)
  /-- Registers several blank characters. -/
  | addBlanks (values : Value)
  /-- The blank characters. -/
  | blanks

/-- What an operation answers. -/
inductive Reply where
  | done
  | character (found : Option Char)
  | truth (b : Bool)
  | number (n : Int)
  | texts (ts : List String)
  | location (l : Location)

/-- The cursor in a register. -/
def get (m : Machine text) (register : String) : Except Fault (Cursor text) :=
  match m.registers.lookup register with
  | some c => .ok c
  | none => .error (.unknownName register)

/-- The machine with a cursor put into a register. -/
def put (m : Machine text) (register : String) (c : Cursor text) : Machine text :=
  { m with registers := (register, c) :: m.registers.filter (·.1 != register) }

/-- The machine with its cursor moved. -/
def moveTo (m : Machine text) (pos : Int) : Machine text :=
  { m with cursor := m.cursor.moveTo pos }

/-- What reading has found, with the cursor where it stopped. -/
def read (m : Machine text) (found : Except PositionError (Option Char) × Cursor text) :
    Except Fault Reply × Machine text :=
  ((found.1.mapError Fault.position).map .character, { m with cursor := found.2 })

/-- An answer that changes nothing. -/
def answer (m : Machine text) (reply : Except Fault Reply) : Except Fault Reply × Machine text :=
  (reply, m)

/-- The machine with other blank characters, for all its cursors. -/
def share (m : Machine text) (blanks : Blanks) : Machine text :=
  { cursor := { m.cursor with blanks }
    registers := m.registers.map fun r => (r.1, { r.2 with blanks }) }

/-- Registers blank characters, or says why not. -/
def register (m : Machine text) (blanks : Except Fault Blanks) :
    Except Fault Reply × Machine text :=
  match blanks with
  | .error f => (.error f, m)
  | .ok b => (.ok (.texts b.entries), m.share b)

/-- Performs an operation. One that fails changes nothing, except that a failing advance has
already moved the cursor. -/
def perform (m : Machine text) : Operation → Except Fault Reply × Machine text
  | .peek => m.read m.cursor.peek
  | .advance count => m.read (m.cursor.advance count)
  | .atEnd => m.answer (.ok (.truth m.cursor.atEnd))
  | .line => m.answer (.ok (.number m.cursor.line))
  | .column => m.answer (.ok (.number m.cursor.column))
  | .lines => m.answer (.ok (.texts ((Descent.lines text).map String.ofList)))
  | .save register =>
    match m.cursor.checked with
    | .ok c => (.ok .done, m.put register c)
    | .error e => m.answer (.error (.position e))
  | .restore register =>
    match m.get register with
    | .ok c => (.ok .done, m.moveTo c.pos)
    | .error f => m.answer (.error f)
  | .swap register =>
    match m.get register with
    | .ok c => (.ok .done, { m.put register m.cursor with cursor := c })
    | .error f => m.answer (.error f)
  | .equals register => m.answer ((m.get register).map fun c => .truth (c == m.cursor))
  | .locate register =>
    match m.get register with
    | .ok c =>
      m.answer (((m.cursor.locate m.cursor.pos c.pos).mapError Fault.position).map .location)
    | .error f => m.answer (.error f)
  | .addBlank value => m.register (m.cursor.blanks.register [value])
  | .addBlanks values => m.register (m.cursor.blanks.registerItems values)
  | .blanks => m.answer (.ok (.texts m.cursor.blanks.entries))

/-- Performs operations in order, for each the answer and the position of the cursor after it. -/
def performAll (m : Machine text) : List Operation → List (Except Fault Reply × Int)
  | [] => []
  | op :: rest =>
    let (reply, m') := m.perform op
    (reply, m'.cursor.pos) :: m'.performAll rest

end Machine

end Descent
