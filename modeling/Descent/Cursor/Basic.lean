import Descent.Blanks.Basic
import Descent.Span
import Descent.Text.Lines

/-!
# Cursors

A position in a text together with the blank characters that reading steps over. The text is part
of the type, so nothing that moves a cursor can change it. Positions are integers: one before the
text counts from its end, so that the last character stands at `-1`.
-/

namespace Descent

/-- A position in a text, and the characters to step over. -/
structure Cursor (text : List Char) where
  pos : Int
  blanks : Blanks
deriving DecidableEq

namespace Cursor

variable {text : List Char}

/-! ## Positions -/

/-- The cursor stands within its text or at its end. -/
def Valid (c : Cursor text) : Prop := 0 ≤ c.pos ∧ c.pos ≤ text.length

instance (c : Cursor text) : Decidable c.Valid := inferInstanceAs (Decidable (_ ∧ _))

/-- The same cursor at another position. -/
def moveTo (c : Cursor text) (pos : Int) : Cursor text := { c with pos }

/-- The cursor itself, refused unless it stands within its text. -/
def checked (c : Cursor text) : Except PositionError (Cursor text) :=
  if c.Valid then .ok c else .error (.outside text.length c.pos)

/-- The cursor at a position of a text. -/
def atPosition (text : List Char) (pos : Int) (blanks : Blanks) :
    Except PositionError (Cursor text) :=
  checked ⟨pos, blanks⟩

/-- Whether nothing at all is left, not even blank characters. -/
def atEnd (c : Cursor text) : Bool := (text.length : Int) ≤ c.pos

@[simp] theorem pos_moveTo (c : Cursor text) (p : Int) : (c.moveTo p).pos = p := rfl
@[simp] theorem blanks_moveTo (c : Cursor text) (p : Int) : (c.moveTo p).blanks = c.blanks := rfl
@[simp] theorem moveTo_moveTo (c : Cursor text) (p q : Int) :
    (c.moveTo p).moveTo q = c.moveTo q := rfl
@[simp] theorem moveTo_pos (c : Cursor text) : c.moveTo c.pos = c := rfl

theorem checked_of_valid {c : Cursor text} (h : c.Valid) : c.checked = .ok c := if_pos h

theorem checked_of_not_valid {c : Cursor text} (h : ¬ c.Valid) :
    c.checked = .error (.outside text.length c.pos) := if_neg h

/-! ## Reading -/

/-- The characters that reading meets from a position on, if it is one: the rest of the text,
and before the text first the characters counted from its end and then all of it. -/
def ahead (c : Cursor text) : Option (List Char) :=
  if 0 ≤ c.pos then some (text.drop c.pos.toNat)
  else if -(text.length : Int) ≤ c.pos then
    some (text.drop (text.length + c.pos).toNat ++ text)
  else none

/-- The next character that is not blank, with the cursor moved up to it; nothing at the end of
the text. -/
def peek (c : Cursor text) : Except PositionError (Option Char) × Cursor text :=
  match c.ahead with
  | none => (.error .beforeText, c)
  | some rest =>
    (.ok (rest.dropWhile c.blanks.skips).head?,
      c.moveTo (c.pos + (rest.takeWhile c.blanks.skips).length))

/-- Moves over `count` characters, blank or not, but not past the end, and then peeks. -/
def advance (c : Cursor text) (count : Int) : Except PositionError (Option Char) × Cursor text :=
  (c.moveTo (min (c.pos + count) text.length)).peek

/-- From a position of the text on, what lies ahead is the rest of the text. -/
theorem ahead_of_nonneg {c : Cursor text} (h : 0 ≤ c.pos) :
    c.ahead = some (text.drop c.pos.toNat) := if_pos h

/-- From a position of the text on, peeking finds the first character of the rest that is not
blank. -/
theorem peek_of_nonneg {c : Cursor text} (h : 0 ≤ c.pos) :
    c.peek =
      (.ok ((text.drop c.pos.toNat).dropWhile c.blanks.skips).head?,
        c.moveTo (c.pos + ((text.drop c.pos.toNat).takeWhile c.blanks.skips).length)) := by
  rw [peek, ahead_of_nonneg h]

/-- Peeking never moves back. -/
theorem pos_le_pos_peek (c : Cursor text) : c.pos ≤ c.peek.2.pos := by
  unfold peek
  split
  · exact Int.le_refl _
  · rw [pos_moveTo]
    omega

/-- Peeking keeps the blank characters. -/
@[simp] theorem blanks_peek (c : Cursor text) : c.peek.2.blanks = c.blanks := by
  unfold peek; split <;> rfl

/-- Advancing keeps the blank characters. -/
@[simp] theorem blanks_advance (c : Cursor text) (n : Int) :
    (c.advance n).2.blanks = c.blanks := by
  simp [advance]

/-! ## Lines and columns -/

/-- The text before the cursor; before the text, the position counts from its end. -/
def before (c : Cursor text) : List Char :=
  text.take (if 0 ≤ c.pos then c.pos else text.length + c.pos).toNat

/-- The number of line ends before the cursor. -/
def line (c : Cursor text) : Nat := c.before.count '\n'

/-- The number of characters between the last line end before the cursor and the cursor. -/
def sinceLineEnd (c : Cursor text) : Nat := (c.before.reverse.takeWhile (· != '\n')).length

/-- The distance from the last line end before the cursor, the first character of a line being
at `1`. -/
def column (c : Cursor text) : Int := c.pos - (c.before.length - 1 - c.sinceLineEnd : Int)

/-- The line that the cursor stands on, without its line end. -/
def currentLine (c : Cursor text) : List Char := (lines text).getD c.line []

end Cursor

end Descent
