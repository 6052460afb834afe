import Descent.Cursor.Basic
import Descent.Text.Quoted
import Descent.Text.Trim

/-!
# Locations

A stretch of a text that a rule has matched or failed on: its span, its text without blank
characters at the ends, and the cursor at its start.
-/

namespace Descent

/-- A stretch of a text. -/
structure Location where
  text : List Char
  span : Span
  lexeme : String
  snapshot : Cursor text

namespace Location

/-- The line that the location starts on. -/
def currentLine (l : Location) : String := String.ofList l.snapshot.currentLine

/-- Two locations are the same when their spans and lexemes are. -/
def same (l m : Location) : Bool := l.span == m.span && l.lexeme == m.lexeme

/-- A location as it is shown. -/
def shown (l : Location) : String :=
  s!"Location(span={l.span.shown}, lexeme={quoted l.lexeme})"

end Location

namespace Cursor

variable {text : List Char}

/-- The text between two offsets, without blank characters at its ends. -/
def lexeme (c : Cursor text) (span : Span) : List Char :=
  trimBoth c.blanks.trims ((text.drop span.start).take span.length)

/-- The location between two positions of the cursor's text. The positions have to make a span
that starts within the text. -/
def locate (c : Cursor text) (start stop : Int) : Except PositionError Location :=
  match Span.between start stop with
  | .error e => .error e
  | .ok span =>
    match (c.moveTo start).checked with
    | .error e => .error e
    | .ok snapshot => .ok ⟨text, span, String.ofList (c.lexeme span), snapshot⟩

/-- Two positions in order, the first within the text, have a location between them. -/
theorem locate_of_le {c : Cursor text} {a b : Nat} (hab : a ≤ b) (ha : a ≤ text.length) :
    c.locate a b =
      .ok ⟨text, ⟨a, b, hab⟩, String.ofList (c.lexeme ⟨a, b, hab⟩), c.moveTo a⟩ := by
  have hv : (c.moveTo a).Valid := by simp [Valid]; omega
  simp [locate, Span.between_natCast hab, checked_of_valid hv]

end Cursor

/-- The location between two positions of a text, both of which have to lie within it. -/
def Location.between (text : List Char) (start stop : Int) (blanks : Blanks) :
    Except PositionError Location := do
  let first ← Cursor.atPosition text start blanks
  let last ← Cursor.atPosition text stop Blanks.empty
  first.locate first.pos last.pos

end Descent
