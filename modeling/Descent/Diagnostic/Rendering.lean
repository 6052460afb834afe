import Descent.Fault

/-!
# Renderings within bounds

The row of carets under an error is as long as the range that it underlines, and such a range may
lie anywhere. A rendering with carets is refused where its row cannot be counted, or is longer than
there is room for; one as an object is refused where an integer in it has too many digits. A
rendering on a single line is never refused.
-/

namespace Descent

/-- A row of so many characters has to be countable, and there has to be room for it. -/
def checkRow (room length : Nat) : Except Fault Unit :=
  if Span.wordMax < length then .error .rangeTooLarge
  else if room < length then .error .noRoom
  else .ok ()

namespace ParseError

/-! ## Single renderings -/

/-- The rendering with carets, unless the range that it underlines is too large for rows of at most
`room` characters. -/
def rendered (room : Nat) (e : ParseError) : Except Fault String := do
  checkRow room e.problem.start
  checkRow room e.problem.length
  return e.caret

/-- The error as an object on one line, unless an integer in it has too many digits. -/
def json (e : ParseError) : Except Fault String :=
  withinDigits (jsonDigits e.members) (jsonObject e.members)

/-- The error as it is shown among other values, unless an end of the range that it underlines has
too many digits. -/
def represented (e : ParseError) : Except Fault String :=
  withinDigits e.problem.mostDigits e.shown

/-- An error in one of the renderings. -/
def format (room : Nat) (f : Format) (e : ParseError) : Except Fault String :=
  match f with
  | .caret => e.rendered room
  | .simple => .ok e.simple
  | .json => e.json

/-! ## Several errors -/

/-- Several errors, with blank lines between them, or the first refusal. -/
def formatAll (room : Nat) (f : Format) (es : List ParseError) : Except Fault String :=
  (es.mapM (format room f)).map "\n\n".intercalate

/-- Renderings on single lines are never refused. -/
theorem formatAll_simple (room : Nat) (es : List ParseError) :
    formatAll room .simple es = .ok ("\n\n".intercalate (es.map simple)) := by
  have hall : es.mapM (format room .simple) = .ok (es.map simple) := List.mapM_pure
  rw [formatAll, hall]
  rfl

end ParseError

end Descent
