import Descent.Outcome

/-!
# Actions

What a rule does when it is run: from a cursor over any text it comes to an outcome and leaves
the cursor somewhere in the same text. The cursor is left where it stood also when the outcome is
a failure or a fault; putting it back is the business of the few actions that recover.
-/

namespace Descent

/-- What a rule does to a cursor, and how it ends. -/
structure Action (α : Type) where
  /-- The outcome from a cursor, and the cursor afterwards. -/
  run : {text : List Char} → Cursor text → Outcome α × Cursor text

namespace Action

variable {α β : Type} {text : List Char}

/-! ## Sequencing -/

/-- Ends with a value at once. -/
def pure (a : α) : Action α := ⟨fun c => (.value a, c)⟩

/-- Ends with a fault at once. -/
def fault (e : Fault) : Action α := ⟨fun c => (.fault e, c)⟩

/-- Runs an action, then the one chosen by its value. -/
def bind (x : Action α) (f : α → Action β) : Action β := ⟨fun c =>
  match x.run c with
  | (.value a, c') => (f a).run c'
  | (.failure e, c') => (.failure e, c')
  | (.fault e, c') => (.fault e, c')⟩

instance : Monad Action where
  pure := pure
  bind := bind

/-- Puts the value through a function that may fail. -/
def transform (f : α → Outcome β) (x : Action α) : Action β := ⟨fun c =>
  match x.run c with
  | (.value a, c') => (f a, c')
  | (.failure e, c') => (.failure e, c')
  | (.fault e, c') => (.fault e, c')⟩

/-- Puts the value through a function. -/
def mapValue (f : α → β) (x : Action α) : Action β := x.transform fun a => .value (f a)

/-- Runs both actions, for both values. -/
def both (x : Action α) (y : Action β) : Action (α × β) := x.bind fun a => y.mapValue (a, ·)

/-- Runs both actions, for the value of the first. -/
def keepLeft (x : Action α) (y : Action β) : Action α := x.bind fun a => y.mapValue fun _ => a

/-- Runs both actions, for the value of the second. -/
def keepRight (x : Action α) (y : Action β) : Action β := x.bind fun _ => y

@[simp] theorem run_pure (a : α) (c : Cursor text) : (pure a).run c = (.value a, c) := rfl

@[simp] theorem run_fault (e : Fault) (c : Cursor text) :
    (fault e : Action α).run c = (.fault e, c) := rfl

theorem run_bind (x : Action α) (f : α → Action β) (c : Cursor text) :
    (x.bind f).run c =
      match x.run c with
      | (.value a, c') => (f a).run c'
      | (.failure e, c') => (.failure e, c')
      | (.fault e, c') => (.fault e, c') := rfl

/-- A value goes on to the next action. -/
theorem bind_of_value {x : Action α} {f : α → Action β} {a : α} {c c' : Cursor text}
    (h : x.run c = (.value a, c')) : (x.bind f).run c = (f a).run c' := by
  rw [run_bind, h]

/-- A failure ends the sequence where it stands. -/
theorem bind_of_failure {x : Action α} {f : α → Action β} {e : ParseError} {c c' : Cursor text}
    (h : x.run c = (.failure e, c')) : (x.bind f).run c = (.failure e, c') := by
  rw [run_bind, h]

/-- A fault ends the sequence where it stands. -/
theorem bind_of_fault {x : Action α} {f : α → Action β} {e : Fault} {c c' : Cursor text}
    (h : x.run c = (.fault e, c')) : (x.bind f).run c = (.fault e, c') := by
  rw [run_bind, h]

/-- A value is put through the function, and the cursor stays. -/
theorem transform_of_value {x : Action α} {f : α → Outcome β} {a : α} {c c' : Cursor text}
    (h : x.run c = (.value a, c')) : (x.transform f).run c = (f a, c') := by
  simp [transform, h]

/-- A failure passes the function by. -/
theorem transform_of_failure {x : Action α} {f : α → Outcome β} {e : ParseError}
    {c c' : Cursor text} (h : x.run c = (.failure e, c')) :
    (x.transform f).run c = (.failure e, c') := by
  simp [transform, h]

/-- A fault passes the function by. -/
theorem transform_of_fault {x : Action α} {f : α → Outcome β} {e : Fault} {c c' : Cursor text}
    (h : x.run c = (.fault e, c')) : (x.transform f).run c = (.fault e, c') := by
  simp [transform, h]

theorem mapValue_of_value {x : Action α} {f : α → β} {a : α} {c c' : Cursor text}
    (h : x.run c = (.value a, c')) : (x.mapValue f).run c = (.value (f a), c') :=
  transform_of_value h

theorem mapValue_of_failure {x : Action α} {f : α → β} {e : ParseError} {c c' : Cursor text}
    (h : x.run c = (.failure e, c')) : (x.mapValue f).run c = (.failure e, c') :=
  transform_of_failure h

theorem mapValue_of_fault {x : Action α} {f : α → β} {e : Fault} {c c' : Cursor text}
    (h : x.run c = (.fault e, c')) : (x.mapValue f).run c = (.fault e, c') :=
  transform_of_fault h

/-! ## Reading -/

/-- Looks at the next character that is not blank. -/
def peek : Action (Option Char) := ⟨fun c => (.ofPosition c.peek.1, c.peek.2)⟩

/-- Moves on and looks at the next character that is not blank. -/
def advance (count : Int) : Action (Option Char) := ⟨fun c =>
  (.ofPosition (c.advance count).1, (c.advance count).2)⟩

/-- Takes the position as a checkpoint, which has to lie within the text. -/
def mark : Action Int := ⟨fun c =>
  match c.checked with
  | .ok _ => (.value c.pos, c)
  | .error e => (.fault (.position e), c)⟩

/-- The location between two positions. -/
def locate (start stop : Int) : Action Location := ⟨fun c =>
  (.ofPosition (c.locate start stop), c)⟩

/-- The location from a checkpoint to the cursor. -/
def locateFrom (start : Int) : Action Location := ⟨fun c => (locate start c.pos).run c⟩

/-- Fails with an issue about a location. -/
def fail (issue : Issue) (location : Location) : Action α := ⟨fun c =>
  (.failure (.located issue location none), c)⟩

/-- An issue that is to be reported, unless its message cannot be written. -/
def tell (issue : Issue) : Action Issue := ⟨fun c => (.ofExcept issue.told, c)⟩

/-- Fails with an issue about the text from a checkpoint to the cursor. The message comes first. -/
def failFrom (start : Int) (issue : Issue) : Action α :=
  (tell issue).bind fun issue => (locateFrom start).bind (fail issue)

/-- An issue that can be told is one about the text from the checkpoint on. -/
theorem failFrom_of_le {start : Int} {issue : Issue} {c : Cursor text}
    (h : issue.mostDigits ≤ digitLimit) :
    (failFrom start issue : Action α).run c = ((locateFrom start).bind (fail issue)).run c := by
  refine bind_of_value (a := issue) ?_
  rw [tell, Issue.told, withinDigits_of_le h]
  rfl

/-- An issue that cannot be told is a fault at the cursor. -/
theorem failFrom_of_lt {start : Int} {issue : Issue} {c : Cursor text}
    (h : digitLimit < issue.mostDigits) :
    (failFrom start issue : Action α).run c = (.fault (.longInteger digitLimit), c) := by
  refine bind_of_fault ?_
  rw [tell, Issue.told, withinDigits_of_lt h]
  rfl

/-- A valid cursor gives its position as a checkpoint. -/
theorem mark_of_valid {c : Cursor text} (h : c.Valid) : mark.run c = (.value c.pos, c) := by
  simp [mark, Cursor.checked_of_valid h]

end Action

end Descent
