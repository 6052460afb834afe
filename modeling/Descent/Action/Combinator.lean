import Descent.Action.Basic

/-!
# Combining actions

Ordered choice, repetition, sequence and recovery. Choice, repetition and recovery are the only
actions that put the cursor back; they do so for parse errors alone, and a fault passes through
them with the cursor where it stood.
-/

namespace Descent

namespace Action

variable {α : Type} {text : List Char}

/-! ## Choice -/

/-- Tries the remaining alternatives, all from `start`. When none is left, the error spans the
text up to the furthest position at which an alternative stopped, and has a note for each. -/
def choicesFrom (labels : List String) (start furthest : Int) (notes : List String) :
    List (String × Action α) → Action α
  | [] => ⟨fun c =>
    match c.locate start furthest with
    | .ok location =>
      (.failure { ParseError.located (.noMatch labels) location none with notes },
        c.moveTo start)
    | .error e => (.fault (.position e), c.moveTo start)⟩
  | (label, action) :: rest => ⟨fun c =>
    match action.run (c.moveTo start) with
    | (.failure e, c') =>
      (choicesFrom labels start (max furthest c'.pos) (notes ++ [s!"{label}: {e.message}"])
        rest).run c'
    | done => done⟩

/-- The first alternative that matches, each with the label by which it is spoken of. -/
def choices (alternatives : List (String × Action α)) : Action α :=
  mark.bind fun start => choicesFrom (alternatives.map Prod.fst) start start [] alternatives

/-- An alternative that fails is followed by the next one. -/
theorem choicesFrom_cons_of_failure {labels notes : List String} {start furthest : Int}
    {label : String} {action : Action α} {rest : List (String × Action α)} {e : ParseError}
    {c c' : Cursor text} (h : action.run (c.moveTo start) = (.failure e, c')) :
    (choicesFrom labels start furthest notes ((label, action) :: rest)).run c =
      (choicesFrom labels start (max furthest c'.pos) (notes ++ [s!"{label}: {e.message}"])
        rest).run c' := by
  simp [choicesFrom, h]

/-- An alternative that matches ends the choice. -/
theorem choicesFrom_cons_of_value {labels notes : List String} {start furthest : Int}
    {label : String} {action : Action α} {rest : List (String × Action α)} {a : α}
    {c c' : Cursor text} (h : action.run (c.moveTo start) = (.value a, c')) :
    (choicesFrom labels start furthest notes ((label, action) :: rest)).run c =
      (.value a, c') := by
  simp [choicesFrom, h]

/-- A fault ends the choice where it stands. -/
theorem choicesFrom_cons_of_fault {labels notes : List String} {start furthest : Int}
    {label : String} {action : Action α} {rest : List (String × Action α)} {f : Fault}
    {c c' : Cursor text} (h : action.run (c.moveTo start) = (.fault f, c')) :
    (choicesFrom labels start furthest notes ((label, action) :: rest)).run c =
      (.fault f, c') := by
  simp [choicesFrom, h]

/-- A choice from a valid cursor starts every alternative there. -/
theorem choices_of_valid {alternatives : List (String × Action α)} {c : Cursor text}
    (h : c.Valid) :
    (choices alternatives).run c =
      (choicesFrom (alternatives.map Prod.fst) c.pos c.pos [] alternatives).run c :=
  bind_of_value (mark_of_valid h)

/-! ## Repetition -/

/-- Repeats an action at most `limit` times, until it fails, which is undone, or matches without
moving the cursor. When the attempts run out, the run is given up with a fault. -/
def manyFrom (action : Action α) : Nat → List α → Action (List α)
  | 0, _ => fault .endless
  | limit + 1, values => ⟨fun c =>
    match c.checked with
    | .error e => (.fault (.position e), c)
    | .ok _ =>
      match action.run c with
      | (.value v, c') =>
        if c'.pos = c.pos then (.value (values ++ [v]), c')
        else (manyFrom action limit (values ++ [v])).run c'
      | (.failure _, c') => (.value values, c'.moveTo c.pos)
      | (.fault e, c') => (.fault e, c')⟩

/-- A repetition whose next attempt fails ends where that attempt began. -/
theorem manyFrom_of_failure {action : Action α} {limit : Nat} {values : List α} {e : ParseError}
    {c c' : Cursor text} (hv : c.Valid) (h : action.run c = (.failure e, c')) :
    (manyFrom action (limit + 1) values).run c = (.value values, c'.moveTo c.pos) := by
  simp [manyFrom, Cursor.checked_of_valid hv, h]

/-- A repetition whose next attempt moves the cursor goes on. -/
theorem manyFrom_of_value {action : Action α} {limit : Nat} {values : List α} {a : α}
    {c c' : Cursor text} (hv : c.Valid) (h : action.run c = (.value a, c'))
    (hm : c'.pos ≠ c.pos) :
    (manyFrom action (limit + 1) values).run c =
      (manyFrom action limit (values ++ [a])).run c' := by
  simp [manyFrom, Cursor.checked_of_valid hv, h, hm]

/-- A repetition whose next attempt leaves the cursor in place keeps its value and ends. -/
theorem manyFrom_of_still {action : Action α} {limit : Nat} {values : List α} {a : α}
    {c c' : Cursor text} (hv : c.Valid) (h : action.run c = (.value a, c'))
    (hm : c'.pos = c.pos) :
    (manyFrom action (limit + 1) values).run c = (.value (values ++ [a]), c') := by
  simp [manyFrom, Cursor.checked_of_valid hv, h, hm]

/-- A fault ends a repetition where it stands. -/
theorem manyFrom_of_fault {action : Action α} {limit : Nat} {values : List α} {f : Fault}
    {c c' : Cursor text} (hv : c.Valid) (h : action.run c = (.fault f, c')) :
    (manyFrom action (limit + 1) values).run c = (.fault f, c') := by
  simp [manyFrom, Cursor.checked_of_valid hv, h]

/-- The attempts that a repetition is given: as many as an action can use that never moves back, and
`patience` more. An action that moves to and fro may use any number, so what is said of a run is
said for every patience. -/
def repetitionLimit (patience : Nat) (text : List Char) : Nat := text.length + 2 + patience

/-- Repeats an action as often as it matches. -/
def repeated (patience : Nat) (action : Action α) : Action (List α) := ⟨fun {text} c =>
  (manyFrom action (repetitionLimit patience text) []).run c⟩

/-- Whether a count lies within its bounds. -/
def withinBounds (min : Int) (max : Option Int) (count : Int) : Bool :=
  decide (min ≤ count) && max.all fun m => decide (count ≤ m)

/-- Repeats an action as often as it matches, and then looks whether the count is within its
bounds. -/
def many (patience : Nat) (min : Int) (max : Option Int) (action : Action α) :
    Action (List α) := do
  let start ← mark
  let values ← repeated patience action
  if withinBounds min max values.length then
    pure values
  else
    failFrom start (.countMismatch min max values.length)

/-- A repetition with a count within its bounds gives its values. -/
theorem many_of_within {patience : Nat} {action : Action α} {min : Int} {max : Option Int}
    {values : List α} {c c' : Cursor text} (hv : c.Valid)
    (h : (repeated patience action).run c = (.value values, c'))
    (hb : withinBounds min max values.length = true) :
    (many patience min max action).run c = (.value values, c') := by
  refine (bind_of_value (mark_of_valid hv)).trans ((bind_of_value h).trans ?_)
  rw [if_pos hb]
  rfl

/-- A repetition with a count out of its bounds fails where it has ended. -/
theorem many_of_outside {patience : Nat} {action : Action α} {min : Int} {max : Option Int}
    {values : List α} {c c' : Cursor text} (hv : c.Valid)
    (h : (repeated patience action).run c = (.value values, c'))
    (hb : withinBounds min max values.length = false) :
    (many patience min max action).run c =
      (failFrom c.pos (.countMismatch min max values.length)).run c' := by
  refine (bind_of_value (mark_of_valid hv)).trans ((bind_of_value h).trans ?_)
  rw [if_neg (by simp [hb])]

/-- A count out of bounds that can be told is an error about what the repetition has read. -/
theorem many_of_outside_of_le {patience : Nat} {action : Action α} {min : Int} {max : Option Int}
    {values : List α} {c c' : Cursor text} (hv : c.Valid)
    (h : (repeated patience action).run c = (.value values, c'))
    (hb : withinBounds min max values.length = false)
    (hshort : Issue.boundDigits min max ≤ digitLimit) :
    (many patience min max action).run c =
      ((locateFrom c.pos).bind (fail (.countMismatch min max values.length))).run c' :=
  (many_of_outside hv h hb).trans (failFrom_of_le hshort)

/-- Bounds that cannot be told are a fault when they are not met. -/
theorem many_of_outside_of_lt {patience : Nat} {action : Action α} {min : Int} {max : Option Int}
    {values : List α} {c c' : Cursor text} (hv : c.Valid)
    (h : (repeated patience action).run c = (.value values, c'))
    (hb : withinBounds min max values.length = false)
    (hlong : digitLimit < Issue.boundDigits min max) :
    (many patience min max action).run c = (.fault (.longInteger digitLimit), c') :=
  (many_of_outside hv h hb).trans (failFrom_of_lt hlong)

/-- A fault ends a repetition whatever its bounds. -/
theorem many_of_fault {patience : Nat} {action : Action α} {min : Int} {max : Option Int}
    {f : Fault} {c c' : Cursor text} (hv : c.Valid)
    (h : (repeated patience action).run c = (.fault f, c')) :
    (many patience min max action).run c = (.fault f, c') :=
  (bind_of_value (mark_of_valid hv)).trans (bind_of_fault h)

/-- Repeating itself never fails: the attempt that does is undone. -/
theorem manyFrom_ne_failure (action : Action α) (limit : Nat) (values : List α) (c : Cursor text)
    (e : ParseError) : ((manyFrom action limit values).run c).1 ≠ .failure e := by
  induction limit generalizing values c with
  | zero => simp [manyFrom]
  | succ limit ih =>
    by_cases hv : c.Valid
    · rcases hr : action.run c with ⟨o, d⟩
      cases o with
      | value a =>
        by_cases hm : d.pos = c.pos
        · simp [manyFrom_of_still hv hr hm]
        · rw [manyFrom_of_value hv hr hm]
          exact ih _ d
      | failure e' => simp [manyFrom_of_failure hv hr]
      | fault f => simp [manyFrom_of_fault hv hr]
    · simp [manyFrom, Cursor.checked_of_not_valid hv]

/-! ## Sequence -/

/-- Runs the remaining actions in order. -/
def seqFrom (values : List α) : List (Bool × Action α) → Action (List α)
  | [] => pure values
  | (ignored, action) :: rest => do
    let v ← action
    seqFrom (if ignored then values else values ++ [v]) rest

/-- Runs actions in order, for the values of those that are not ignored. -/
def seq (actions : List (Bool × Action α)) : Action (List α) := seqFrom [] actions

/-- A rule that matches is followed by the rest of the sequence. -/
theorem seqFrom_cons_of_value {values : List α} {ignored : Bool} {action : Action α}
    {rest : List (Bool × Action α)} {a : α} {c c' : Cursor text}
    (h : action.run c = (.value a, c')) :
    (seqFrom values ((ignored, action) :: rest)).run c =
      (seqFrom (if ignored then values else values ++ [a]) rest).run c' :=
  bind_of_value h

/-- A failure ends a sequence where it stands. -/
theorem seqFrom_cons_of_failure {values : List α} {ignored : Bool} {action : Action α}
    {rest : List (Bool × Action α)} {e : ParseError} {c c' : Cursor text}
    (h : action.run c = (.failure e, c')) :
    (seqFrom values ((ignored, action) :: rest)).run c = (.failure e, c') :=
  bind_of_failure h

/-- A fault ends a sequence where it stands. -/
theorem seqFrom_cons_of_fault {values : List α} {ignored : Bool} {action : Action α}
    {rest : List (Bool × Action α)} {f : Fault} {c c' : Cursor text}
    (h : action.run c = (.fault f, c')) :
    (seqFrom values ((ignored, action) :: rest)).run c = (.fault f, c') :=
  bind_of_fault h

/-! ## Recovery -/

/-- Runs an action, and turns a parse error into what the handler makes of it, with the cursor
back where it was. -/
def catching (handler : ParseError → Outcome α) (action : Action α) : Action α := ⟨fun c =>
  match c.checked with
  | .error e => (.fault (.position e), c)
  | .ok _ =>
    match action.run c with
    | (.failure e, c') => (handler e, c'.moveTo c.pos)
    | done => done⟩

/-- A value needs no handler. -/
theorem catching_of_value {handler : ParseError → Outcome α} {action : Action α} {a : α}
    {c c' : Cursor text} (hv : c.Valid) (h : action.run c = (.value a, c')) :
    (catching handler action).run c = (.value a, c') := by
  simp [catching, Cursor.checked_of_valid hv, h]

/-- The handler of a parse error runs with the cursor back at its place. -/
theorem catching_of_failure {handler : ParseError → Outcome α} {action : Action α}
    {e : ParseError} {c c' : Cursor text} (hv : c.Valid) (h : action.run c = (.failure e, c')) :
    (catching handler action).run c = (handler e, c'.moveTo c.pos) := by
  simp [catching, Cursor.checked_of_valid hv, h]

/-- A fault passes the handler by. -/
theorem catching_of_fault {handler : ParseError → Outcome α} {action : Action α} {f : Fault}
    {c c' : Cursor text} (hv : c.Valid) (h : action.run c = (.fault f, c')) :
    (catching handler action).run c = (.fault f, c') := by
  simp [catching, Cursor.checked_of_valid hv, h]

end Action

end Descent
