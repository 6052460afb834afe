import Descent.Fault

/-!
# Outcomes

How a run ends: with a value, with a parse error, from which an enclosing rule may recover, or
with a fault, from which nothing recovers.
-/

namespace Descent

/-- How a run ends. -/
inductive Outcome (α : Type) where
  | value (a : α)
  | failure (error : ParseError)
  | fault (fault : Fault)

namespace Outcome

variable {α β : Type}

/-- Goes on with the value, if there is one. -/
def bind (o : Outcome α) (f : α → Outcome β) : Outcome β :=
  match o with
  | .value a => f a
  | .failure e => .failure e
  | .fault f => .fault f

instance : Monad Outcome where
  pure := .value
  bind := bind

/-- A refused position is a fault. -/
def ofPosition : Except PositionError α → Outcome α
  | .ok a => .value a
  | .error e => .fault (.position e)

/-- A refusal is a fault. -/
def ofExcept : Except Fault α → Outcome α
  | .ok a => .value a
  | .error f => .fault f

/-- A value that has to be there: a missing one is of the wrong kind. -/
def ofOption : Option α → Outcome α
  | some a => .value a
  | none => .fault .mistyped

end Outcome

end Descent
