import Descent.Rule.Run

/-!
# The log of a run

A run of a rule invokes other rules, functions and handlers of its author, and operations of the
cursor that may be refused. Here are the actions of rules once more, so that each tells in a log
what it invokes: when something is started and where the cursor stands then, and when it has
finished, how, and where the cursor stands then.

They are put together from a few steps, of which `attempt` is the only one that goes on after a
parse error, and none goes on after a fault. Without the log they are the actions themselves
(`Rule.forget_logged`).
-/

namespace Descent

/-! ## Events -/

/-- What can be invoked in the course of a run. -/
inductive Callee where
  /-- A rule. -/
  | rule (r : Rule)
  /-- A function that its author puts values or errors through. -/
  | function
  /-- A handler of its author for errors. -/
  | handler
  /-- The position of the cursor, taken as a checkpoint. -/
  | checkpoint
  /-- The location between two positions. -/
  | location
  /-- The message of an issue, put into words. -/
  | message
  /-- The count of the attempts of a repetition, which have run out. -/
  | count
  /-- The limit on the size of a text. -/
  | size

/-- How a run has ended, without its value. -/
def Outcome.ending {α : Type} : Outcome α → Outcome Unit
  | .value _ => .value ()
  | .failure e => .failure e
  | .fault f => .fault f

/-- Something is started, or has finished, with the cursor at a place. -/
inductive Event (text : List Char) where
  | start (callee : Callee) (place : Cursor text)
  | finish (callee : Callee) (ending : Outcome Unit) (place : Cursor text)

/-! ## Actions with a log -/

/-- An action that also tells what it invokes, in order. -/
structure Logged (α : Type) where
  /-- The log of a run from a cursor, its outcome, and the cursor afterwards. -/
  run : {text : List Char} → Cursor text → List (Event text) × Outcome α × Cursor text

namespace Logged

variable {α β : Type} {text : List Char}

/-- The action without its log. -/
def forget (x : Logged α) : Action α := ⟨fun c => (x.run c).2⟩

/-- An action that invokes nothing. -/
def alone (x : Action α) : Logged α := ⟨fun c => ([], x.run c)⟩

/-- Ends with a value at once. -/
def pure (a : α) : Logged α := alone (.pure a)

/-- Ends with a parse error at once. -/
def failing (e : ParseError) : Logged α := alone ⟨fun c => (.failure e, c)⟩

/-- Asks for the position. -/
def position : Logged Int := alone ⟨fun c => (.value c.pos, c)⟩

/-- Moves the cursor. -/
def goto (p : Int) : Logged Unit := alone ⟨fun c => (.value (), c.moveTo p)⟩

/-- Runs an action, then the one chosen by its value. -/
def bind (x : Logged α) (f : α → Logged β) : Logged β := ⟨fun c =>
  match x.run c with
  | (log, .value a, d) => (log ++ ((f a).run d).1, ((f a).run d).2)
  | (log, .failure e, d) => (log, .failure e, d)
  | (log, .fault e, d) => (log, .fault e, d)⟩

instance : Monad Logged where
  pure := pure
  bind := bind

/-- Runs an action, and gives its value or its parse error. A fault is not met. -/
def attempt (x : Logged α) : Logged (Except ParseError α) := ⟨fun c =>
  match x.run c with
  | (log, .value a, d) => (log, .value (.ok a), d)
  | (log, .failure e, d) => (log, .value (.error e), d)
  | (log, .fault e, d) => (log, .fault e, d)⟩

/-- Runs an action as that of something that is invoked. -/
def invoke (callee : Callee) (x : Logged α) : Logged α := ⟨fun c =>
  (.start callee c :: (x.run c).1 ++ [.finish callee (x.run c).2.1.ending (x.run c).2.2],
    (x.run c).2)⟩

theorem run_bind (x : Logged α) (f : α → Logged β) (c : Cursor text) :
    (x.bind f).run c =
      match x.run c with
      | (log, .value a, d) => (log ++ ((f a).run d).1, ((f a).run d).2)
      | (log, .failure e, d) => (log, .failure e, d)
      | (log, .fault e, d) => (log, .fault e, d) := rfl

theorem run_attempt (x : Logged α) (c : Cursor text) :
    (attempt x).run c =
      match x.run c with
      | (log, .value a, d) => (log, .value (.ok a), d)
      | (log, .failure e, d) => (log, .value (.error e), d)
      | (log, .fault e, d) => (log, .fault e, d) := rfl

theorem run_invoke_alone (callee : Callee) (x : Action α) (c : Cursor text) :
    (invoke callee (alone x)).run c =
      ([.start callee c, .finish callee (x.run c).1.ending (x.run c).2], x.run c) := rfl

theorem run_forget (x : Logged α) (c : Cursor text) : x.forget.run c = (x.run c).2 := rfl

/-- Takes the position as a checkpoint. -/
def mark : Logged Int := invoke .checkpoint (alone .mark)

/-- Makes the location between two positions. -/
def locate (start stop : Int) : Logged Location :=
  invoke .location (alone (.locate start stop))

/-- Fails with an issue about the text from a checkpoint to the cursor. -/
def failFrom (start : Int) (issue : Issue) : Logged α := do
  let issue ← invoke .message (alone (.tell issue))
  let stopped ← position
  let location ← locate start stopped
  failing (.located issue location none)

/-- Gives up a repetition whose attempts have run out. -/
def giveUp : Logged α := invoke .count (alone (.fault .endless))

/-! ## Combinations -/

/-- Puts the value through a function. -/
def mapValue (f : α → β) (x : Logged α) : Logged β := x.bind fun a => pure (f a)

/-- Puts the value through a function of the author's. -/
def transform (f : α → Outcome β) (x : Logged α) : Logged β := do
  let a ← x
  invoke .function (alone ⟨fun c => (f a, c)⟩)

/-- Runs both actions, for both values. -/
def both (x : Logged α) (y : Logged β) : Logged (α × β) := x.bind fun a => y.mapValue (a, ·)

/-- Runs both actions, for the value of the first. -/
def keepLeft (x : Logged α) (y : Logged β) : Logged α := x.bind fun a => y.mapValue fun _ => a

/-- Runs both actions, for the value of the second. -/
def keepRight (x : Logged α) (y : Logged β) : Logged β := x.bind fun _ => y

/-- Tries the remaining alternatives, all from `start`. -/
def choicesFrom (labels : List String) (start furthest : Int) (notes : List String) :
    List (String × Logged α) → Logged α
  | [] => do
    goto start
    let location ← locate start furthest
    failing { ParseError.located (.noMatch labels) location none with notes }
  | (label, x) :: rest => do
    goto start
    match ← attempt x with
    | .ok a => pure a
    | .error e =>
      let stopped ← position
      choicesFrom labels start (max furthest stopped) (notes ++ [s!"{label}: {e.message}"]) rest

/-- The first alternative that matches. -/
def choices (alternatives : List (String × Logged α)) : Logged α := do
  let start ← mark
  choicesFrom (alternatives.map Prod.fst) start start [] alternatives

/-- Repeats an action at most `limit` times. -/
def manyFrom (x : Logged α) : Nat → List α → Logged (List α)
  | 0, _ => giveUp
  | limit + 1, values => do
    let start ← mark
    match ← attempt x with
    | .ok v =>
      let stopped ← position
      if stopped = start then pure (values ++ [v]) else manyFrom x limit (values ++ [v])
    | .error _ =>
      goto start
      pure values

/-- Repeats an action as often as it matches. -/
def repeated (patience : Nat) (x : Logged α) : Logged (List α) := ⟨fun {text} c =>
  (manyFrom x (Action.repetitionLimit patience text) []).run c⟩

/-- Repeats an action as often as it matches, and then looks at the count. -/
def many (patience : Nat) (min : Int) (max : Option Int) (x : Logged α) : Logged (List α) := do
  let start ← mark
  let values ← repeated patience x
  if Action.withinBounds min max values.length then
    pure values
  else
    failFrom start (.countMismatch min max values.length)

/-- Runs the remaining actions in order. -/
def seqFrom (values : List α) : List (Bool × Logged α) → Logged (List α)
  | [] => pure values
  | (ignored, x) :: rest => do
    let v ← x
    seqFrom (if ignored then values else values ++ [v]) rest

/-- Runs an action, and turns a parse error into what the handler makes of it. -/
def catching (handler : ParseError → Outcome α) (x : Logged α) : Logged α := do
  let start ← mark
  match ← attempt x with
  | .ok a => pure a
  | .error e =>
    goto start
    invoke .handler (alone ⟨fun c => (handler e, c)⟩)

end Logged

/-! ## Rules with a log -/

namespace Rule

/-- The action of a rule among the definitions `env`, with a log, when `call` gives the actions of
the rules it is made of and repetitions have `patience`. -/
def loggedLayer (patience : Nat) (call : List Rule → Rule → Logged Value) (env : List Rule) :
    Rule → Logged Value
  | .tag literal => .alone ((Action.tag literal).mapValue .location)
  | .regex pattern accepts => .alone ((Action.regex pattern accepts).mapValue .location)
  | .eof => .alone (Action.eof.mapValue .location)
  | .action run => .alone run
  | .map f r => (call env r).transform f
  | .both r s => ((call env r).both (call env s)).mapValue fun v => .pair v.1 v.2
  | .keepLeft r s => (call env r).keepLeft (call env s)
  | .keepRight r s => (call env r).keepRight (call env s)
  | .choices _ rs => .choices (rs.map fun r => (r.label, call env r))
  | .many min max r => (Logged.many patience min max (call env r)).mapValue .list
  | .seq rs => (Logged.seqFrom [] (rs.map fun r => (r.isIgnored, call env r))).mapValue .list
  | .catching handler r => (call env r).catching handler
  | .named _ r => call env r
  | .ignored r => call env r
  | .fix level definition => call (env.take level ++ [definition]) definition
  | .ref level name =>
    match env[level]? with
    | some definition => call (env.take (level + 1)) definition
    | none => .alone (.fault (.grammar (.unboundRule name)))

/-- The action of a rule among the definitions `env`, with a log, when rules may call each other
`limit` deep and repetitions have `patience`. -/
def logged (patience : Nat) : Nat → List Rule → Rule → Logged Value
  | 0, _, r => .invoke (.rule r) (.alone (.fault .tooDeep))
  | limit + 1, env, r => .invoke (.rule r) (loggedLayer patience (logged patience limit) env r)

end Rule

/-! ## Actions without their log -/

/-- Two actions that do the same from every cursor are the same. -/
theorem Action.ext_run {α : Type} {x y : Action α}
    (h : ∀ {text : List Char} (c : Cursor text), x.run c = y.run c) : x = y := by
  obtain ⟨f⟩ := x
  obtain ⟨g⟩ := y
  have hfg : @f = @g := by
    funext text c
    exact h c
  rw [hfg]

namespace Logged

variable {α β : Type} {text : List Char}

theorem forget_alone (x : Action α) : (alone x).forget = x := rfl

theorem forget_invoke (callee : Callee) (x : Logged α) : (invoke callee x).forget = x.forget := rfl

/-- Without its log, an action goes on after a value only. -/
theorem forget_bind (x : Logged α) (f : α → Logged β) :
    (x.bind f).forget = x.forget.bind fun a => (f a).forget := by
  refine Action.ext_run fun c => ?_
  rw [Action.run_bind, run_forget, run_forget, run_bind]
  rcases x.run c with ⟨log, o, d⟩
  cases o with
  | value a => rfl
  | failure e => rfl
  | fault e => rfl

theorem forget_transform (f : α → Outcome β) (x : Logged α) :
    (x.transform f).forget = x.forget.transform f :=
  forget_bind x _

theorem forget_mapValue (f : α → β) (x : Logged α) :
    (x.mapValue f).forget = x.forget.mapValue f :=
  forget_bind x _

theorem forget_both (x : Logged α) (y : Logged β) :
    (x.both y).forget = x.forget.both y.forget := by
  rw [both, forget_bind]
  simp only [forget_mapValue]
  rfl

theorem forget_keepLeft (x : Logged α) (y : Logged β) :
    (x.keepLeft y).forget = x.forget.keepLeft y.forget := by
  rw [keepLeft, forget_bind]
  simp only [forget_mapValue]
  rfl

theorem forget_keepRight (x : Logged α) (y : Logged β) :
    (x.keepRight y).forget = x.forget.keepRight y.forget :=
  forget_bind x _

theorem forget_seqFrom (values : List α) (xs : List (Bool × Logged α)) :
    (seqFrom values xs).forget =
      Action.seqFrom values (xs.map fun entry => (entry.1, entry.2.forget)) := by
  induction xs generalizing values with
  | nil => rfl
  | cons entry rest ih =>
    refine (forget_bind _ _).trans ?_
    simp only [ih]
    rfl

/-- What is done with the value or the parse error of an attempt, without the log. -/
theorem run_attempt_bind (x : Logged α) (f : Except ParseError α → Logged β) (c : Cursor text) :
    (((attempt x).bind f).run c).2 =
      match x.forget.run c with
      | (.value a, d) => ((f (.ok a)).run d).2
      | (.failure e, d) => ((f (.error e)).run d).2
      | (.fault e, d) => (.fault e, d) := by
  rw [run_bind, run_attempt, run_forget]
  rcases x.run c with ⟨log, o, d⟩
  cases o with
  | value a => rfl
  | failure e => rfl
  | fault e => rfl

/-- What is done behind a checkpoint, without the log. -/
theorem run_mark_bind (f : Int → Logged β) (c : Cursor text) :
    ((mark.bind f).run c).2 =
      match c.checked with
      | .ok _ => ((f c.pos).run c).2
      | .error e => (.fault (.position e), c) := by
  rw [← run_forget, forget_bind, mark, forget_invoke, forget_alone, Action.run_bind]
  simp only [Action.mark]
  cases c.checked with
  | ok _ => rfl
  | error e => rfl

theorem forget_choicesFrom (labels : List String) (start furthest : Int) (notes : List String)
    (xs : List (String × Logged α)) :
    (choicesFrom labels start furthest notes xs).forget =
      Action.choicesFrom labels start furthest notes
        (xs.map fun entry => (entry.1, entry.2.forget)) := by
  induction xs generalizing furthest notes with
  | nil =>
    refine Action.ext_run fun c => ?_
    -- where the cursor stands makes no difference to a location between two given positions
    have hlocate : (c.moveTo start).locate start furthest = c.locate start furthest := rfl
    show ((bind (locate start furthest) _).forget).run (c.moveTo start) = _
    rw [forget_bind, locate, forget_invoke, forget_alone, Action.run_bind]
    simp only [Action.locate, hlocate, List.map_nil, Action.choicesFrom]
    cases c.locate start furthest with
    | ok l => rfl
    | error e => rfl
  | cons entry rest ih =>
    obtain ⟨label, x⟩ := entry
    refine Action.ext_run fun c => ?_
    show (((attempt x).bind _).run (c.moveTo start)).2 = _
    rw [run_attempt_bind, List.map_cons]
    rcases hr : x.forget.run (c.moveTo start) with ⟨o, d⟩
    cases o with
    | value a => rw [Action.choicesFrom_cons_of_value hr]; rfl
    | failure e =>
      rw [Action.choicesFrom_cons_of_failure hr, ← ih]
      rfl
    | fault e => rw [Action.choicesFrom_cons_of_fault hr]

theorem forget_choices (xs : List (String × Logged α)) :
    (choices xs).forget = Action.choices (xs.map fun entry => (entry.1, entry.2.forget)) := by
  have labels : (xs.map fun entry => (entry.1, entry.2.forget)).map Prod.fst =
      xs.map Prod.fst := by
    rw [List.map_map]
    rfl
  refine (forget_bind _ _).trans ?_
  simp only [forget_choicesFrom]
  rw [Action.choices, labels]
  rfl

theorem forget_manyFrom (x : Logged α) (limit : Nat) (values : List α) :
    (manyFrom x limit values).forget = Action.manyFrom x.forget limit values := by
  induction limit generalizing values with
  | zero => rfl
  | succ limit ih =>
    refine Action.ext_run fun c => (run_mark_bind _ c).trans ?_
    by_cases hc : c.Valid
    · rw [Cursor.checked_of_valid hc]
      refine (run_attempt_bind x _ c).trans ?_
      rcases hr : x.forget.run c with ⟨o, d⟩
      cases o with
      | value a =>
        by_cases hm : d.pos = c.pos
        · rw [Action.manyFrom_of_still hc hr hm]
          show ((if d.pos = c.pos then pure (values ++ [a]) else _ : Logged (List α)).run d).2 = _
          rw [if_pos hm]
          rfl
        · rw [Action.manyFrom_of_value hc hr hm, ← ih]
          show ((if d.pos = c.pos then _ else manyFrom x limit (values ++ [a])).run d).2 = _
          rw [if_neg hm]
          rfl
      | failure e => rw [Action.manyFrom_of_failure hc hr]; rfl
      | fault e => rw [Action.manyFrom_of_fault hc hr]
    · simp only [Cursor.checked_of_not_valid hc, Action.manyFrom]

theorem forget_failFrom (start : Int) (issue : Issue) :
    (failFrom start issue : Logged α).forget = Action.failFrom start issue := by
  refine (forget_bind _ _).trans (congrArg (Action.bind (.tell issue)) (funext fun issue => ?_))
  refine Action.ext_run fun c => ?_
  show ((locate start c.pos).bind _).forget.run c = _
  rw [forget_bind]
  rfl

theorem forget_many (patience : Nat) (min : Int) (max : Option Int) (x : Logged α) :
    (many patience min max x).forget = Action.many patience min max x.forget := by
  have hrepeated : (repeated patience x).forget = Action.repeated patience x.forget := by
    refine Action.ext_run fun {text} c => ?_
    show (manyFrom x (Action.repetitionLimit patience text) []).forget.run c = _
    rw [forget_manyFrom]
    rfl
  refine (forget_bind _ _).trans ?_
  refine congrArg (Action.bind Action.mark) (funext fun start => ?_)
  refine (forget_bind _ _).trans ?_
  rw [hrepeated]
  refine congrArg (Action.bind _) (funext fun values => ?_)
  split
  · rfl
  · exact forget_failFrom start _

theorem forget_catching (handler : ParseError → Outcome α) (x : Logged α) :
    (catching handler x).forget = Action.catching handler x.forget := by
  refine Action.ext_run fun c => (run_mark_bind _ c).trans ?_
  by_cases hc : c.Valid
  · rw [Cursor.checked_of_valid hc]
    refine (run_attempt_bind x _ c).trans ?_
    rcases hr : x.forget.run c with ⟨o, d⟩
    cases o with
    | value a => rw [Action.catching_of_value hc hr]; rfl
    | failure e => rw [Action.catching_of_failure hc hr]; rfl
    | fault e => rw [Action.catching_of_fault hc hr]
  · simp only [Cursor.checked_of_not_valid hc, Action.catching]

end Logged

namespace Rule

open Logged

/-- Without its log, a layer is that of the calls without their logs. -/
theorem forget_loggedLayer (patience : Nat) (call : List Rule → Rule → Logged Value)
    (env : List Rule) (r : Rule) :
    (loggedLayer patience call env r).forget =
      layer patience (fun env s => (call env s).forget) env r := by
  cases r with
  | tag literal => rfl
  | regex pattern accepts => rfl
  | eof => rfl
  | action run => rfl
  | map f r => exact forget_transform f _
  | both r s => exact (forget_mapValue _ _).trans (congrArg _ (forget_both _ _))
  | keepLeft r s => exact forget_keepLeft _ _
  | keepRight r s => exact forget_keepRight _ _
  | choices name rs =>
    refine (forget_choices _).trans ?_
    rw [List.map_map]
    rfl
  | many min max r => exact (forget_mapValue _ _).trans (congrArg _ (forget_many _ min max _))
  | seq rs =>
    refine (forget_mapValue _ _).trans (congrArg _ ((forget_seqFrom _ _).trans ?_))
    rw [List.map_map]
    rfl
  | catching handler r => exact forget_catching handler _
  | named name r => rfl
  | ignored r => rfl
  | fix level d => rfl
  | ref level name =>
    rw [loggedLayer, layer]
    cases env[level]? with
    | none => rfl
    | some d => rfl

/-- Without its log, a run with a log is the run. -/
theorem forget_logged (patience limit : Nat) (env : List Rule) (r : Rule) :
    (logged patience limit env r).forget = run patience limit env r := by
  induction limit generalizing env r with
  | zero => rfl
  | succ limit ih =>
    rw [logged, forget_invoke, forget_loggedLayer, run_succ]
    simp only [ih]

end Rule

end Descent
