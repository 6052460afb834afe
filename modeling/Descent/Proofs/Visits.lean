import Descent.Proofs.Backtracking

/-!
# The rules that a call visits

A call makes calls of other rules, one after another. Of each of them it is seen where it begins,
how it ends and where it leaves the cursor; what it calls in its turn stays inside it. These are
the visits of the call, and much of what a rule does can be said about them.

The log of a run is that of one call (`Rule.exists_call`), from where the run begins to where it
ends, so that a statement about the visits in it is one about what has been run, and in which order.
-/

namespace Descent

/-- A rule that is called, with the cursor where it begins, its ending, and the cursor where it
ends. -/
structure Visit (text : List Char) where
  rule : Rule
  start : Cursor text
  ending : Outcome Unit
  stop : Cursor text

variable {text : List Char}

/-- What is known of an action is known of it with its value put through a function. -/
theorem Logged.Leaves.map {α β : Type} {x : Logged α} {g : α → β} {c : Cursor text}
    {post : List (Call text) → Outcome β → Cursor text → Prop}
    (hx : x.Leaves c fun calls o d => post calls (o.bind fun a => .value (g a)) d) :
    (x.mapValue g).Leaves c post := by
  refine hx.bind (fun calls a d h => .alone ?_) (fun calls e d h => h) fun calls e d h => h
  rw [List.append_nil]
  exact h

namespace Call

/-- The visit that a call is, if it is that of a rule. -/
def visit? (a : Call text) : Option (Visit text) :=
  match a.callee with
  | .rule r => some ⟨r, a.start, a.ending, a.stop⟩
  | _ => none

/-- The visits among calls, in order. -/
def visits (calls : List (Call text)) : List (Visit text) := calls.filterMap visit?

@[simp] theorem visits_append (calls more : List (Call text)) :
    visits (calls ++ more) = visits calls ++ visits more :=
  List.filterMap_append

@[simp] theorem visits_cons_rule (r : Rule) (c d : Cursor text) (inner : List (Call text))
    (ending : Outcome Unit) (calls : List (Call text)) :
    visits (⟨.rule r, c, inner, ending, d⟩ :: calls) = ⟨r, c, ending, d⟩ :: visits calls := rfl

@[simp] theorem visits_cons_checkpoint (c : Cursor text) (ending : Outcome Unit)
    (calls : List (Call text)) :
    visits (.leaf .checkpoint c ending :: calls) = visits calls := rfl

end Call

namespace Rule

open Call Logged

variable {patience : Nat}

/-- The log of a run is that of one call of the rule, from where the run begins to where it ends. -/
theorem leaves_logged (limit : Nat) (env : List Rule) (r : Rule) (c : Cursor text) :
    (logged patience limit env r).Leaves c fun calls o d =>
      (∃ inner, calls = [⟨.rule r, c, inner, o.ending, d⟩]) ∧
        (run patience limit env r).run c = (o, d) := by
  have hcall : IsCall
      (Call.Everywhere fun a : Call text =>
        a.Exact patience ∧ a.IsRun patience fun _ _ => True) r
      (logged patience limit env r) := isCall_logged hereditary_true limit trivial
  refine (hcall c).with_run.mono ?_
  rintro calls o d ⟨⟨inner, hcalls, -⟩, hrun⟩
  rw [forget_logged] at hrun
  exact ⟨⟨inner, hcalls⟩, hrun⟩

section Attempt

variable {β : Type} {limit : Nat} {env : List Rule} {r : Rule} {c d : Cursor text}
  {f : Except ParseError Value → Logged β}
  {post : List (Call text) → Outcome β → Cursor text → Prop}

/-- An attempt at a rule whose run gives a value is one call of it, before what is done with the
value. -/
theorem attempt_bind_of_value {v : Value} (hr : (run patience limit env r).run c = (.value v, d))
    (h : ∀ inner, (f (.ok v)).Leaves d fun rest o e =>
      post (⟨.rule r, c, inner, .value (), d⟩ :: rest) o e) :
    ((attempt (logged patience limit env r)).bind f).Leaves c post := by
  refine .attempt_bind (leaves_logged limit env r c) ?_ ?_ ?_
  · rintro calls w e ⟨⟨inner, rfl⟩, hr'⟩
    cases hr.symm.trans hr'
    exact h inner
  · rintro calls error e ⟨-, hr'⟩
    cases hr.symm.trans hr'
  · rintro calls fault e ⟨-, hr'⟩
    cases hr.symm.trans hr'

/-- An attempt at a rule whose run fails is one call of it, before what is done with the error. -/
theorem attempt_bind_of_failure {error : ParseError}
    (hr : (run patience limit env r).run c = (.failure error, d))
    (h : ∀ inner, (f (.error error)).Leaves d fun rest o e =>
      post (⟨.rule r, c, inner, .failure error, d⟩ :: rest) o e) :
    ((attempt (logged patience limit env r)).bind f).Leaves c post := by
  refine .attempt_bind (leaves_logged limit env r c) ?_ ?_ ?_
  · rintro calls w e ⟨-, hr'⟩
    cases hr.symm.trans hr'
  · rintro calls error e ⟨⟨inner, rfl⟩, hr'⟩
    cases hr.symm.trans hr'
    exact h inner
  · rintro calls fault e ⟨-, hr'⟩
    cases hr.symm.trans hr'

end Attempt

/-- What is known of the calls that a rule makes is known of those in the log of its run. -/
theorem exists_call {limit : Nat} {env : List Rule} {r : Rule} {c : Cursor text}
    {post : List (Call text) → Outcome Value → Cursor text → Prop}
    (h : (loggedLayer patience (logged patience limit) env r).Leaves c post) :
    ∃ (a : Call text) (o : Outcome Value) (d : Cursor text),
      (run patience (limit + 1) env r).run c = (o, d) ∧
      (logged patience (limit + 1) env r).run c = (a.events, o, d) ∧ post a.inner o d := by
  have hcall : (logged patience (limit + 1) env r).Leaves c fun calls o d =>
      ∃ inner, calls = [⟨.rule r, c, inner, o.ending, d⟩] ∧ post inner o d :=
    .invoke (h.mono fun calls o d hpost => ⟨calls, rfl, hpost⟩)
  obtain ⟨calls, hlog, ⟨inner, rfl, hpost⟩, hrun⟩ := hcall.with_run
  rw [forget_logged] at hrun
  rw [eventsAll_singleton] at hlog
  exact ⟨⟨.rule r, c, inner, _, _⟩, _, _, hrun, Prod.ext hlog rfl, hpost⟩

end Rule

end Descent
