import Descent.Proofs.Reach
import Descent.Proofs.Visits

/-!
# Repetition is greedy

The attempts of a repetition form a chain: each begins where the one before it has ended, all but
the last move the cursor on, and the chain ends with an attempt that fails, which is undone, or with
one that matches and does not move (`Rule.Chain`). Which chain it is depends on the repeated rule
and the place alone. The bounds of the repetition are looked at when the chain has ended, so they
decide whether it counts as a match and never what is read (`Rule.run_many_greedy`).

A chain has an attempt for each character ahead at most, and one more. A run of the repetition
follows the chain from its first attempt to its last, so it never goes on for ever.
-/

namespace Descent

variable {α : Type} {text : List Char}

/-! ## Actions that can be repeated -/

/-- From valid cursors over a text, an action ends with a value or a parse error, and a value leaves
the cursor neither before where it stood nor past the end. -/
structure Action.Orderly (text : List Char) (x : Action α) : Prop where
  no_fault : ∀ (c d : Cursor text) (f : Fault), c.Valid → x.run c ≠ (.fault f, d)
  onward : ∀ (c d : Cursor text) (a : α), c.Valid → x.run c = (.value a, d) →
    c.pos ≤ d.pos ∧ d.pos ≤ text.length

/-- After a value the cursor is valid again. -/
theorem Action.Orderly.valid {x : Action α} (hx : x.Orderly text) {c d : Cursor text} {a : α}
    (hc : c.Valid) (h : x.run c = (.value a, d)) : d.Valid :=
  have ⟨hle, hlen⟩ := hx.onward c d a hc h
  ⟨Int.le_trans hc.1 hle, hlen⟩

/-- A safe action is orderly where it does not run out of depth. -/
theorem Action.SafeOn.orderly {good : Int → α → Prop} {x : Action α}
    (hx : x.SafeOn (· = .tooDeep) text good)
    (deep : ∀ c : Cursor text, c.Valid → (x.run c).1 ≠ .fault .tooDeep) : x.Orderly text where
  no_fault c d f hc hr := by
    have hend := hx c hc
    have hdeep := deep c hc
    rw [hr] at hend hdeep
    exact hdeep (congrArg Outcome.fault hend.outcome)
  onward c d a hc hr := by
    have hend := hx c hc
    rw [hr] at hend
    exact ⟨hend.le_pos, hend.pos_le⟩

/-- A count is within its bounds if it reaches the lower one and does not exceed the upper one. -/
theorem Action.withinBounds_iff {min : Int} {max : Option Int} {count : Int} :
    withinBounds min max count = true ↔ min ≤ count ∧ ∀ m ∈ max, count ≤ m := by
  cases max <;> simp [withinBounds]

namespace Rule

open Descent.Action

variable {patience : Nat}

/-! ## Chains of attempts -/

/-- The attempts at a rule from a cursor on, with the values of those that match, in order. Each
begins where the one before it has ended. They end with one that fails, which is undone, or with
one that matches where it stands; all before it move on. -/
inductive Chain (r : Rule) (x : Action Value) :
    Cursor text → List Value → List (Visit text) → Cursor text → Prop
  | fails {c stop : Cursor text} {e : ParseError} (last : x.run c = (.failure e, stop)) :
      Chain r x c [] [⟨r, c, .failure e, stop⟩] (stop.moveTo c.pos)
  | still {c stop : Cursor text} {v : Value} (last : x.run c = (.value v, stop))
      (same : stop.pos = c.pos) : Chain r x c [v] [⟨r, c, .value (), stop⟩] stop
  | moves {c stop d : Cursor text} {v : Value} {values : List Value} {attempts : List (Visit text)}
      (first : x.run c = (.value v, stop)) (moved : c.pos < stop.pos)
      (rest : Chain r x stop values attempts d) :
      Chain r x c (v :: values) (⟨r, c, .value (), stop⟩ :: attempts) d

variable {r : Rule} {x : Action Value} {c d : Cursor text} {values : List Value}
  {attempts : List (Visit text)}

/-- Not all attempts need to match. -/
theorem Chain.length_values_le (h : Chain r x c values attempts d) :
    values.length ≤ attempts.length := by
  induction h with
  | fails last => exact Nat.zero_le _
  | still last same => exact Nat.le_refl _
  | moves first moved rest ih => exact Nat.succ_le_succ ih

/-- A chain does not end before it begins. -/
theorem Chain.pos_le (h : Chain r x c values attempts d) : c.pos ≤ d.pos := by
  induction h with
  | fails last => exact Int.le_refl _
  | still last same => exact Int.le_of_eq same.symm
  | moves first moved rest ih => exact Int.le_trans (Int.le_of_lt moved) ih

/-- From every valid cursor there is a chain, with one attempt more than characters ahead at
most. -/
theorem exists_chain (r : Rule) (hx : x.Orderly text) (hc : c.Valid) :
    ∃ (values : List Value) (attempts : List (Visit text)) (d : Cursor text),
      Chain r x c values attempts d ∧ (attempts.length : Int) ≤ text.length - c.pos + 1 := by
  -- an attempt that moves on leaves fewer characters ahead
  induction hahead : (text.length - c.pos).toNat using Nat.strongRecOn generalizing c with
  | ind ahead ih =>
    have hlen := hc.2
    rcases hr : x.run c with ⟨o, stop⟩
    cases o with
    | value v =>
      obtain ⟨hle, hstop⟩ := hx.onward c stop v hc hr
      rcases Int.lt_or_eq_of_le hle with moved | same
      · obtain ⟨values, attempts, d, hrest, hcount⟩ := ih _ (by omega) (hx.valid hc hr) rfl
        refine ⟨_, _, d, .moves hr moved hrest, ?_⟩
        rw [List.length_cons]
        omega
      · refine ⟨_, _, stop, .still hr same.symm, ?_⟩
        rw [List.length_singleton]
        omega
    | failure e =>
      refine ⟨_, _, _, .fails hr, ?_⟩
      rw [List.length_singleton]
      omega
    | fault f => exact absurd hr (hx.no_fault c stop f hc)

/-! ## Repetitions follow the chain -/

open Logged

variable {limit : Nat} {env : List Rule}

/-- A repetition that may make as many attempts as the chain has follows it to its end. -/
theorem leaves_manyFrom_of_chain (hx : (run patience limit env r).Orderly text)
    (h : Chain r (run patience limit env r) c values attempts d) (hc : c.Valid) {tries : Nat}
    (htries : attempts.length ≤ tries) (before : List Value) :
    (manyFrom (logged patience limit env r) tries before).Leaves c fun calls o stop =>
      o = .value (before ++ values) ∧ stop = d ∧ Call.visits calls = attempts := by
  induction h generalizing tries before with
  | fails last =>
    cases tries with
    | zero => cases htries
    | succ tries =>
      refine .mark_bind (fun _ => attempt_bind_of_failure last fun inner => ?_)
        fun invalid => absurd hc invalid
      exact .goto_bind (.alone ⟨congrArg _ (List.append_nil _).symm, rfl, rfl⟩)
  | @still c stop v last same =>
    cases tries with
    | zero => cases htries
    | succ tries =>
      refine .mark_bind (fun _ => attempt_bind_of_value last fun inner => ?_)
        fun invalid => absurd hc invalid
      refine .position_bind ?_
      rw [if_pos same]
      exact .alone ⟨rfl, rfl, rfl⟩
  | @moves c stop d v values attempts first moved rest ih =>
    cases tries with
    | zero => cases htries
    | succ tries =>
      refine .mark_bind (fun _ => attempt_bind_of_value first fun inner => ?_)
        fun invalid => absurd hc invalid
      refine .position_bind ?_
      rw [if_neg (Int.ne_of_gt moved)]
      -- one attempt is used up, and the chain is shorter by one
      have hrest := ih (hx.valid hc first) (Nat.le_of_succ_le_succ htries) (before ++ [v])
      refine hrest.mono ?_
      rintro calls o stop ⟨rfl, rfl, hvisits⟩
      refine ⟨?_, rfl, ?_⟩
      · rw [List.append_assoc, List.singleton_append]
      · rw [Call.visits_cons_checkpoint, Call.visits_cons_rule, hvisits]

/-- What a repetition from one cursor to another comes to: its values, if their count is within its
bounds; if it is not, an error that tells the bounds and the count; or the reason why those cannot
be told. -/
def counted (min : Int) (max : Option Int) (values : List Value) (c d : Cursor text) :
    Outcome (List Value) :=
  if withinBounds min max values.length then
    .value values
  else
    match Issue.told (.countMismatch min max values.length) with
    | .ok issue => .failure (.located issue ((d.moveTo c.pos).stretch (d.pos - c.pos).toNat) none)
    | .error f => .fault f

/-- A repetition with bounds follows the chain, and then looks at the count. -/
theorem leaves_many_of_chain (hx : (run patience limit env r).Orderly text)
    (h : Chain r (run patience limit env r) c values attempts d) (hc : c.Valid)
    (hcount : (attempts.length : Int) ≤ text.length - c.pos + 1) (min : Int) (max : Option Int) :
    (Logged.many patience min max (logged patience limit env r)).Leaves c fun calls o stop =>
      Call.visits calls = attempts ∧ stop = d ∧ o = counted min max values c d := by
  have hlimit := lt_repetitionLimit patience hc
  have htries : attempts.length ≤ repetitionLimit patience text := by omega
  have hrepeated : (Logged.repeated patience (logged patience limit env r)).Leaves c
      fun calls o stop => o = .value values ∧ stop = d ∧ Call.visits calls = attempts :=
    .repeated (leaves_manyFrom_of_chain hx h hc htries [])
  refine .mark_bind (fun _ => hrepeated.bind ?_ ?_ ?_) fun invalid => absurd hc invalid
  · rintro calls vs stop ⟨hvalues, rfl, hvisits⟩
    cases hvalues
    rw [counted]
    split
    · refine .alone ⟨?_, rfl, rfl⟩
      rw [Call.visits_cons_checkpoint, List.append_nil, hvisits]
    · have htell : (Action.tell (.countMismatch min max values.length)).run stop =
          (.ofExcept (Issue.told (.countMismatch min max values.length)), stop) := rfl
      cases ht : Issue.told (.countMismatch min max values.length) with
      | error f =>
        rw [ht] at htell
        refine .invoke_bind_of_fault htell ⟨?_, rfl, rfl⟩
        rw [Call.visits_cons_checkpoint, Call.visits_append, hvisits]
        exact List.append_nil _
      | ok issue =>
        -- the error is located from where the chain has begun to where it has ended
        have hlocate := Action.run_locate_of_le hc h.pos_le stop
        rw [ht] at htell
        refine .invoke_bind_of_value htell (.position_bind ?_)
        refine .invoke_bind_of_value hlocate (.alone ⟨?_, rfl, rfl⟩)
        rw [Call.visits_cons_checkpoint, Call.visits_append, hvisits]
        exact List.append_nil _
  · rintro calls e stop ⟨hvalue, -⟩
    cases hvalue
  · rintro calls f stop ⟨hvalue, -⟩
    cases hvalue

/-- The letter `a`, or nothing where there is another one. -/
def perhapsLetter : Rule := .optional .null (.tag "a")

end Rule

end Descent
