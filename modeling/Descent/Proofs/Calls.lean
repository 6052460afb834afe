import Descent.Proofs.Everywhere
import Descent.Proofs.Log

/-!
# The calls of a run

The log of a run tells of each call when it starts and when it has finished, and between the two
of the calls that it makes itself. So the log is that of a tree of calls (`Call.events`), and what
a run does can be said about the calls that each call makes, one after another.

What the calls of an action are like is derived along the way it is put together: `Logged.Leaves`
holds of an action, a cursor and a condition on the calls, the outcome and the cursor afterwards,
and there is one rule for each of the steps that logged actions are made of.
-/

namespace Descent

@[simp] theorem Outcome.ending_value {α : Type} (a : α) :
    (Outcome.value a).ending = .value () := rfl
@[simp] theorem Outcome.ending_failure {α : Type} (e : ParseError) :
    (.failure e : Outcome α).ending = .failure e := rfl
@[simp] theorem Outcome.ending_fault {α : Type} (f : Fault) :
    (.fault f : Outcome α).ending = .fault f := rfl

/-! ## Trees of calls -/

/-- Something that was invoked, where the cursor stood then, what it invoked itself, in order, how
it has ended, and where the cursor stood then. -/
structure Call (text : List Char) where
  callee : Callee
  start : Cursor text
  inner : List (Call text)
  ending : Outcome Unit
  stop : Cursor text

namespace Call

variable {text : List Char}

/-- A call that calls nothing and leaves the cursor where it stands. -/
def leaf (callee : Callee) (c : Cursor text) (ending : Outcome Unit) : Call text :=
  ⟨callee, c, [], ending, c⟩

@[simp] theorem ending_leaf (callee : Callee) (c : Cursor text) (ending : Outcome Unit) :
    (leaf callee c ending).ending = ending := rfl

mutual

/-- The log of a call: its start, the calls it makes, and its end. -/
def events : Call text → List (Event text)
  | ⟨callee, start, inner, ending, stop⟩ =>
    .start callee start :: eventsAll inner ++ [.finish callee ending stop]

/-- The log of several calls, one after another. -/
def eventsAll : List (Call text) → List (Event text)
  | [] => []
  | a :: rest => events a ++ eventsAll rest

end

theorem eventsAll_append (as bs : List (Call text)) :
    eventsAll (as ++ bs) = eventsAll as ++ eventsAll bs := by
  induction as with
  | nil => rfl
  | cons a as ih => rw [List.cons_append, eventsAll, eventsAll, ih, List.append_assoc]

theorem eventsAll_singleton (a : Call text) : eventsAll [a] = a.events := by
  rw [eventsAll, eventsAll, List.append_nil]

/-- A condition holds of a call and of all calls inside it. -/
inductive Everywhere (P : Call text → Prop) : Call text → Prop
  | intro {a : Call text} (here : P a) (inside : ∀ b ∈ a.inner, Everywhere P b) : Everywhere P a

theorem Everywhere.here {P : Call text → Prop} {a : Call text} (h : Everywhere P a) : P a := by
  cases h with
  | intro here _ => exact here

mutual

/-- Whatever starts in the log of a call is the call or one inside it, and finishes in the log. -/
theorem exists_of_start_mem {P : Call text → Prop} {callee : Callee} {place : Cursor text} :
    ∀ a : Call text, a.Everywhere P → .start callee place ∈ a.events →
      ∃ b, P b ∧ b.callee = callee ∧ b.start = place ∧
        .finish callee b.ending b.stop ∈ a.events
  | ⟨outer, start, inner, ending, stop⟩, .intro here inside, h => by
    rw [events] at h ⊢
    rcases List.mem_append.1 h with h | h
    · rcases List.mem_cons.1 h with heq | h
      · cases heq
        exact ⟨_, here, rfl, rfl, by simp⟩
      · obtain ⟨b, hb, hcallee, hstart, hfinish⟩ := exists_of_start_mem_all inner inside h
        exact ⟨b, hb, hcallee, hstart, by simp [hfinish]⟩
    · simp at h

/-- The same for several calls. -/
theorem exists_of_start_mem_all {P : Call text → Prop} {callee : Callee} {place : Cursor text} :
    ∀ calls : List (Call text), (∀ a ∈ calls, a.Everywhere P) →
      .start callee place ∈ eventsAll calls →
      ∃ b, P b ∧ b.callee = callee ∧ b.start = place ∧
        .finish callee b.ending b.stop ∈ eventsAll calls
  | [], _, h => by simp [eventsAll] at h
  | a :: rest, hall, h => by
    rw [eventsAll] at h ⊢
    rcases List.mem_append.1 h with h | h
    · obtain ⟨b, hb, hcallee, hstart, hfinish⟩ :=
        exists_of_start_mem a (hall a List.mem_cons_self) h
      exact ⟨b, hb, hcallee, hstart, List.mem_append_left _ hfinish⟩
    · obtain ⟨b, hb, hcallee, hstart, hfinish⟩ :=
        exists_of_start_mem_all rest (fun a ha => hall a (List.mem_cons_of_mem _ ha)) h
      exact ⟨b, hb, hcallee, hstart, List.mem_append_right _ hfinish⟩

end

end Call

/-! ## The calls of an action -/

namespace Logged

variable {α β : Type} {text : List Char} {c : Cursor text}

/-- A run of an action from a cursor makes calls one after another such that they, the outcome and
the cursor afterwards meet a condition. -/
def Leaves (x : Logged α) (c : Cursor text)
    (post : List (Call text) → Outcome α → Cursor text → Prop) : Prop :=
  ∃ calls, (x.run c).1 = Call.eventsAll calls ∧ post calls (x.run c).2.1 (x.run c).2.2

namespace Leaves

variable {x : Logged α} {f : α → Logged β}
  {mid : List (Call text) → Outcome α → Cursor text → Prop}
  {post : List (Call text) → Outcome β → Cursor text → Prop}

theorem mono {post' : List (Call text) → Outcome α → Cursor text → Prop} (hx : x.Leaves c mid)
    (h : ∀ calls o d, mid calls o d → post' calls o d) : x.Leaves c post' := by
  obtain ⟨calls, hlog, hmid⟩ := hx
  exact ⟨calls, hlog, h _ _ _ hmid⟩

/-- What invokes nothing makes no calls. -/
theorem alone {x : Action α} (h : mid [] (x.run c).1 (x.run c).2) : (alone x).Leaves c mid :=
  ⟨[], rfl, h⟩

/-- What is invoked makes one call, and all others inside it. -/
theorem invoke {callee : Callee}
    (hx : x.Leaves c fun calls o d => mid [⟨callee, c, calls, o.ending, d⟩] o d) :
    (invoke callee x).Leaves c mid := by
  obtain ⟨calls, hlog, hmid⟩ := hx
  refine ⟨_, ?_, hmid⟩
  rw [Call.eventsAll_singleton, Call.events, ← hlog]
  rfl

/-- What is invoked without invoking anything makes one call. -/
theorem invoke_alone {callee : Callee} {x : Action α}
    (h : mid [⟨callee, c, [], (x.run c).1.ending, (x.run c).2⟩] (x.run c).1 (x.run c).2) :
    (Logged.invoke callee (.alone x)).Leaves c mid :=
  .invoke (.alone h)

/-- The calls of an action come before those of the one that it is followed by. -/
theorem bind (hx : x.Leaves c mid)
    (value : ∀ calls a d, mid calls (.value a) d →
      (f a).Leaves d fun rest o e => post (calls ++ rest) o e)
    (failure : ∀ calls e d, mid calls (.failure e) d → post calls (.failure e) d)
    (fault : ∀ calls e d, mid calls (.fault e) d → post calls (.fault e) d) :
    (x.bind f).Leaves c post := by
  obtain ⟨calls, hlog, hmid⟩ := hx
  rw [Leaves, run_bind]
  rcases hr : x.run c with ⟨log, o, d⟩
  rw [hr] at hlog hmid
  obtain rfl : log = Call.eventsAll calls := hlog
  cases o with
  | value a =>
    obtain ⟨rest, hrest, hpost⟩ := value calls a d hmid
    refine ⟨calls ++ rest, ?_, hpost⟩
    rw [Call.eventsAll_append, ← hrest]
  | failure e => exact ⟨calls, rfl, failure calls e d hmid⟩
  | fault e => exact ⟨calls, rfl, fault calls e d hmid⟩

/-- After an attempt, what follows is told of a parse error as of a value. -/
theorem attempt_bind {f : Except ParseError α → Logged β} (hx : x.Leaves c mid)
    (value : ∀ calls a d, mid calls (.value a) d →
      (f (.ok a)).Leaves d fun rest o e => post (calls ++ rest) o e)
    (failure : ∀ calls e d, mid calls (.failure e) d →
      (f (.error e)).Leaves d fun rest o e => post (calls ++ rest) o e)
    (fault : ∀ calls e d, mid calls (.fault e) d → post calls (.fault e) d) :
    ((attempt x).bind f).Leaves c post := by
  obtain ⟨calls, hlog, hmid⟩ := hx
  rw [Leaves, run_bind, run_attempt]
  rcases hr : x.run c with ⟨log, o, d⟩
  rw [hr] at hlog hmid
  obtain rfl : log = Call.eventsAll calls := hlog
  cases o with
  | value a =>
    obtain ⟨rest, hrest, hpost⟩ := value calls a d hmid
    refine ⟨calls ++ rest, ?_, hpost⟩
    rw [Call.eventsAll_append, ← hrest]
  | failure e =>
    obtain ⟨rest, hrest, hpost⟩ := failure calls e d hmid
    refine ⟨calls ++ rest, ?_, hpost⟩
    rw [Call.eventsAll_append, ← hrest]
  | fault e => exact ⟨calls, rfl, fault calls e d hmid⟩

/-- Moving the cursor makes no calls. -/
theorem goto_bind {p : Int} {f : Unit → Logged β} (h : (f ()).Leaves (c.moveTo p) post) :
    ((goto p).bind f).Leaves c post := h

/-- Asking for the position makes no calls. -/
theorem position_bind {f : Int → Logged β} (h : (f c.pos).Leaves c post) :
    (position.bind f).Leaves c post := h

/-- What is invoked without invoking anything is one call before the others. -/
theorem invoke_bind_of_value {callee : Callee} {x : Action α} {a : α} {d : Cursor text}
    (hx : x.run c = (.value a, d))
    (h : (f a).Leaves d fun rest o e => post (⟨callee, c, [], .value (), d⟩ :: rest) o e) :
    ((Logged.invoke callee (.alone x)).bind f).Leaves c post := by
  obtain ⟨rest, hrest, hpost⟩ := h
  refine ⟨⟨callee, c, [], .value (), d⟩ :: rest, ?_, ?_⟩
  · rw [run_bind, run_invoke_alone, hx, Call.eventsAll, ← hrest]
    rfl
  · rw [run_bind, run_invoke_alone, hx]
    exact hpost

/-- What is invoked and ends with a fault is the last call. -/
theorem invoke_bind_of_fault {callee : Callee} {x : Action α} {e : Fault} {d : Cursor text}
    (hx : x.run c = (.fault e, d)) (h : post [⟨callee, c, [], .fault e, d⟩] (.fault e) d) :
    ((Logged.invoke callee (.alone x)).bind f).Leaves c post := by
  refine ⟨[⟨callee, c, [], .fault e, d⟩], ?_, ?_⟩
  · rw [run_bind, run_invoke_alone, hx, Call.eventsAll_singleton]
    rfl
  · rw [run_bind, run_invoke_alone, hx]
    exact h

/-- Taking a checkpoint is one call, and ends the run where the cursor is not valid. -/
theorem mark_bind {f : Int → Logged β}
    (valid : c.Valid → (f c.pos).Leaves c fun rest o d =>
      post (.leaf .checkpoint c (.value ()) :: rest) o d)
    (invalid : ¬ c.Valid → ∀ e, post [.leaf .checkpoint c (.fault e)] (.fault e) c) :
    (mark.bind f).Leaves c post := by
  by_cases hc : c.Valid
  · exact invoke_bind_of_value (Action.mark_of_valid hc) (valid hc)
  · have hmark : Action.mark.run c = (.fault (.position (.outside text.length c.pos)), c) := by
      simp [Action.mark, Cursor.checked_of_not_valid hc]
    exact invoke_bind_of_fault hmark (invalid hc _)

/-- A function without effect on the value makes no calls. -/
theorem mapValue {g : α → β} (post : List (Call text) → Outcome Unit → Cursor text → Prop)
    (hx : x.Leaves c fun calls o d => post calls o.ending d) :
    (x.mapValue g).Leaves c fun calls o d => post calls o.ending d := by
  refine hx.bind (fun calls a d h => ?_) (fun calls e d h => h) fun calls e d h => h
  refine .alone ?_
  rw [List.append_nil]
  exact h

/-- A repetition makes the calls of as many attempts as it is given. -/
theorem repeated {mid : List (Call text) → Outcome (List α) → Cursor text → Prop}
    {patience : Nat} (hx : (manyFrom x (Action.repetitionLimit patience text) []).Leaves c mid) :
    (repeated patience x).Leaves c mid := by
  have same : (Logged.repeated patience x).run c =
    (manyFrom x (Action.repetitionLimit patience text) []).run c := rfl
  rw [Leaves, same]
  exact hx

/-- The outcome and the cursor are those of the action without its log. -/
theorem with_run (hx : x.Leaves c mid) :
    x.Leaves c fun calls o d => mid calls o d ∧ x.forget.run c = (o, d) := by
  obtain ⟨calls, hlog, hmid⟩ := hx
  exact ⟨calls, hlog, hmid, rfl⟩

end Leaves

/-- An action is the call of a rule, and the call meets a condition. -/
def IsCall (good : Call text → Prop) (r : Rule) (x : Logged Value) : Prop :=
  ∀ c : Cursor text, x.Leaves c fun calls o d =>
    ∃ inner, calls = [⟨.rule r, c, inner, o.ending, d⟩] ∧ good ⟨.rule r, c, inner, o.ending, d⟩

end Logged

/-! ## Calls that are runs -/

namespace Rule

/-- A condition on a rule and its definitions passes on to whatever the rule calls: its parts, or
the definition that it refers to. -/
structure Hereditary (inv : List Rule → Rule → Prop) : Prop where
  part : ∀ {env : List Rule} {r : Rule}, inv env r → ∀ p ∈ parts env r, inv p.1 p.2
  definition : ∀ {env : List Rule} {level : Nat} {name : Option String} {d : Rule},
    inv env (.ref level name) → env[level]? = some d → inv (env.take (level + 1)) d

theorem hereditary_true : Hereditary fun _ _ => True := ⟨fun _ _ _ => trivial, fun _ _ => trivial⟩

/-- What holds throughout a rule holds throughout whatever it calls. -/
theorem hereditary_throughout (P : List Rule → Rule → Prop) : Hereditary (Throughout P) where
  part h _ hp := (h.everywhere.inside hp).here
  definition h hd := ⟨h.definitions _ _ hd, h.definitions.take _⟩

end Rule

/-- A call of a rule is a run of it from the cursor at its start, among definitions that it is
called with. -/
def Call.IsRun {text : List Char} (patience : Nat) (inv : List Rule → Rule → Prop)
    (a : Call text) : Prop :=
  ∀ r, a.callee = .rule r → ∃ (limit : Nat) (env : List Rule) (o : Outcome Value),
    inv env r ∧ (Rule.run patience limit env r).run a.start = (o, a.stop) ∧ o.ending = a.ending

end Descent
