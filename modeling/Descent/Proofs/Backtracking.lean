import Descent.Proofs.Calls
import Descent.Proofs.Primitive
import Descent.Proofs.Visible

/-!
# Backtracking is exact

A rule that fails may leave the cursor anywhere: behind what it has read, before where it began, or
outside the text, since an author's own action may move the cursor as it likes. Choice, repetition
and recovery put it back. What each of them does is said about the calls that it makes: `Tries` for
the alternatives of a choice, `Attempts` for a repetition and `Recovers` for a handler; and
`Undone` says of the calls of any rule that what has been read by a failed one is not seen by what
comes next.

All calls of a run are so, however deep inside it (`Rule.run_backtracks`).
-/

namespace Descent

namespace Call

variable {text : List Char}

/-! ## What the calls of a rule are like -/

/-- Where it goes on: where the next call begins, or, if there is none, at the end. -/
def next (d : Cursor text) : List (Call text) → Cursor text
  | [] => d
  | a :: _ => a.start

/-- The calls of something that ends with an outcome and the cursor at `d`. If one of them fails,
then either that is the last of them and the failure of all, or it goes on at the position where
the failed call began. -/
def Undone (o : Outcome Unit) (d : Cursor text) : List (Call text) → Prop
  | [] => True
  | a :: rest =>
    (∀ e, a.ending = .failure e →
      (rest = [] ∧ o = .failure e ∧ d = a.stop) ∨ (next d rest).pos = a.start.pos) ∧
    Undone o d rest

/-- The calls of a choice that begins at the position `p`, behind its checkpoint. The alternatives
are called in order, all from `p`, up to the first that does not fail. When all have failed, the
cursor is back at `p`, the location of the error is made, and the choice fails. -/
inductive Tries (p : Int) : List Rule → List (Call text) → Outcome Unit → Cursor text → Prop
  | none {c : Cursor text} {e : ParseError} (back : c.pos = p) :
      Tries p [] [.leaf .location c (.value ())] (.failure e) c
  | next {r : Rule} {rs : List Rule} {c stop : Cursor text} {inner : List (Call text)}
      {e : ParseError} {calls : List (Call text)} {o : Outcome Unit} {d : Cursor text}
      (begins : c.pos = p) (rest : Tries p rs calls o d) :
      Tries p (r :: rs) (⟨.rule r, c, inner, .failure e, stop⟩ :: calls) o d
  | found {r : Rule} {rs : List Rule} {c stop : Cursor text} {inner : List (Call text)}
      {o : Outcome Unit} (begins : c.pos = p) (kept : ∀ e, o ≠ .failure e) :
      Tries p (r :: rs) [⟨.rule r, c, inner, o, stop⟩] o stop

/-- The calls of a repetition from a cursor on that has a number of attempts left, each of them
behind its checkpoint. An attempt begins where the one before it has ended. The one that fails is
undone: the cursor is put back to the position where it began. An attempt that matches without
moving the cursor is the last one. A fault ends the repetition where it stands, also one at a
checkpoint outside the text, or when all attempts have moved the cursor and none is left. -/
inductive Attempts (r : Rule) :
    Nat → Cursor text → List (Call text) → Outcome Unit → Cursor text → Prop
  | undone {left : Nat} {c stop : Cursor text} {inner : List (Call text)} {e : ParseError} :
      Attempts r (left + 1) c
        [.leaf .checkpoint c (.value ()), ⟨.rule r, c, inner, .failure e, stop⟩]
        (.value ()) (stop.moveTo c.pos)
  | still {left : Nat} {c stop : Cursor text} {inner : List (Call text)}
      (same : stop.pos = c.pos) :
      Attempts r (left + 1) c
        [.leaf .checkpoint c (.value ()), ⟨.rule r, c, inner, .value (), stop⟩] (.value ()) stop
  | next {left : Nat} {c stop : Cursor text} {inner calls : List (Call text)} {o : Outcome Unit}
      {d : Cursor text} (moved : stop.pos ≠ c.pos) (rest : Attempts r left stop calls o d) :
      Attempts r (left + 1) c
        (.leaf .checkpoint c (.value ()) :: ⟨.rule r, c, inner, .value (), stop⟩ :: calls) o d
  | fault {left : Nat} {c stop : Cursor text} {inner : List (Call text)} {f : Fault} :
      Attempts r (left + 1) c
        [.leaf .checkpoint c (.value ()), ⟨.rule r, c, inner, .fault f, stop⟩] (.fault f) stop
  | refused {left : Nat} {c : Cursor text} {f : Fault} (outside : ¬ c.Valid) :
      Attempts r (left + 1) c [.leaf .checkpoint c (.fault f)] (.fault f) c
  | endless {c : Cursor text} :
      Attempts r 0 c [.leaf .count c (.fault .endless)] (.fault .endless) c

/-- Where the last of the calls of rules has ended that have matched, or `c` if there is none. -/
def lastMatch (c : Cursor text) : List (Call text) → Cursor text
  | [] => c
  | ⟨.rule _, _, _, .value _, stop⟩ :: rest => lastMatch stop rest
  | _ :: rest => lastMatch c rest

/-- Calls that put an error into words and make its location, where the cursor stands at `d`, and
do not fail. -/
def ReportsAt (d : Cursor text) (calls : List (Call text)) : Prop :=
  ∀ a ∈ calls, ∃ ending, (a = .leaf .message d ending ∨ a = .leaf .location d ending) ∧
    ∀ e, ending ≠ .failure e

/-- The calls of a repetition with bounds that begins at a cursor, behind its checkpoint: the
attempts, and if their count is out of bounds the message and the location of the error, made where
the attempts have ended. Unless there is a fault, the cursor ends at the position where the last
attempt that has matched has ended. -/
structure Repeats (patience : Nat) (r : Rule) (c : Cursor text) (calls : List (Call text))
    (o : Outcome Unit) (d : Cursor text) : Prop where
  attempts : ∃ tries rest o', calls = tries ++ rest ∧
    Attempts r (Action.repetitionLimit patience text) c tries o' d ∧ ReportsAt d rest ∧
      ∀ f, o' = .fault f → o = .fault f
  ends : (∀ f, o ≠ .fault f) → d.pos = (lastMatch c calls).pos

/-- The calls of a rule with a handler that begins at a cursor, behind its checkpoint. The rule is
called there. If it fails, the handler is called with the cursor back at the position, and what it
makes of the error is the outcome there. -/
inductive Recovers (handler : ParseError → Outcome Value) (r : Rule) (c : Cursor text) :
    List (Call text) → Outcome Unit → Cursor text → Prop
  | kept {inner : List (Call text)} {o : Outcome Unit} {stop : Cursor text}
      (kept : ∀ e, o ≠ .failure e) : Recovers handler r c [⟨.rule r, c, inner, o, stop⟩] o stop
  | recovered {inner : List (Call text)} {e : ParseError} {stop back : Cursor text}
      (begins : back.pos = c.pos) :
      Recovers handler r c
        [⟨.rule r, c, inner, .failure e, stop⟩, .leaf .handler back (handler e).ending]
        (handler e).ending back

/-- The calls of something that takes a checkpoint first, and behind it makes calls by a law, if the
cursor is valid. -/
def Behind (law : List (Call text) → Outcome Unit → Cursor text → Prop) (c : Cursor text)
    (calls : List (Call text)) (o : Outcome Unit) (d : Cursor text) : Prop :=
  c.Valid → ∃ rest, calls = .leaf .checkpoint c (.value ()) :: rest ∧ law rest o d

/-- What a rule that begins at a cursor calls, if it is one of those that put the cursor back. -/
def Backtracks (patience : Nat) (c : Cursor text) (calls : List (Call text)) (o : Outcome Unit)
    (d : Cursor text) : Rule → Prop
  | .choices _ rs => Behind (Tries c.pos rs) c calls o d
  | .many _ _ r => Behind (Repeats patience r c) c calls o d
  | .catching handler r => Behind (Recovers handler r c) c calls o d
  | _ => True

/-- Backtracking is exact in a call: what fails is undone, and a rule calls what it has to, unless
the depth has run out before it could call anything. -/
structure Exact (patience : Nat) (a : Call text) : Prop where
  undone : Undone a.ending a.stop a.inner
  backtracks : ∀ r, a.callee = .rule r →
    (a.inner = [] ∧ a.ending = .fault .tooDeep) ∨
      Backtracks patience a.start a.inner a.ending a.stop r

/-! ## What fails is undone -/

/-- The calls of something that does not recover: after a failure there is no other call. -/
def InTurn (o : Outcome Unit) (d : Cursor text) : List (Call text) → Prop
  | [] => True
  | a :: rest =>
    (∀ e, a.ending = .failure e → rest = [] ∧ o = .failure e ∧ d = a.stop) ∧ InTurn o d rest

variable {patience left : Nat} {o : Outcome Unit} {c d : Cursor text}
  {calls rest : List (Call text)}

theorem InTurn.undone (h : InTurn o d calls) : Undone o d calls := by
  induction calls with
  | nil => trivial
  | cons a rest ih => exact ⟨fun e he => .inl (h.1 e he), ih h.2⟩

/-- None of the calls has failed if nothing has. -/
theorem InTurn.not_failure (h : InTurn o d calls) (ho : ∀ e, o ≠ .failure e) :
    ∀ a ∈ calls, ∀ e, a.ending ≠ .failure e := by
  induction calls with
  | nil => exact fun a ha => absurd ha List.not_mem_nil
  | cons b rest ih =>
    intro a ha e he
    rcases List.mem_cons.1 ha with rfl | ha
    · exact ho e (h.1 e he).2.1
    · exact ih h.2 a ha e he

theorem InTurn.append (h : InTurn o d rest) (hcalls : ∀ a ∈ calls, ∀ e, a.ending ≠ .failure e) :
    InTurn o d (calls ++ rest) := by
  induction calls with
  | nil => exact h
  | cons a calls ih =>
    refine ⟨fun e he => absurd he (hcalls a List.mem_cons_self e), ?_⟩
    exact ih fun b hb => hcalls b (List.mem_cons_of_mem _ hb)

/-- A call that has not failed need not be undone. -/
theorem Undone.cons {a : Call text} (h : Undone o d calls) (ha : ∀ e, a.ending ≠ .failure e) :
    Undone o d (a :: calls) :=
  ⟨fun e he => absurd he (ha e), h⟩

/-- A choice goes on where it has begun. -/
theorem Tries.next_pos {p : Int} {rs : List Rule} (h : Tries p rs calls o d) :
    (Call.next d calls).pos = p := by
  cases h with
  | none back => exact back
  | next begins => exact begins
  | found begins => exact begins

theorem Tries.undone {p : Int} {rs : List Rule} (h : Tries p rs calls o d) :
    Undone o d calls := by
  induction h with
  | none => exact .cons trivial (by simp)
  | next begins rest ih => exact ⟨fun _ _ => .inr (rest.next_pos.trans begins.symm), ih⟩
  | found begins kept => exact .cons trivial kept

theorem Recovers.undone {handler : ParseError → Outcome Value} {r : Rule}
    (h : Recovers handler r c calls o d) : Undone o d calls := by
  cases h with
  | kept kept => exact .cons trivial kept
  | recovered begins =>
    -- the handler may fail in its turn, and then that is the failure of all
    exact ⟨fun _ _ => .inr begins, fun _ he => .inl ⟨rfl, he, rfl⟩, trivial⟩

/-- An error is reported where the cursor stands. -/
theorem ReportsAt.next_eq (h : ReportsAt d calls) : Call.next d calls = d := by
  cases calls with
  | nil => rfl
  | cons a rest =>
    obtain ⟨ending, rfl | rfl, -⟩ := h a List.mem_cons_self <;> rfl

theorem ReportsAt.lastMatch_eq (h : ReportsAt d calls) (c : Cursor text) :
    lastMatch c calls = c := by
  induction calls with
  | nil => rfl
  | cons a rest ih =>
    have hrest := ih fun b hb => h b (List.mem_cons_of_mem _ hb)
    obtain ⟨ending, rfl | rfl, -⟩ := h a List.mem_cons_self <;> exact hrest

theorem ReportsAt.undone (h : ReportsAt d calls) : Undone o d calls := by
  induction calls with
  | nil => trivial
  | cons a rest ih =>
    have hrest := ih fun b hb => h b (List.mem_cons_of_mem _ hb)
    obtain ⟨ending, rfl | rfl, hending⟩ := h a List.mem_cons_self <;>
      exact .cons hrest hending

/-- The attempts of a repetition are undone, and it goes on where they have ended. -/
theorem Attempts.undone_append {r : Rule} {tries : List (Call text)} {o' : Outcome Unit}
    (h : Attempts r left c tries o' d) (hrest : ReportsAt d rest) : Undone o d (tries ++ rest) := by
  induction h with
  | @undone left c stop inner e =>
    refine .cons ⟨fun _ _ => .inr ?_, hrest.undone⟩ (by simp)
    show (Call.next (stop.moveTo c.pos) rest).pos = c.pos
    rw [hrest.next_eq, Cursor.pos_moveTo]
  | still same => exact .cons (.cons hrest.undone (by simp)) (by simp)
  | next moved attempts ih => exact .cons (.cons (ih hrest) (by simp)) (by simp)
  | fault => exact .cons (.cons hrest.undone (by simp)) (by simp)
  | refused outside => exact .cons hrest.undone (by simp)
  | endless => exact .cons hrest.undone (by simp)

theorem Repeats.undone {r : Rule} (h : Repeats patience r c calls o d) : Undone o d calls := by
  obtain ⟨tries, rest, o', rfl, attempts, hrest, -⟩ := h.attempts
  exact attempts.undone_append hrest

/-- The attempts of a repetition end where the last one that has matched has ended. -/
theorem Attempts.pos_eq {r : Rule} {tries : List (Call text)} (h : Attempts r left c tries o d)
    (ho : ∀ f, o ≠ .fault f) (hrest : ReportsAt d rest) :
    d.pos = (lastMatch c (tries ++ rest)).pos := by
  induction h with
  | @undone left c stop inner e =>
    show c.pos = (lastMatch c rest).pos
    rw [hrest.lastMatch_eq]
  | @still left c stop inner same =>
    show stop.pos = (lastMatch stop rest).pos
    rw [hrest.lastMatch_eq]
  | next moved attempts ih => exact ih ho hrest
  | fault => exact absurd rfl (ho _)
  | refused outside => exact absurd rfl (ho _)
  | endless => exact absurd rfl (ho _)

/-- A repetition does not fail by itself. -/
theorem Attempts.ne_failure {r : Rule} (h : Attempts r left c calls o d) (e : ParseError) :
    o ≠ .failure e := by
  induction h with
  | next moved attempts ih => exact ih
  | _ => simp

/-- Attempts that have ended without a fault, with whatever comes of their count. -/
theorem Attempts.repeats {r : Rule} {tries : List (Call text)}
    (h : Attempts r (Action.repetitionLimit patience text) c tries (.value ()) d)
    (hrest : ReportsAt d rest) : Repeats patience r c (tries ++ rest) o d where
  attempts := ⟨tries, rest, .value (), rfl, h, hrest, (by simp)⟩
  ends _ := h.pos_eq (by simp) hrest

/-- A fault among the attempts is that of the repetition. -/
theorem Attempts.repeats_fault {r : Rule} {f : Fault}
    (h : Attempts r (Action.repetitionLimit patience text) c calls (.fault f) d) :
    Repeats patience r c calls (.fault f) d where
  attempts := ⟨calls, [], .fault f, (List.append_nil _).symm, h,
    fun _ ha => absurd ha List.not_mem_nil, fun _ hf => hf⟩
  ends ho := absurd rfl (ho f)

end Call

/-! ## The calls of combinations -/

namespace Logged

open Call

variable {α β : Type} {text : List Char} {good : Call text → Prop} {c : Cursor text}

/-- An action makes calls that meet a condition, and none after one that fails. -/
def Ordered (good : Call text → Prop) (x : Logged α) : Prop :=
  ∀ c : Cursor text, x.Leaves c fun calls o d => (∀ a ∈ calls, good a) ∧ InTurn o.ending d calls

theorem IsCall.ordered {r : Rule} {x : Logged Value} (hx : IsCall good r x) : Ordered good x := by
  refine fun c => (hx c).mono ?_
  rintro calls o d ⟨inner, rfl, hgood⟩
  exact ⟨by simpa using hgood, fun e he => ⟨rfl, he, rfl⟩, trivial⟩

namespace Ordered

theorem alone (x : Action α) : Ordered good (.alone x) :=
  fun _ => .alone ⟨fun _ ha => absurd ha List.not_mem_nil, trivial⟩

theorem bind {x : Logged α} {f : α → Logged β} (hx : Ordered good x)
    (hf : ∀ a, Ordered good (f a)) : Ordered good (x.bind f) := by
  intro c
  refine (hx c).bind ?_ (fun calls e d h => h) fun calls e d h => h
  rintro calls a d ⟨hgood, inTurn⟩
  refine (hf a d).mono ?_
  rintro rest o e ⟨hgood', inTurn'⟩
  refine ⟨fun a ha => (List.mem_append.1 ha).elim (hgood a) (hgood' a), ?_⟩
  exact inTurn'.append (inTurn.not_failure (by simp))

theorem mapValue {x : Logged α} (hx : Ordered good x) (g : α → β) : Ordered good (x.mapValue g) :=
  hx.bind fun _ => .alone _

theorem transform (leaf : ∀ c ending, good (.leaf .function c ending)) {x : Logged α}
    (hx : Ordered good x) (g : α → Outcome β) : Ordered good (x.transform g) := by
  refine hx.bind fun a c => .invoke_alone ⟨?_, fun e he => ⟨rfl, he, rfl⟩, trivial⟩
  intro b hb
  rw [List.mem_singleton.1 hb]
  exact leaf c _

theorem both {x : Logged α} {y : Logged β} (hx : Ordered good x) (hy : Ordered good y) :
    Ordered good (x.both y) :=
  hx.bind fun _ => hy.mapValue _

theorem keepLeft {x : Logged α} {y : Logged β} (hx : Ordered good x) (hy : Ordered good y) :
    Ordered good (x.keepLeft y) :=
  hx.bind fun _ => hy.mapValue _

theorem keepRight {x : Logged α} {y : Logged β} (hx : Ordered good x) (hy : Ordered good y) :
    Ordered good (x.keepRight y) :=
  hx.bind fun _ => hy

theorem seqFrom {xs : List (Bool × Logged α)} (hxs : ∀ entry ∈ xs, Ordered good entry.2)
    (values : List α) : Ordered good (seqFrom values xs) := by
  induction xs generalizing values with
  | nil => exact .alone _
  | cons entry rest ih =>
    refine (hxs entry List.mem_cons_self).bind fun _ => ih ?_ _
    exact fun entry he => hxs entry (List.mem_cons_of_mem _ he)

end Ordered

theorem Ordered.leaves {x : Logged α} (hx : Ordered good x) (c : Cursor text) :
    x.Leaves c fun calls o d => (∀ a ∈ calls, good a) ∧ Undone o.ending d calls ∧ True := by
  refine (hx c).mono ?_
  rintro calls o d ⟨hgood, inTurn⟩
  exact ⟨hgood, inTurn.undone, trivial⟩

section Recovery

variable (leaf : ∀ callee c ending, (∀ r, callee ≠ .rule r) → good (.leaf callee c ending))

include leaf

/-- The alternatives of a choice are tried from the position where it has begun. -/
theorem leaves_choicesFrom {x : Rule → Logged Value} {rs : List Rule}
    (hx : ∀ r ∈ rs, IsCall good r (x r)) {s : Cursor text} (hs : s.Valid)
    (labels notes : List String) {furthest : Int} (hle : s.pos ≤ furthest) (c : Cursor text) :
    (choicesFrom labels s.pos furthest notes (rs.map fun r => (r.label, x r))).Leaves c
      fun calls o d => (∀ a ∈ calls, good a) ∧ Tries s.pos rs calls o.ending d := by
  induction rs generalizing notes furthest c with
  | nil =>
    have hlocate := Action.run_locate_of_le hs hle (c.moveTo s.pos)
    rw [List.map_nil, choicesFrom]
    refine .goto_bind ?_
    refine .invoke_bind_of_value hlocate (.alone ⟨?_, .none rfl⟩)
    intro a ha
    rw [List.mem_singleton.1 ha]
    exact leaf _ _ _ (by simp)
  | cons r rs ih =>
    rw [List.map_cons, choicesFrom]
    refine .goto_bind ?_
    refine .attempt_bind (hx r List.mem_cons_self _) ?_ ?_ ?_
    · rintro calls a d ⟨inner, rfl, hgood⟩
      exact .alone ⟨by simpa using hgood, .found rfl (by simp)⟩
    · rintro calls e d ⟨inner, rfl, hgood⟩
      -- the next alternative is tried from the same position, wherever this one has stopped
      have hfar : s.pos ≤ max furthest d.pos := Int.le_trans hle (Int.le_max_left _ _)
      refine .position_bind ((ih (fun r hr => hx r (List.mem_cons_of_mem _ hr)) _ hfar d).mono ?_)
      rintro rest o stop ⟨hrest, tries⟩
      refine ⟨fun a ha => ?_, .next rfl tries⟩
      rcases List.mem_cons.1 ha with rfl | ha
      · exact hgood
      · exact hrest a ha
    · rintro calls e d ⟨inner, rfl, hgood⟩
      exact ⟨by simpa using hgood, .found rfl (by simp)⟩

/-- What takes a checkpoint first. -/
theorem leaves_behind {law : List (Call text) → Outcome Unit → Cursor text → Prop}
    (undone : ∀ {calls o d}, law calls o d → Undone o d calls) {f : Int → Logged α}
    (h : c.Valid → (f c.pos).Leaves c fun calls o d =>
      (∀ a ∈ calls, good a) ∧ law calls o.ending d) :
    (mark.bind f).Leaves c fun calls o d =>
      (∀ a ∈ calls, good a) ∧ Undone o.ending d calls ∧ Behind law c calls o.ending d := by
  refine .mark_bind (fun hc => (h hc).mono ?_) fun hc e => ?_
  · rintro rest o d ⟨hgood, hlaw⟩
    refine ⟨fun a ha => ?_, (undone hlaw).cons (by simp), fun _ => ⟨rest, rfl, hlaw⟩⟩
    rcases List.mem_cons.1 ha with rfl | ha
    · exact leaf _ _ _ (by simp)
    · exact hgood a ha
  · refine ⟨fun a ha => ?_, .cons trivial (by simp), fun h => absurd h hc⟩
    rw [List.mem_singleton.1 ha]
    exact leaf _ _ _ (by simp)

theorem leaves_choices {x : Rule → Logged Value} {rs : List Rule}
    (hx : ∀ r ∈ rs, IsCall good r (x r)) (c : Cursor text) :
    (choices (rs.map fun r => (r.label, x r))).Leaves c fun calls o d =>
      (∀ a ∈ calls, good a) ∧ Undone o.ending d calls ∧
        Behind (Tries c.pos rs) c calls o.ending d :=
  leaves_behind leaf Tries.undone fun hc =>
    leaves_choicesFrom leaf hx hc _ _ (Int.le_refl _) c

/-- Each attempt of a repetition begins where the one before it has ended. -/
theorem leaves_manyFrom {r : Rule} {x : Logged Value} (hx : IsCall good r x) (limit : Nat)
    (values : List Value) (c : Cursor text) :
    (manyFrom x limit values).Leaves c fun calls o d =>
      (∀ a ∈ calls, good a) ∧ Attempts r limit c calls o.ending d := by
  have hcheck : ∀ (c : Cursor text) (ending : Outcome Unit),
      good (.leaf .checkpoint c ending) := fun c e => leaf _ c e (by simp)
  induction limit generalizing values c with
  | zero =>
    refine .invoke_alone ⟨fun a ha => ?_, .endless⟩
    rw [List.mem_singleton.1 ha]
    exact leaf _ _ _ (by simp)
  | succ limit ih =>
    refine .mark_bind (fun hc => .attempt_bind (hx c) ?_ ?_ ?_) fun hc e => ?_
    · rintro calls v d ⟨inner, rfl, hgood⟩
      refine .position_bind ?_
      by_cases still : d.pos = c.pos
      · rw [if_pos still]
        exact .alone ⟨by simpa using ⟨hcheck c _, hgood⟩, .still still⟩
      · rw [if_neg still]
        refine (ih _ d).mono ?_
        rintro rest o stop ⟨hrest, attempts⟩
        refine ⟨fun a ha => ?_, .next still attempts⟩
        rcases List.mem_cons.1 ha with rfl | ha
        · exact hcheck c _
        · rcases List.mem_cons.1 ha with rfl | ha
          · exact hgood
          · exact hrest a ha
    · rintro calls e d ⟨inner, rfl, hgood⟩
      refine .goto_bind ?_
      exact .alone ⟨by simpa using ⟨hcheck c _, hgood⟩, .undone⟩
    · rintro calls e d ⟨inner, rfl, hgood⟩
      exact ⟨by simpa using ⟨hcheck c _, hgood⟩, .fault⟩
    · exact ⟨by simpa using hcheck c _, .refused hc⟩

/-- An error is reported with calls that leave the cursor where it stands. -/
theorem leaves_failFrom (start : Int) (issue : Issue) (c : Cursor text) :
    (failFrom start issue : Logged α).Leaves c fun calls _ d =>
      (∀ a ∈ calls, good a) ∧ ReportsAt c calls ∧ d = c := by
  have message (ending : Outcome Unit) : good (.leaf .message c ending) := leaf _ _ _ (by simp)
  have location (ending : Outcome Unit) : good (.leaf .location c ending) := leaf _ _ _ (by simp)
  have htell : (Action.tell issue).run c = (.ofExcept issue.told, c) := rfl
  have hlocate : (Action.locate start c.pos).run c = (.ofPosition (c.locate start c.pos), c) := rfl
  cases ht : issue.told with
  | error f =>
    rw [ht] at htell
    refine .invoke_bind_of_fault htell ⟨?_, ?_, rfl⟩
    · exact fun a ha => List.mem_singleton.1 ha ▸ message _
    · exact fun a ha => ⟨_, .inl (List.mem_singleton.1 ha), by simp⟩
  | ok told =>
    rw [ht] at htell
    refine .invoke_bind_of_value htell (.position_bind ?_)
    have reports (ending : Outcome Unit) (hending : ∀ e, ending ≠ .failure e) :
        (∀ a ∈ [Call.leaf .message c (.value ()), .leaf .location c ending], good a) ∧
          ReportsAt c [.leaf .message c (.value ()), .leaf .location c ending] := by
      refine ⟨by simpa using ⟨message _, location _⟩, fun a ha => ?_⟩
      rcases List.mem_cons.1 ha with rfl | ha
      · exact ⟨_, .inl rfl, by simp⟩
      · exact ⟨_, .inr (List.mem_singleton.1 ha), hending⟩
    cases hl : c.locate start c.pos with
    | ok l =>
      rw [hl] at hlocate
      obtain ⟨hgood, hreports⟩ := reports (.value ()) (by simp)
      exact .invoke_bind_of_value hlocate (.alone ⟨hgood, hreports, rfl⟩)
    | error e =>
      rw [hl] at hlocate
      obtain ⟨hgood, hreports⟩ := reports (.fault (.position e)) (by simp)
      exact .invoke_bind_of_fault hlocate ⟨hgood, hreports, rfl⟩

theorem leaves_many {r : Rule} {x : Logged Value} (hx : IsCall good r x) (patience : Nat)
    (min : Int) (max : Option Int) (c : Cursor text) :
    (many patience min max x).Leaves c fun calls o d =>
      (∀ a ∈ calls, good a) ∧ Undone o.ending d calls ∧
        Behind (Repeats patience r c) c calls o.ending d := by
  have hrepeated : (repeated patience x).Leaves c fun calls o d =>
      (∀ a ∈ calls, good a) ∧
        Attempts r (Action.repetitionLimit patience text) c calls o.ending d :=
    .repeated (leaves_manyFrom leaf hx (Action.repetitionLimit patience text) [] c)
  refine leaves_behind leaf Repeats.undone fun hc => hrepeated.bind ?_ ?_ ?_
  · rintro tries values d ⟨hgood, attempts⟩
    split
    · refine .alone ⟨by simpa using hgood, ?_⟩
      exact attempts.repeats fun _ ha => absurd ha List.not_mem_nil
    · -- the error is reported where the attempts have ended
      refine (leaves_failFrom leaf _ _ d).mono ?_
      rintro rest o stop ⟨hrest, reports, rfl⟩
      refine ⟨fun a ha => ?_, attempts.repeats reports⟩
      exact (List.mem_append.1 ha).elim (hgood a) (hrest a)
  · rintro tries e d ⟨-, attempts⟩
    exact absurd rfl (attempts.ne_failure e)
  · rintro tries e d ⟨hgood, attempts⟩
    exact ⟨hgood, attempts.repeats_fault⟩

theorem leaves_catching {r : Rule} {x : Logged Value} (hx : IsCall good r x)
    (handler : ParseError → Outcome Value) (c : Cursor text) :
    (catching handler x).Leaves c fun calls o d =>
      (∀ a ∈ calls, good a) ∧ Undone o.ending d calls ∧
        Behind (Recovers handler r c) c calls o.ending d := by
  refine leaves_behind leaf Recovers.undone fun hc => .attempt_bind (hx c) ?_ ?_ ?_
  · rintro calls v d ⟨inner, rfl, hgood⟩
    exact .alone ⟨by simpa using hgood, .kept (by simp)⟩
  · rintro calls e d ⟨inner, rfl, hgood⟩
    refine .goto_bind (.invoke_alone ⟨fun a ha => ?_, .recovered rfl⟩)
    rcases List.mem_cons.1 ha with rfl | ha
    · exact hgood
    · rw [List.mem_singleton.1 ha]
      exact leaf _ _ _ (by simp)
  · rintro calls e d ⟨inner, rfl, hgood⟩
    exact ⟨by simpa using hgood, .kept (by simp)⟩

end Recovery

end Logged

namespace Rule

open Call Logged

variable {patience : Nat} {text : List Char}

/-- The calls that a rule makes are as they should be if those are that it makes itself. -/
theorem leaves_loggedLayer {good : Call text → Prop}
    (leaf : ∀ callee c ending, (∀ r, callee ≠ .rule r) → good (.leaf callee c ending))
    {call : List Rule → Rule → Logged Value} {env : List Rule} {r : Rule}
    (hparts : ∀ p ∈ parts env r, IsCall good p.2 (call p.1 p.2))
    (hdefinition : ∀ level name d, r = .ref level name → env[level]? = some d →
      IsCall good d (call (env.take (level + 1)) d)) (patience : Nat) (c : Cursor text) :
    (loggedLayer patience call env r).Leaves c fun calls o d =>
      (∀ a ∈ calls, good a) ∧ Undone o.ending d calls ∧
        Backtracks patience c calls o.ending d r := by
  have part : ∀ {s : Rule}, (env, s) ∈ parts env r → IsCall good s (call env s) :=
    fun hs => hparts _ hs
  cases r with
  | tag literal => exact (Ordered.alone _).leaves c
  | regex pattern accepts => exact (Ordered.alone _).leaves c
  | eof => exact (Ordered.alone _).leaves c
  | action x => exact (Ordered.alone _).leaves c
  | map f s =>
    have hs := (part (List.mem_singleton.2 rfl)).ordered
    exact (hs.transform (fun c e => leaf _ c e (by simp)) f).leaves c
  | both s t =>
    have hs := (part (s := s) (by simp [parts])).ordered
    have ht := (part (s := t) (by simp [parts])).ordered
    exact ((hs.both ht).mapValue _).leaves c
  | keepLeft s t =>
    have hs := (part (s := s) (by simp [parts])).ordered
    have ht := (part (s := t) (by simp [parts])).ordered
    exact (hs.keepLeft ht).leaves c
  | keepRight s t =>
    have hs := (part (s := s) (by simp [parts])).ordered
    have ht := (part (s := t) (by simp [parts])).ordered
    exact (hs.keepRight ht).leaves c
  | choices name rs =>
    exact leaves_choices leaf (fun s hs => part (List.mem_map_of_mem hs)) c
  | many min max s =>
    have hs := part (List.mem_singleton.2 rfl)
    exact .mapValue (fun calls o d => (∀ a ∈ calls, good a) ∧ Undone o d calls ∧
      Behind (Repeats patience s c) c calls o d) (leaves_many leaf hs patience min max c)
  | seq rs =>
    have hseq : Ordered good (seqFrom [] (rs.map fun s => (s.isIgnored, call env s))) := by
      refine .seqFrom (fun entry he => ?_) []
      obtain ⟨s, hs, rfl⟩ := List.mem_map.1 he
      exact (part (List.mem_map_of_mem hs)).ordered
    exact (hseq.mapValue _).leaves c
  | catching handler s => exact leaves_catching leaf (part (List.mem_singleton.2 rfl)) handler c
  | named name s => exact (part (List.mem_singleton.2 rfl)).ordered.leaves c
  | ignored s => exact (part (List.mem_singleton.2 rfl)).ordered.leaves c
  | fix level d => exact (hparts _ (List.mem_singleton.2 rfl)).ordered.leaves c
  | ref level name =>
    rw [loggedLayer]
    cases hd : env[level]? with
    | some d => exact (hdefinition level name d rfl hd).ordered.leaves c
    | none => exact (Ordered.alone _).leaves c

/-- The log of a run is that of a call of the rule. Backtracking is exact in it and in all calls
inside it, and each call of a rule is a run of it. -/
theorem isCall_logged {inv : List Rule → Rule → Prop} (hinv : Hereditary inv) (limit : Nat)
    {env : List Rule} {r : Rule} (h : inv env r) :
    IsCall (Call.Everywhere fun a : Call text => a.Exact patience ∧ a.IsRun patience inv) r
      (logged patience limit env r) := by
  induction limit generalizing env r with
  | zero =>
    refine fun c => .invoke_alone ⟨[], rfl, .intro ⟨⟨trivial, ?_⟩, ?_⟩ ?_⟩
    · exact fun _ _ => .inl ⟨rfl, rfl⟩
    · rintro _ ⟨⟩
      exact ⟨0, env, .fault .tooDeep, h, rfl, rfl⟩
    · exact fun b hb => absurd hb List.not_mem_nil
  | succ limit ih =>
    intro c
    have leaf : ∀ (callee : Callee) (c : Cursor text) (ending : Outcome Unit),
        (∀ r, callee ≠ .rule r) → Call.Everywhere (fun a => a.Exact patience ∧ a.IsRun patience inv)
          (.leaf callee c ending) := by
      intro callee c ending hrule
      refine .intro ⟨⟨trivial, fun r hr => absurd hr (hrule r)⟩, fun r hr => absurd hr (hrule r)⟩ ?_
      exact fun b hb => absurd hb List.not_mem_nil
    have hlayer := leaves_loggedLayer leaf (fun p hp => ih (hinv.part h p hp))
      (fun level name d hr hd => ih (hinv.definition (hr ▸ h) hd)) patience c
    have hrun : (loggedLayer patience (logged patience limit) env r).forget =
        run patience (limit + 1) env r :=
      forget_logged patience (limit + 1) env r
    refine .invoke (hlayer.with_run.mono ?_)
    rintro calls o d ⟨⟨hgood, undone, backtracks⟩, hod⟩
    rw [hrun] at hod
    refine ⟨calls, rfl, .intro ⟨⟨undone, ?_⟩, ?_⟩ hgood⟩
    · rintro _ ⟨⟩
      exact .inr backtracks
    · rintro _ ⟨⟩
      exact ⟨limit + 1, env, o, h, hod, rfl⟩

/-- Backtracking is exact for all rules, whatever the actions of their authors do with the cursor.
The log of a run is that of a tree of calls, each call of a rule in it is a run of the rule from
the cursor at its start, and all of them, at any depth, put the cursor back as they should: the
alternatives of a choice are all tried from the position where it begins, and it fails there; the
attempts of a repetition follow each other, and the one that fails is undone; a handler runs at the
position where its rule has begun; and what has been read by a failed call is not seen by what
comes next. A rule with a default gives it, if it fails, at the position where it has begun. -/
theorem run_backtracks (patience limit : Nat) (env : List Rule) (r : Rule) (c : Cursor text) :
    (∃ a : Call text,
      (logged patience limit env r).run c = (a.events, (run patience limit env r).run c) ∧
      a.callee = .rule r ∧ a.start = c ∧ a.ending = ((run patience limit env r).run c).1.ending ∧
      a.stop = ((run patience limit env r).run c).2 ∧
      a.Everywhere fun b => b.Exact patience ∧ b.IsRun patience fun _ _ => True) ∧
    ∀ (default : Value) (e : ParseError) (d : Cursor text), c.Valid →
      (run patience limit env r).run c = (.failure e, d) →
      (run patience (limit + 1) env (.optional default r)).run c =
        (.value default, d.moveTo c.pos) := by
  refine ⟨?_, fun default e d hc hr => Action.catching_of_failure hc hr⟩
  have hcall : IsCall
      (Call.Everywhere fun b : Call text => b.Exact patience ∧ b.IsRun patience fun _ _ => True) r
      (logged patience limit env r) := isCall_logged hereditary_true limit trivial
  obtain ⟨calls, hlog, ⟨inner, rfl, hall⟩, hrun⟩ := (hcall c).with_run
  rw [forget_logged] at hrun
  rw [eventsAll_singleton] at hlog
  exact ⟨_, Prod.ext hlog hrun.symm, rfl, rfl, by rw [hrun], by rw [hrun], hall⟩

/-- Looks for a letter, and if there is another one, leaves the cursor far behind the text. -/
def straying (letter : String) : Rule := .action ⟨fun c =>
  match (Action.tag letter).run c with
  | (.value l, d) => (.value (.location l), d)
  | (.failure e, d) => (.failure e, d.moveTo 99)
  | (.fault f, d) => (.fault f, d)⟩

/-- One letter, or else any number of another one, each of which may stray. -/
def strayingTwice : Rule := .choices none [straying "x", .many 0 none (straying "a")]

/-- In the text `ab` the first alternative strays, and the second is tried from the start
nevertheless. It matches one letter; the second attempt strays, and the cursor is put back behind
the first one. -/
theorem strayingTwice_backtracks :
    (∃ a : Call ['a', 'b'],
      (logged 0 20 [] strayingTwice).run ⟨0, .ofList []⟩ =
        (a.events, (run 0 20 [] strayingTwice).run ⟨0, .ofList []⟩) ∧
      (a.Everywhere fun b => b.Exact 0 ∧ b.IsRun 0 fun _ _ => True) ∧ a.stop.pos = 1 ∧
      (∃ e, .finish (.rule (straying "x")) (.failure e) ⟨99, .ofList []⟩ ∈ a.events) ∧
      .start (.rule (.many 0 none (straying "a"))) ⟨0, .ofList []⟩ ∈ a.events) ∧
    (run 0 21 [] (.optional (.text "none") (straying "x"))).run
        (⟨0, .ofList []⟩ : Cursor ['a', 'b']) = (.value (.text "none"), ⟨0, .ofList []⟩) := by
  constructor
  · obtain ⟨a, hlog, -, -, -, hstop, hall⟩ :=
      (run_backtracks 0 20 [] strayingTwice (⟨0, .ofList []⟩ : Cursor ['a', 'b'])).1
    have hevents : a.events = ((logged 0 20 [] strayingTwice).run ⟨0, .ofList []⟩).1 := by
      rw [hlog]
    refine ⟨a, hlog, hall, by rw [hstop]; rfl, ?_, ?_⟩
    · rw [hevents]
      exact ⟨_, List.mem_of_getElem? (i := 4) rfl⟩
    · rw [hevents]
      exact List.mem_of_getElem? (i := 5) rfl
  · have strays : ∃ e, (run 0 20 [] (straying "x")).run (⟨0, .ofList []⟩ : Cursor ['a', 'b']) =
      (.failure e, ⟨99, .ofList []⟩) := ⟨_, rfl⟩
    obtain ⟨e, he⟩ := strays
    exact (run_backtracks 0 20 [] (straying "x") _).2 (.text "none") e _ (by decide) he

end Rule

end Descent
