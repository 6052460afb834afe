import Descent.Proofs.Alternatives
import Descent.Proofs.Limits

/-!
# Nested choices

The alternatives of a choice may be choices in their turn, to any depth. Each of these takes a
checkpoint of its own and puts the cursor back before it fails, so that what comes of them is what
comes of one choice between the rules inside all brackets, from left to right
(`Rule.run_choice_flattens`). The rules may be any, also such that leave the cursor anywhere or
change the blank characters: the next one begins in the same state either way.

What differs is how deep the rules are called. So the comparison is between runs that have not run
out of depth, and the runs of one of the two have not if those of the other have not and the limit
allows for the brackets.
-/

namespace Descent

variable {text : List Char}

/-! ## Alternatives in brackets -/

/-- Alternatives in brackets: a rule, or a choice between such alternatives. -/
inductive Bracketing where
  | leaf (rule : Rule)
  | choice (name : Option String) (parts : List Bracketing)

namespace Bracketing

mutual

/-- The rule with a choice for each pair of brackets. -/
def toRule : Bracketing → Rule
  | .leaf r => r
  | .choice name ts => .choices name (toRules ts)

/-- The rules of several alternatives. -/
def toRules : List Bracketing → List Rule
  | [] => []
  | t :: ts => t.toRule :: toRules ts

end

mutual

/-- The rules inside the brackets, from left to right. -/
def leaves : Bracketing → List Rule
  | .leaf r => [r]
  | .choice _ ts => leavesAll ts

/-- The rules inside the brackets of several alternatives. -/
def leavesAll : List Bracketing → List Rule
  | [] => []
  | t :: ts => t.leaves ++ leavesAll ts

end

mutual

/-- How many brackets stand around a rule, at most. -/
def levels : Bracketing → Nat
  | .leaf _ => 0
  | .choice _ ts => levelsAll ts + 1

/-- How many brackets stand around a rule in one of several alternatives, at most. -/
def levelsAll : List Bracketing → Nat
  | [] => 0
  | t :: ts => max t.levels (levelsAll ts)

end

/-- A choice between two alternatives is a pair of brackets without a name. -/
theorem toRule_pair (t u : Bracketing) :
    (choice none [t, u]).toRule = t.toRule.orElse u.toRule := rfl

/-! ## The rules that are called inside the brackets -/

mutual

/-- In a call of alternatives in brackets, the rules inside the brackets are visited in this way. -/
inductive Makes : Bracketing → Call text → List (Visit text) → Prop
  | leaf {r : Rule} {c d : Cursor text} {inner : List (Call text)} {o : Outcome Unit} :
      Makes (.leaf r) ⟨.rule r, c, inner, o, d⟩ [⟨r, c, o, d⟩]
  | choice {name : Option String} {ts : List Bracketing} {c d : Cursor text}
      {calls : List (Call text)} {o : Outcome Unit} {visits : List (Visit text)}
      (behind : MakesAll ts calls visits) :
      Makes (.choice name ts)
        ⟨.rule (choice name ts).toRule, c, .leaf .checkpoint c (.value ()) :: calls, o, d⟩ visits

/-- The same for the calls of several alternatives. Either there is none left and the location of
the error is made, or a call is the last one, or others come behind it. -/
inductive MakesAll : List Bracketing → List (Call text) → List (Visit text) → Prop
  | none {c : Cursor text} : MakesAll [] [.leaf .location c (.value ())] []
  | last {t : Bracketing} {ts : List Bracketing} {a : Call text} {visits : List (Visit text)}
      (call : Makes t a visits) : MakesAll (t :: ts) [a] visits
  | next {t : Bracketing} {ts : List Bracketing} {a : Call text} {calls : List (Call text)}
      {visits more : List (Visit text)} (call : Makes t a visits)
      (rest : MakesAll ts calls more) : MakesAll (t :: ts) (a :: calls) (visits ++ more)

end

end Bracketing

/-! ## What comes of trying in turn -/

namespace Sweep

variable {s : Sweep text} {p : Int} {o : Outcome Value} {d : Cursor text}
  {limit depth height : Nat}

/-- An outcome and a cursor are what comes of the rules that are tried in turn from `p`. When all
of them have failed, so has this, and the cursor is to be put back. -/
inductive Gives (s : Sweep text) (p : Int) : Outcome Value → Cursor text → Prop
  | found {o : Outcome Value} (found : s.found = some o) : Gives s p o s.stop
  | failed {e : ParseError} {d : Cursor text} (none : s.found = none)
      (back : d.moveTo p = s.stop) : Gives s p (.failure e) d

/-- One of two runs has run out of depth: a nested one under the limit `depth`, which is too low for
that many brackets around rules with the other limit; or that of the rules that are tried in turn
under the other limit, which is lower than `depth`. -/
inductive Lacks (s : Sweep text) (limit depth height : Nat) : Outcome Value → Prop
  | nested (short : depth < limit + height) : Lacks s limit depth height (.fault .tooDeep)
  | flat {o : Outcome Value} (found : s.found = some (.fault .tooDeep)) (short : limit < depth) :
      Lacks s limit depth height o

theorem Gives.after (h : s.Gives p o d) (earlier : List (Visit text)) :
    (s.after earlier).Gives p o d := by
  cases h with
  | found found => exact .found found
  | failed none back => exact .failed none back

theorem Lacks.after {higher : Nat} (h : s.Lacks limit depth height o) (hle : height ≤ higher)
    (earlier : List (Visit text)) : (s.after earlier).Lacks limit depth higher o := by
  cases h with
  | nested short => exact .nested (by omega)
  | flat found short => exact .flat found short

end Sweep

/-! ## Brackets make no difference -/

namespace Bracketing

variable {limit depth : Nat} {p : Int} {s : Sweep text} {t : Bracketing} {ts : List Bracketing}
  {calls : List (Call text)} {o : Outcome Value} {d : Cursor text}

/-- The calls of alternatives in brackets under the limit `depth`, their outcome and the cursor
afterwards agree with what comes of the rules inside, tried in turn under another limit, unless
depth is lacking. -/
def Agrees (limit depth : Nat) (p : Int) (s : Sweep text) (t : Bracketing)
    (calls : List (Call text)) (o : Outcome Value) (d : Cursor text) : Prop :=
  (∃ a, calls = [a] ∧ Makes t a s.visits ∧ s.Gives p o d) ∨ s.Lacks limit depth t.levels o

/-- The same for several alternatives. -/
def AgreesAll (limit depth : Nat) (p : Int) (s : Sweep text) (ts : List Bracketing)
    (calls : List (Call text)) (o : Outcome Value) (d : Cursor text) : Prop :=
  (MakesAll ts calls s.visits ∧ s.Gives p o d) ∨ s.Lacks limit depth (levelsAll ts) o

open Rule

variable {x : Rule → Action Value} {c : Cursor text}

/-- An alternative that does not fail is the last one. -/
theorem Agrees.last (h : Agrees limit depth p (sweep x p c t.leaves) t calls o d)
    (kept : ∀ e, o ≠ .failure e) :
    AgreesAll limit depth p (sweep x p c (leavesAll (t :: ts))) (t :: ts) calls o d := by
  rw [leavesAll]
  rcases h with ⟨a, rfl, hmakes, hgives⟩ | hlacks
  · cases hgives with
    | found found =>
      rw [sweep_append_of_some found]
      exact .inl ⟨.last hmakes, .found found⟩
    | failed => exact absurd rfl (kept _)
  · cases hlacks with
    | nested short =>
      have hle : t.levels ≤ levelsAll (t :: ts) := Nat.le_max_left _ _
      exact .inr (.nested (by omega))
    | flat found short =>
      rw [sweep_append_of_some found]
      exact .inr (.flat found short)

/-- An alternative that fails is followed by the others. -/
theorem Agrees.next {e : ParseError} {more : List (Call text)} {stop : Cursor text}
    (h : Agrees limit depth p (sweep x p c t.leaves) t calls (.failure e) d)
    (hrest : AgreesAll limit depth p (sweep x p d (leavesAll ts)) ts more o stop) :
    AgreesAll limit depth p (sweep x p c (leavesAll (t :: ts))) (t :: ts) (calls ++ more) o
      stop := by
  rw [leavesAll]
  rcases h with ⟨a, rfl, hmakes, hgives⟩ | hlacks
  · cases hgives with
    | found found => exact absurd rfl (found_ne_failure found e)
    | failed none back =>
      -- the cursor is put back before the next rule is tried, inside the brackets or outside
      rw [sweep_append_of_none none, ← back, sweep_moveTo]
      rcases hrest with ⟨hmakes', hgives⟩ | hlacks
      · exact .inl ⟨.next hmakes hmakes', hgives.after _⟩
      · exact .inr (hlacks.after (Nat.le_max_right _ _) _)
  · cases hlacks with
    | flat found short =>
      rw [sweep_append_of_some found]
      exact .inr (.flat found short)

end Bracketing

namespace Rule

open Logged Bracketing

variable {patience : Nat} {env : List Rule} {c : Cursor text}

/-- What a rule does comes of trying it alone. -/
theorem gives_singleton {x : Rule → Action Value} {r : Rule} {o : Outcome Value} {d : Cursor text}
    (h : (x r).run c = (o, d)) :
    (sweep x c.pos c [r]).visits = [⟨r, c, o.ending, d⟩] ∧
      (sweep x c.pos c [r]).Gives c.pos o d := by
  cases o with
  | failure e =>
    rw [sweep_cons_of_failure h]
    exact ⟨rfl, .failed rfl rfl⟩
  | value v =>
    rw [sweep_cons_of_kept h (by simp)]
    exact ⟨rfl, .found rfl⟩
  | fault f =>
    rw [sweep_cons_of_kept h (by simp)]
    exact ⟨rfl, .found rfl⟩

/-- A rule without brackets is visited as when it is tried alone. -/
theorem leaves_leaf (limit depth : Nat) (env : List Rule) (r : Rule) (c : Cursor text) :
    (logged patience depth env r).Leaves c
      (Agrees limit depth c.pos (sweep (run patience limit env) c.pos c [r]) (.leaf r)) := by
  refine (leaves_logged depth env r c).mono ?_
  rintro calls o d ⟨⟨inner, rfl⟩, hr⟩
  rcases run_cases limit depth env r c with same | ⟨hlt, deep⟩ | ⟨hlt, deep⟩
  · obtain ⟨hvisits, hgives⟩ := gives_singleton (same.trans hr)
    exact .inl ⟨_, rfl, hvisits ▸ .leaf, hgives⟩
  · rw [hr] at deep
    obtain rfl : o = .fault .tooDeep := deep
    exact .inr (.nested hlt)
  · refine .inr (.flat ?_ hlt)
    have hdeep : (run patience limit env r).run (c.moveTo c.pos) =
        (.fault .tooDeep, ((run patience limit env r).run c).2) := Prod.ext deep rfl
    rw [sweep_cons_of_kept hdeep (by simp)]

/-- A choice between alternatives in brackets visits what they visit, behind its checkpoint. -/
theorem leaves_choice {limit depth : Nat} (name : Option String) {ts : List Bracketing}
    (hc : c.Valid)
    (h : ∀ labels, (choicesFrom labels c.pos c.pos []
        ((toRules ts).map fun r => (r.label, logged patience depth env r))).Leaves c
      (AgreesAll limit depth c.pos (sweep (run patience limit env) c.pos c (leavesAll ts)) ts)) :
    (logged patience (depth + 1) env (choice name ts).toRule).Leaves c fun calls o d =>
      let s := sweep (run patience limit env) c.pos c (leavesAll ts)
      (∃ a, calls = [a] ∧ Makes (.choice name ts) a s.visits ∧ s.Gives c.pos o d) ∨
        s.Lacks limit depth (levelsAll ts) o := by
  refine .invoke (.mark_bind (fun _ => (h _).mono ?_) fun invalid => absurd hc invalid)
  rintro calls o d (⟨hmakes, hgives⟩ | hlacks)
  · exact .inl ⟨_, rfl, .choice hmakes, hgives⟩
  · exact .inr hlacks

mutual

/-- Alternatives in brackets agree with the rules inside, tried in turn. -/
theorem leaves_toRule (patience limit : Nat) (env : List Rule) :
    ∀ (t : Bracketing) (depth : Nat) (c : Cursor text), c.Valid →
      (logged patience depth env t.toRule).Leaves c
        (Agrees limit depth c.pos (sweep (run patience limit env) c.pos c t.leaves) t)
  | .leaf r, depth, c, _ => leaves_leaf limit depth env r c
  | .choice name ts, 0, c, _ => .invoke (.alone (.inr (.nested (by rw [levels]; omega))))
  | .choice name ts, depth + 1, c, hc => by
    have hall := leaves_toRules patience limit env ts depth c hc (Int.le_refl _) []
    refine (leaves_choice name hc hall).mono ?_
    rintro calls o d (hmakes | short | ⟨found, short⟩)
    · exact .inl hmakes
    · exact .inr (.nested (by rw [levels]; omega))
    · exact .inr (.flat found (by omega))

/-- Several alternatives in brackets agree with the rules inside, tried in turn. -/
theorem leaves_toRules (patience limit : Nat) (env : List Rule) :
    ∀ (ts : List Bracketing) (depth : Nat) {p far : Int} (c : Cursor text),
      0 ≤ p ∧ p ≤ text.length → p ≤ far → ∀ notes labels : List String,
      (choicesFrom labels p far notes
        ((toRules ts).map fun r => (r.label, logged patience depth env r))).Leaves c
        (AgreesAll limit depth p (sweep (run patience limit env) p c (leavesAll ts)) ts)
  | [], _, _, _, _, hp, hle, _, _ =>
    leaves_choicesFrom_nil hp hle fun e => .inl ⟨.none, .failed rfl rfl⟩
  | t :: ts, depth, p, far, c, hp, hle, notes, labels => by
    have hfirst := leaves_toRule patience limit env t depth (c.moveTo p) hp
    rw [Cursor.pos_moveTo, sweep_moveTo] at hfirst
    refine leaves_choicesFrom_cons hfirst ?_ ?_
    · exact fun calls o d h kept => h.last kept
    · intro calls e d h
      have hfar : p ≤ max far d.pos := Int.le_trans hle (Int.le_max_left far d.pos)
      refine (leaves_toRules patience limit env ts depth d hp hfar _ labels).mono ?_
      exact fun more o stop hmore => h.next hmore

end

/-! ## The choice without brackets inside -/

/-- Two runs end alike: with the same value, or the same fault, or both with an error for want of a
match and at the position `p`; and with the same cursor. -/
inductive EndsAlike (p : Int) : Outcome Value × Cursor text → Outcome Value × Cursor text → Prop
  | value {v : Value} {d : Cursor text} : EndsAlike p (.value v, d) (.value v, d)
  | noMatch {e e' : ParseError} {d : Cursor text} (code : e.code = .noMatch)
      (code' : e'.code = .noMatch) (back : d.pos = p) : EndsAlike p (.failure e, d) (.failure e', d)
  | fault {f : Fault} {d : Cursor text} : EndsAlike p (.fault f, d) (.fault f, d)

theorem EndsAlike.tooDeep_iff {p : Int} {a b : Outcome Value × Cursor text}
    (h : EndsAlike p a b) : a.1 = .fault .tooDeep ↔ b.1 = .fault .tooDeep := by
  cases h with
  | value => rfl
  | noMatch => simp
  | fault => rfl

/-- A choice fails for want of a match, and back at its position. -/
theorem code_of_run_choices {limit : Nat} {name : Option String} {rs : List Rule} {e : ParseError}
    {d : Cursor text} (hc : c.Valid)
    (h : (run patience (limit + 1) env (.choices name rs)).run c = (.failure e, d)) :
    e.code = .noMatch ∧ d.pos = c.pos := by
  cases hfound : (sweep (run patience limit env) c.pos c rs).found with
  | some o =>
    cases (run_choices_of_some name hc hfound).symm.trans h
    exact absurd rfl (found_ne_failure hfound e)
  | none =>
    obtain ⟨e', hrun, hissue, -⟩ := run_choices_of_none name hc hfound
    cases hrun.symm.trans h
    exact ⟨congrArg Issue.code hissue, (sweep_of_none hfound).2⟩

/-- A choice ends like whatever comes of its alternatives, tried in turn. -/
theorem endsAlike_of_gives {limit depth : Nat} {name name' : Option String} {rs rs' : List Rule}
    {o : Outcome Value} {d : Cursor text} (hc : c.Valid)
    (h : (run patience (depth + 1) env (.choices name rs)).run c = (o, d))
    (hgives : (sweep (run patience limit env) c.pos c rs').Gives c.pos o d) :
    EndsAlike c.pos ((run patience (depth + 1) env (.choices name rs)).run c)
      ((run patience (limit + 1) env (.choices name' rs')).run c) := by
  rw [h]
  cases hgives with
  | found found =>
    rw [run_choices_of_some name' hc found]
    cases o with
    | value v => exact .value
    | failure e => exact absurd rfl (found_ne_failure found e)
    | fault f => exact .fault
  | @failed e d none back =>
    obtain ⟨hcode, hpos⟩ := code_of_run_choices hc h
    obtain ⟨e', hrun, hissue, -⟩ := run_choices_of_none name' hc none
    rw [Cursor.moveTo_of_pos hpos] at back
    rw [hrun, ← back]
    exact .noMatch hcode (congrArg Issue.code hissue) hpos

/-- In a call of nested choices the rules inside are visited as they are when they are tried in
turn, and the choice between them ends alike; or one of the two runs has run out of depth. -/
theorem run_choice_cases (patience limit depth : Nat) (env : List Rule)
    (name name' : Option String) (ts : List Bracketing) (hc : c.Valid) :
    (EndsAlike c.pos ((run patience (depth + 1) env (choice name ts).toRule).run c)
        ((run patience (limit + 1) env (.choices name' (leavesAll ts))).run c) ∧
      ∃ a : Call text,
        (logged patience (depth + 1) env (choice name ts).toRule).run c =
          (a.events, (run patience (depth + 1) env (choice name ts).toRule).run c) ∧
        Makes (.choice name ts) a (sweep (run patience limit env) c.pos c (leavesAll ts)).visits) ∨
    (((run patience (depth + 1) env (choice name ts).toRule).run c).1 = .fault .tooDeep ∧
      depth < limit + levelsAll ts) ∨
    (((run patience (limit + 1) env (.choices name' (leavesAll ts))).run c).1 = .fault .tooDeep ∧
      limit < depth) := by
  have hall := leaves_toRules patience limit env ts depth c hc (Int.le_refl _) []
  obtain ⟨calls, hlog, hcases, hrun⟩ := (leaves_choice name hc hall).with_run
  rw [forget_logged] at hrun
  rcases hcases with ⟨a, rfl, hmakes, hgives⟩ | hlacks
  · rw [Call.eventsAll_singleton] at hlog
    exact .inl ⟨endsAlike_of_gives hc hrun hgives, a, Prod.ext hlog hrun.symm, hmakes⟩
  · generalize ((logged patience (depth + 1) env (choice name ts).toRule).run c).2.1 = o
      at hlacks hrun
    cases hlacks with
    | nested short => exact .inr (.inl ⟨by rw [hrun], short⟩)
    | flat found short =>
      exact .inr (.inr ⟨by rw [run_choices_of_some name' hc found], short⟩)

/-- Nested choices flatten. A choice whose alternatives may be choices in their turn, to any depth,
and the choice between the rules inside all brackets, from left to right, end alike: with the same
value, with the same fault, or both for want of a match and back at the position where they begin;
and with the same cursor, with its blank characters. The rules inside are visited in the same order,
each once at most, from the same cursors and to the same ends. The two differ in how deep they call
the rules: when the nested choice does not run out of depth, neither does the flat one, nor the
nested one when the flat one does not and the limit allows for the brackets. -/
theorem run_choice_flattens (patience : Nat) (env : List Rule) (name name' : Option String)
    (ts : List Bracketing) (hc : c.Valid) :
    (∀ n, ((run patience n env (choice name ts).toRule).run c).1 ≠ .fault .tooDeep →
      ((run patience n env (.choices name' (leavesAll ts))).run c).1 ≠ .fault .tooDeep) ∧
    (∀ n, ((run patience n env (.choices name' (leavesAll ts))).run c).1 ≠ .fault .tooDeep →
      ((run patience (n + (choice name ts).levels) env (choice name ts).toRule).run c).1 ≠
        .fault .tooDeep) ∧
    ∀ n m, ((run patience n env (choice name ts).toRule).run c).1 ≠ .fault .tooDeep →
      ((run patience m env (.choices name' (leavesAll ts))).run c).1 ≠ .fault .tooDeep →
      EndsAlike c.pos ((run patience n env (choice name ts).toRule).run c)
        ((run patience m env (.choices name' (leavesAll ts))).run c) ∧
      ∃ (a b : Call text) (visits : List (Visit text)),
        (logged patience n env (choice name ts).toRule).run c =
          (a.events, (run patience n env (choice name ts).toRule).run c) ∧
        (logged patience m env (.choices name' (leavesAll ts))).run c =
          (b.events, (run patience m env (.choices name' (leavesAll ts))).run c) ∧
        Makes (.choice name ts) a visits ∧ Call.visits b.inner = visits ∧
        visits.map Visit.rule <+: leavesAll ts := by
  refine ⟨fun n hn => ?_, fun n hn => ?_, fun n m hn hm => ?_⟩
  · obtain ⟨limit, rfl⟩ := exists_succ_of_ne_tooDeep hn
    rcases run_choice_cases patience limit limit env name name' ts hc with
      ⟨alike, -⟩ | ⟨deep, -⟩ | ⟨-, short⟩
    · exact fun deep => hn (alike.tooDeep_iff.2 deep)
    · exact absurd deep hn
    · exact absurd short (Nat.lt_irrefl _)
  · obtain ⟨limit, rfl⟩ := exists_succ_of_ne_tooDeep hn
    -- with a limit that allows for the brackets, only the flat choice can be short of depth
    have hlimit : limit + 1 + (choice name ts).levels = limit + levelsAll ts + 1 + 1 := by
      rw [levels]
      omega
    rw [hlimit]
    rcases run_choice_cases patience limit (limit + levelsAll ts + 1) env name name' ts hc with
      ⟨alike, -⟩ | ⟨-, short⟩ | ⟨deep, -⟩
    · exact fun deep => hn (alike.tooDeep_iff.1 deep)
    · omega
    · exact absurd deep hn
  · obtain ⟨depth, rfl⟩ := exists_succ_of_ne_tooDeep hn
    obtain ⟨limit, rfl⟩ := exists_succ_of_ne_tooDeep hm
    rcases run_choice_cases patience limit depth env name name' ts hc with
      ⟨alike, a, hlog, hmakes⟩ | ⟨deep, -⟩ | ⟨deep, -⟩
    · obtain ⟨b, hlog', hvisits⟩ := visits_choices limit env name' (leavesAll ts) hc
      exact ⟨alike, a, b, _, hlog, hlog', hmakes, hvisits, rules_sweep_isPrefix _ _ _ _⟩
    · exact absurd deep hn
    · exact absurd deep hm

/-- A rule that strays when it fails inside one pair of brackets, and two letters inside another. -/
def bracketed : List Bracketing :=
  [.choice none [.leaf (straying "x")], .choice none [.leaf (.tag "b"), .leaf (.tag "a")]]

/-- In the text `ab` the last rule inside the brackets matches, with and without the brackets. -/
theorem bracketed_flattens :
    ∃ (v : Value) (a b : Call ['a', 'b']) (visits : List (Visit ['a', 'b'])),
      (logged 0 20 [] ((Rule.choices none [straying "x"]).orElse ((tag "b").orElse (tag "a")))).run
        ⟨0, .empty⟩ = (a.events, .value v, ⟨1, .empty⟩) ∧
      (logged 0 20 [] (.choices none [straying "x", .tag "b", .tag "a"])).run ⟨0, .empty⟩ =
        (b.events, .value v, ⟨1, .empty⟩) ∧
      Makes (.choice none bracketed) a visits ∧ Call.visits b.inner = visits ∧
      visits.map Visit.rule <+: [straying "x", .tag "b", .tag "a"] := by
  have valid : (⟨0, .empty⟩ : Cursor ['a', 'b']).Valid := by decide
  have hrule : (choice none bracketed).toRule =
      (Rule.choices none [straying "x"]).orElse ((tag "b").orElse (tag "a")) := toRule_pair _ _
  have hvalue : ∃ v, (run 0 20 [] (choice none bracketed).toRule).run
      (⟨0, .empty⟩ : Cursor ['a', 'b']) = (.value v, ⟨1, .empty⟩) := ⟨_, rfl⟩
  obtain ⟨v, hvalue⟩ := hvalue
  obtain ⟨hflat, -, hall⟩ := run_choice_flattens 0 [] none none bracketed valid
  obtain ⟨alike, a, b, visits, hlog, hlog', hmakes, hvisits, hrules⟩ :=
    hall 20 20 (by rw [hvalue]; simp) (hflat 20 (by rw [hvalue]; simp))
  rw [hvalue] at alike hlog
  rw [← hrule]
  refine ⟨v, a, b, visits, hlog, hlog'.trans ?_, hmakes, hvisits, hrules⟩
  cases hend : (run 0 20 [] (.choices none (leavesAll bracketed))).run
    (⟨0, .empty⟩ : Cursor ['a', 'b']) with
  | mk o d =>
    rw [hend] at alike
    cases alike
    rfl

end Rule

end Descent
