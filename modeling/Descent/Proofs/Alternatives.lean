import Descent.Proofs.Reach
import Descent.Proofs.Visits

/-!
# Alternatives in turn

What comes of trying rules in turn is told by `Rule.sweep`: which of them are visited, from where
and to what end, the outcome of the first that does not fail, if there is one, and the cursor
afterwards. A rule that fails may leave the cursor anywhere and may change the blank characters. The
next one begins at the same position all the same, but with the blank characters as they are then.

A choice makes just these visits. It gives the outcome that is found, or, if there is none, an error
that reports on all visits (`Rule.run_choices_reports`).
-/

namespace Descent

variable {text : List Char}

/-- A cursor that is moved to where it stands. -/
theorem Cursor.moveTo_of_pos {c : Cursor text} {p : Int} (h : c.pos = p) : c.moveTo p = c := by
  rw [← h, moveTo_pos]

/-- What comes of rules that are tried in turn: the visits, the outcome of the one that has not
failed, if there is one, and the cursor afterwards. -/
structure Sweep (text : List Char) where
  visits : List (Visit text)
  found : Option (Outcome Value)
  stop : Cursor text

/-- The sweep with other visits before its own. -/
def Sweep.after (s : Sweep text) (earlier : List (Visit text)) : Sweep text :=
  ⟨earlier ++ s.visits, s.found, s.stop⟩

/-- A note on a visit that has failed: the label of the rule and the message of its error. -/
def Visit.Notes (v : Visit text) (note : String) : Prop :=
  ∃ e, v.ending = .failure e ∧ note = s!"{v.rule.label}: {e.message}"

namespace Rule

/-! ## Trying in turn -/

/-- Tries rules in turn, all from the position `p`, up to the first that does not fail. When all
have failed, the cursor is back at `p`. -/
def sweep (x : Rule → Action Value) (p : Int) (c : Cursor text) : List Rule → Sweep text
  | [] => ⟨[], none, c.moveTo p⟩
  | r :: rs =>
    match (x r).run (c.moveTo p) with
    | (.failure e, d) => (sweep x p d rs).after [⟨r, c.moveTo p, .failure e, d⟩]
    | (o, d) => ⟨[⟨r, c.moveTo p, o.ending, d⟩], some o, d⟩

variable {x : Rule → Action Value} {p : Int} {c d : Cursor text} {r : Rule} {rs : List Rule}

/-- A rule that fails is followed by the next one. -/
theorem sweep_cons_of_failure {e : ParseError} (h : (x r).run (c.moveTo p) = (.failure e, d)) :
    sweep x p c (r :: rs) = (sweep x p d rs).after [⟨r, c.moveTo p, .failure e, d⟩] := by
  rw [sweep, h]

/-- A rule that does not fail is the last one. -/
theorem sweep_cons_of_kept {o : Outcome Value} (h : (x r).run (c.moveTo p) = (o, d))
    (kept : ∀ e, o ≠ .failure e) :
    sweep x p c (r :: rs) = ⟨[⟨r, c.moveTo p, o.ending, d⟩], some o, d⟩ := by
  rw [sweep, h]
  cases o with
  | failure e => exact absurd rfl (kept e)
  | value v => rfl
  | fault f => rfl

/-- Where the cursor stands before makes no difference. -/
theorem sweep_moveTo (x : Rule → Action Value) (p q : Int) (c : Cursor text) (rs : List Rule) :
    sweep x p (c.moveTo q) rs = sweep x p c rs := by
  cases rs with
  | nil => rfl
  | cons r rs => rw [sweep, sweep, Cursor.moveTo_moveTo]

/-- What is found has not failed. -/
theorem found_ne_failure {o : Outcome Value} (h : (sweep x p c rs).found = some o)
    (e : ParseError) : o ≠ .failure e := by
  fun_induction sweep x p c rs with
  | case1 c => cases h
  | case2 c r rs e' d hr ih => exact ih h
  | case3 c r rs o' d kept hr =>
    cases h
    exact kept e

/-- When nothing is found, all rules have been visited, and the cursor is back. -/
theorem sweep_of_none (h : (sweep x p c rs).found = none) :
    (sweep x p c rs).visits.map Visit.rule = rs ∧ (sweep x p c rs).stop.pos = p := by
  fun_induction sweep x p c rs with
  | case1 c => exact ⟨rfl, rfl⟩
  | case2 c r rs e d hr ih => exact (ih h).imp_left (congrArg (r :: ·))
  | case3 c r rs o d kept hr => cases h

/-- The rules are visited in order, from the first one on. -/
theorem rules_sweep_isPrefix (x : Rule → Action Value) (p : Int) (c : Cursor text)
    (rs : List Rule) : (sweep x p c rs).visits.map Visit.rule <+: rs := by
  fun_induction sweep x p c rs with
  | case1 c => exact List.prefix_rfl
  | case2 c r rs e d hr ih => exact (List.prefix_cons_inj r).2 ih
  | case3 c r rs o d kept hr => exact ⟨rs, rfl⟩

/-- When nothing is found among the first rules, the others follow. -/
theorem sweep_append_of_none {before after : List Rule}
    (h : (sweep x p c before).found = none) :
    sweep x p c (before ++ after) =
      (sweep x p (sweep x p c before).stop after).after (sweep x p c before).visits := by
  fun_induction sweep x p c before with
  | case1 c => rw [List.nil_append, sweep_moveTo]; rfl
  | case2 c r before e d hr ih =>
    rw [List.cons_append, sweep_cons_of_failure hr, ih h]
    rfl
  | case3 c r before o d kept hr => cases h

/-- A value that is found after rules that fail ends the sweep. -/
theorem sweep_append_cons_of_value {before : List Rule} (after : List Rule) {v : Value}
    (h : (sweep x p c before).found = none)
    (hr : (x r).run (sweep x p c before).stop = (.value v, d)) :
    sweep x p c (before ++ r :: after) =
      ⟨(sweep x p c before).visits ++ [⟨r, (sweep x p c before).stop, .value (), d⟩],
        some (.value v), d⟩ := by
  have back := Cursor.moveTo_of_pos (sweep_of_none h).2
  rw [← back] at hr
  rw [sweep_append_of_none h, sweep_cons_of_kept hr (by simp), back]
  rfl

/-- What is found among the first rules ends the sweep. -/
theorem sweep_append_of_some {before after : List Rule} {o : Outcome Value}
    (h : (sweep x p c before).found = some o) :
    sweep x p c (before ++ after) = sweep x p c before := by
  fun_induction sweep x p c before with
  | case1 c => cases h
  | case2 c r before e d hr ih => rw [List.cons_append, sweep_cons_of_failure hr, ih h]
  | case3 c r before o' d kept hr =>
    rw [List.cons_append, sweep_cons_of_kept hr kept]

/-! ## What a choice makes of it -/

open Descent.Action in
/-- A choice ends with the outcome that is found. -/
theorem choicesFrom_of_some {o : Outcome Value} (labels notes : List String) (far : Int)
    (h : (sweep x p c rs).found = some o) :
    (choicesFrom labels p far notes (rs.map fun r => (r.label, x r))).run c =
      (o, (sweep x p c rs).stop) := by
  fun_induction sweep x p c rs generalizing far notes with
  | case1 c => cases h
  | case2 c r rs e d hr ih =>
    rw [List.map_cons, choicesFrom_cons_of_failure hr]
    exact ih _ _ h
  | case3 c r rs o' d kept hr =>
    cases h
    rw [List.map_cons]
    cases o with
    | value v => exact choicesFrom_cons_of_value hr
    | failure e => exact absurd rfl (kept e)
    | fault f => exact choicesFrom_cons_of_fault hr

open Descent.Action in
/-- A choice in which nothing is found fails. Its error spans the text up to the furthest position
where a rule has stopped, and has a note on each visit. -/
theorem choicesFrom_of_none (hp : 0 ≤ p ∧ p ≤ text.length) (labels notes : List String) {far : Int}
    (hle : p ≤ far) (h : (sweep x p c rs).found = none) :
    ∃ (e : ParseError) (more : List String),
      (choicesFrom labels p far notes (rs.map fun r => (r.label, x r))).run c =
        (.failure e, (sweep x p c rs).stop) ∧
      e.issue = .noMatch labels ∧ (e.location.span.start : Int) = p ∧
      (e.location.span.stop : Int) =
        ((sweep x p c rs).visits.map fun v => v.stop.pos).foldl max far ∧
      e.problem = e.location.span ∧ e.notes = notes ++ more ∧
      List.Forall₂ Visit.Notes (sweep x p c rs).visits more := by
  fun_induction sweep x p c rs generalizing far notes with
  | case1 c =>
    have hvalid : (c.moveTo p).Valid := hp
    have hlocate : c.locate p far = .ok ((c.moveTo p).stretch (far - p).toNat) :=
      Cursor.locate_of_pos_le hvalid rfl hle
    simp only [List.map_nil, choicesFrom, hlocate]
    refine ⟨_, [], rfl, rfl, Int.toNat_of_nonneg hp.1, ?_, rfl, (List.append_nil _).symm, .nil⟩
    refine (Cursor.stop_stretch hvalid (far - p).toNat).trans ?_
    rw [Cursor.pos_moveTo, List.foldl_nil]
    omega
  | case2 c r rs e d hr ih =>
    rw [List.map_cons, choicesFrom_cons_of_failure hr]
    obtain ⟨error, more, hrun, hissue, hstart, hstop, hproblem, hnotes, hall⟩ :=
      ih _ (Int.le_trans hle (Int.le_max_left far d.pos)) h
    refine ⟨error, _ :: more, hrun, hissue, hstart, hstop, hproblem, ?_, .cons ⟨e, rfl, rfl⟩ hall⟩
    rw [hnotes, List.append_assoc, List.singleton_append]
  | case3 c r rs o d kept hr => cases h

end Rule

namespace Logged

open Call

/-- A choice without alternatives makes the location of its error and fails. -/
theorem leaves_choicesFrom_nil {p far : Int} {c : Cursor text} (hp : 0 ≤ p ∧ p ≤ text.length)
    (hle : p ≤ far) {labels notes : List String}
    {post : List (Call text) → Outcome Value → Cursor text → Prop}
    (h : ∀ e : ParseError,
      post [.leaf .location (c.moveTo p) (.value ())] (.failure e) (c.moveTo p)) :
    (choicesFrom labels p far notes []).Leaves c post := by
  rw [choicesFrom]
  refine .goto_bind ?_
  exact .invoke_bind_of_value (Action.run_locate_of_le hp hle _) (.alone (h _))

/-- The calls of the first alternative come first, and those of the others only if it fails. -/
theorem leaves_choicesFrom_cons {p far : Int} {c : Cursor text} {labels notes : List String}
    {label : String} {x : Logged Value} {rest : List (String × Logged Value)}
    {mid post : List (Call text) → Outcome Value → Cursor text → Prop}
    (hx : x.Leaves (c.moveTo p) mid)
    (kept : ∀ calls o d, mid calls o d → (∀ e, o ≠ .failure e) → post calls o d)
    (failed : ∀ calls e d, mid calls (.failure e) d →
      (choicesFrom labels p (max far d.pos) (notes ++ [s!"{label}: {e.message}"]) rest).Leaves d
        fun more o stop => post (calls ++ more) o stop) :
    (choicesFrom labels p far notes ((label, x) :: rest)).Leaves c post := by
  rw [choicesFrom]
  refine .goto_bind ?_
  refine .attempt_bind hx ?_ ?_ ?_
  · intro calls v d hmid
    refine .alone ?_
    rw [List.append_nil]
    exact kept calls _ d hmid (by simp)
  · exact fun calls e d hmid => .position_bind (failed calls e d hmid)
  · exact fun calls f d hmid => kept calls _ d hmid (by simp)

end Logged

namespace Rule

open Logged

variable {patience limit : Nat} {env : List Rule} {c : Cursor text}

/-- A choice visits the rules that are tried in turn. -/
theorem visits_choicesFrom {p far : Int} (hp : 0 ≤ p ∧ p ≤ text.length) (hle : p ≤ far)
    (labels notes : List String) (rs : List Rule) (c : Cursor text) :
    (choicesFrom labels p far notes
      (rs.map fun r => (r.label, logged patience limit env r))).Leaves c
      fun calls _ _ => Call.visits calls = (sweep (run patience limit env) p c rs).visits := by
  induction rs generalizing far notes c with
  | nil => exact leaves_choicesFrom_nil hp hle fun e => rfl
  | cons r rs ih =>
    refine leaves_choicesFrom_cons (leaves_logged limit env r _) ?_ ?_
    · rintro calls o d ⟨⟨inner, rfl⟩, hr⟩ kept
      rw [sweep_cons_of_kept hr kept]
      rfl
    · rintro calls e d ⟨⟨inner, rfl⟩, hr⟩
      refine (ih (Int.le_trans hle (Int.le_max_left _ _)) _ d).mono fun more o stop hmore => ?_
      rw [sweep_cons_of_failure hr, Call.visits_append, hmore]
      rfl

variable {rs : List Rule}

/-- A choice that finds an outcome ends with it. -/
theorem run_choices_of_some (name : Option String) (hc : c.Valid) {o : Outcome Value}
    (h : (sweep (run patience limit env) c.pos c rs).found = some o) :
    (run patience (limit + 1) env (.choices name rs)).run c =
      (o, (sweep (run patience limit env) c.pos c rs).stop) := by
  rw [run_succ, layer, Action.choices_of_valid hc]
  exact choicesFrom_of_some _ _ _ h

/-- A choice that finds nothing fails, and its error reports on all visits. -/
theorem run_choices_of_none (name : Option String) (hc : c.Valid)
    (h : (sweep (run patience limit env) c.pos c rs).found = none) :
    ∃ e : ParseError,
      (run patience (limit + 1) env (.choices name rs)).run c =
        (.failure e, (sweep (run patience limit env) c.pos c rs).stop) ∧
      e.issue = .noMatch (rs.map label) ∧ (e.location.span.start : Int) = c.pos ∧
      (e.location.span.stop : Int) =
        ((sweep (run patience limit env) c.pos c rs).visits.map fun v => v.stop.pos).foldl
          max c.pos ∧
      e.problem = e.location.span ∧
      List.Forall₂ Visit.Notes (sweep (run patience limit env) c.pos c rs).visits e.notes := by
  have labels : (rs.map fun r => (r.label, run patience limit env r)).map Prod.fst =
      rs.map label := by
    rw [List.map_map]
    rfl
  rw [run_succ, layer, Action.choices_of_valid hc, labels]
  obtain ⟨e, more, hrun, hissue, hstart, hstop, hproblem, hnotes, hall⟩ :=
    choicesFrom_of_none hc (rs.map label) [] (Int.le_refl _) h
  rw [List.nil_append] at hnotes
  exact ⟨e, hrun, hissue, hstart, hstop, hproblem, hnotes ▸ hall⟩

/-- A choice makes calls just of the rules that are tried in turn. -/
theorem visits_choices (limit : Nat) (env : List Rule) (name : Option String) (rs : List Rule)
    (hc : c.Valid) :
    ∃ a : Call text, (logged patience (limit + 1) env (.choices name rs)).run c =
        (a.events, (run patience (limit + 1) env (.choices name rs)).run c) ∧
      Call.visits a.inner = (sweep (run patience limit env) c.pos c rs).visits := by
  have hlayer : (loggedLayer patience (logged patience limit) env (.choices name rs)).Leaves c
      fun calls _ _ =>
      Call.visits calls = (sweep (run patience limit env) c.pos c rs).visits := by
    refine .mark_bind (fun _ => ?_) fun invalid => absurd hc invalid
    exact visits_choicesFrom hc (Int.le_refl _) _ _ rs c
  obtain ⟨a, o, d, hrun, hlog, hvisits⟩ := exists_call hlayer
  exact ⟨a, by rw [hrun, hlog], hvisits⟩

/-- What a choice reports, whatever its alternatives do with the cursor and the blank characters.
They are tried in turn, all from the position where the choice begins. If all of them fail, so does
the choice, with the cursor back at that position. The message of its error lists the labels of the
alternatives in order; it spans the text from there up to the furthest position at which one of
them has stopped; and it has one note for each of them, in order, made of its label and its own
message. If one of them matches and those before it fail, its value and its cursor are those of the
choice, and the ones behind it are not called. -/
theorem run_choices_reports (limit : Nat) (env : List Rule) (name : Option String)
    (rs : List Rule) {s : Sweep text} (hc : c.Valid)
    (hs : sweep (run patience limit env) c.pos c rs = s) :
    ∃ a : Call text, (logged patience (limit + 1) env (.choices name rs)).run c =
        (a.events, (run patience (limit + 1) env (.choices name rs)).run c) ∧
      Call.visits a.inner = s.visits ∧
      (s.found = none → s.visits.map Visit.rule = rs ∧ s.stop.pos = c.pos ∧
        ∃ e, (run patience (limit + 1) env (.choices name rs)).run c = (.failure e, s.stop) ∧
          e.code = .noMatch ∧
          e.message = "no match: expected one of " ++ ", ".intercalate (rs.map label) ∧
          (e.location.span.start : Int) = c.pos ∧
          (e.location.span.stop : Int) = (s.visits.map fun v => v.stop.pos).foldl max c.pos ∧
          e.problem = e.location.span ∧ List.Forall₂ Visit.Notes s.visits e.notes) ∧
      ∀ (before after : List Rule) (r : Rule) (v : Value) (d : Cursor text),
        rs = before ++ r :: after → (sweep (run patience limit env) c.pos c before).found = none →
        (run patience limit env r).run (sweep (run patience limit env) c.pos c before).stop =
          (.value v, d) →
        (run patience (limit + 1) env (.choices name rs)).run c = (.value v, d) ∧
          (Call.visits a.inner).map Visit.rule = before ++ [r] := by
  subst hs
  obtain ⟨a, hlog, hvisits⟩ := visits_choices limit env name rs hc
  refine ⟨a, hlog, hvisits, fun hnone => ?_, ?_⟩
  · obtain ⟨hrules, hback⟩ := sweep_of_none hnone
    obtain ⟨e, hrun, hissue, hstart, hstop, hproblem, hnotes⟩ := run_choices_of_none name hc hnone
    refine ⟨hrules, hback, e, hrun, ?_, ?_, hstart, hstop, hproblem, hnotes⟩
    · exact congrArg Issue.code hissue
    · exact congrArg Issue.message hissue
  · rintro before after r v d rfl hnone hr
    have hsweep := sweep_append_cons_of_value after hnone hr
    have hfound : (sweep (run patience limit env) c.pos c (before ++ r :: after)).found =
        some (.value v) := by
      rw [hsweep]
    have hrules := (sweep_of_none hnone).1
    rw [run_choices_of_some name hc hfound, hvisits, hsweep, List.map_append, hrules]
    exact ⟨rfl, rfl⟩

/-- In the text `ab` a rule that looks for an `x` and strays when it fails is tried before others.
If they all fail, the span of the error reaches up to where the first of them has strayed. If the
second one matches, the third is not called. -/
theorem straying_reports :
    (∃ e, (run 0 20 [] (.choices none [straying "x", .tag "b"])).run
          (⟨0, .empty⟩ : Cursor ['a', 'b']) = (.failure e, ⟨0, .empty⟩) ∧
        e.code = .noMatch ∧ e.message = "no match: expected one of <anonymous>, b" ∧
        e.location.span.start = 0 ∧ e.location.span.stop = 99 ∧ e.notes.length = 2) ∧
      ∃ (a : Call ['a', 'b']) (v : Value),
        (logged 0 20 [] (.choices none [straying "x", .tag "a", .tag "b"])).run ⟨0, .empty⟩ =
          (a.events, .value v, ⟨1, .empty⟩) ∧
        (Call.visits a.inner).map Visit.rule = [straying "x", .tag "a"] := by
  have valid : (⟨0, .empty⟩ : Cursor ['a', 'b']).Valid := by decide
  constructor
  · obtain ⟨a, -, -, hnone, -⟩ :=
      run_choices_reports 19 [] none [straying "x", .tag "b"] valid rfl
    obtain ⟨-, -, e, hrun, hcode, hmessage, hstart, hstop, -, hnotes⟩ := hnone rfl
    refine ⟨e, hrun, hcode, hmessage, ?_, ?_, hnotes.length_eq.symm⟩
    · exact Int.ofNat.inj hstart
    · exact Int.ofNat.inj hstop
  · obtain ⟨a, hlog, -, -, hvalue⟩ :=
      run_choices_reports 19 [] none [straying "x", .tag "a", .tag "b"] valid rfl
    obtain ⟨hrun, hrules⟩ := hvalue [straying "x"] [.tag "b"] (.tag "a") _ _ rfl rfl rfl
    exact ⟨a, _, hrun ▸ hlog, hrules⟩

end Rule

end Descent
