import Descent.Proofs.Limits
import Descent.Proofs.Safety

/-!
# Guarded recursion

A rule is guarded if each reference to a definition stands, within that definition, behind
something in a sequence that cannot match without moving the cursor on. A guarded rule calls
itself from one place only so often, and from further on it has fewer characters ahead; so there
is a bound on the depth of its calls, which is linear in the length of the text
(`Rule.run_of_guarded`).

The depth that a call needs is counted by the characters ahead, then by the number of levels
whose definitions may be referred to before the cursor has moved on, and last by the height of the
rule. Each call that a rule makes needs less: a part of it is lower, a definition that is referred
to may refer to fewer levels, and behind what moves the cursor on there are fewer characters ahead.
-/

namespace Descent

/-! ## Runs for which the depth suffices -/

namespace Action

variable {faults : Fault → Prop} {α β : Type} {text : List Char} {c : Cursor text}

/-- The depth suffices for a run from a cursor. -/
def Completes (x : Action α) (c : Cursor text) : Prop := (x.run c).1 ≠ .fault .tooDeep

namespace Completes

variable {x : Action α}

/-- The depth suffices for a primitive action that has come to its end. -/
theorem of_run {o : Outcome α} {d : Cursor text} (h : x.run c = (o, d)) (ho : o ≠ .fault .tooDeep) :
    x.Completes c := by
  rw [Completes, h]
  exact ho

theorem ne_tooDeep {f : Fault} {d : Cursor text} (h : x.Completes c)
    (hr : x.run c = (.fault f, d)) : f ≠ .tooDeep := by
  rintro rfl
  exact h (by rw [hr])

theorem bind {f : α → Action β} (hx : x.Completes c)
    (hf : ∀ a d, x.run c = (.value a, d) → (f a).Completes d) : (x.bind f).Completes c := by
  rcases hr : x.run c with ⟨o, d⟩
  cases o with
  | value a =>
    rw [Completes, bind_of_value hr]
    exact hf a d hr
  | failure e => exact of_run (bind_of_failure hr) (by simp)
  | fault f => exact of_run (bind_of_fault hr) (by simpa using hx.ne_tooDeep hr)

/-- A function that does not itself run out of depth on the value at hand can be applied. -/
theorem transform {f : α → Outcome β} (hx : x.Completes c)
    (hf : ∀ a d, x.run c = (.value a, d) → f a ≠ .fault .tooDeep) : (x.transform f).Completes c :=
  hx.bind (f := fun a => ⟨fun c => (f a, c)⟩) hf

theorem mapValue (f : α → β) (hx : x.Completes c) : (x.mapValue f).Completes c :=
  hx.transform fun _ _ _ => by simp

theorem catching {handler : ParseError → Outcome α} (hc : c.Valid) (hx : x.Completes c)
    (hh : ∀ e d, x.run c = (.failure e, d) → handler e ≠ .fault .tooDeep) :
    (catching handler x).Completes c := by
  rcases hr : x.run c with ⟨o, d⟩
  cases o with
  | value a => exact of_run (catching_of_value hc hr) (by simp)
  | failure e => exact of_run (catching_of_failure hc hr) (hh e d hr)
  | fault f => exact of_run (catching_of_fault hc hr) (by simpa using hx.ne_tooDeep hr)

/-- All alternatives are tried from the same position. -/
theorem choices {alternatives : List (String × Action α)} (hc : c.Valid)
    (hall : ∀ entry ∈ alternatives, ∀ d : Cursor text, d.pos = c.pos → entry.2.Completes d) :
    (choices alternatives).Completes c := by
  rw [Completes, choices_of_valid hc]
  suffices hfrom : ∀ (labels : List String) (furthest : Int) (notes : List String)
      (d : Cursor text), (choicesFrom labels c.pos furthest notes alternatives).Completes d from
    hfrom _ _ _ c
  intro labels
  induction alternatives with
  | nil =>
    intro furthest notes d
    rw [Completes]
    simp only [choicesFrom]
    split <;> simp
  | cons entry rest ih =>
    obtain ⟨label, x⟩ := entry
    intro furthest notes d
    have hx : x.Completes (d.moveTo c.pos) := hall _ List.mem_cons_self _ rfl
    rcases hr : x.run (d.moveTo c.pos) with ⟨o, e⟩
    cases o with
    | value a => exact of_run (choicesFrom_cons_of_value hr) (by simp)
    | failure error =>
      rw [Completes, choicesFrom_cons_of_failure hr]
      exact ih (fun entry he => hall entry (List.mem_cons_of_mem _ he)) _ _ e
    | fault f =>
      exact of_run (choicesFrom_cons_of_fault hr) (by simpa using hx.ne_tooDeep hr)

/-- The attempts of a repetition begin at the cursor or further on. -/
theorem repeated {good : Int → α → Prop} (hsafe : SafeOn faults text good x) (hc : c.Valid)
    (hx : ∀ d : Cursor text, d.Valid → c.pos ≤ d.pos → x.Completes d) (patience : Nat) :
    (repeated patience x).Completes c := by
  suffices hfrom : ∀ (limit : Nat) (values : List α) (d : Cursor text), d.Valid →
      c.pos ≤ d.pos → (manyFrom x limit values).Completes d from
    hfrom _ [] c hc (Int.le_refl _)
  intro limit
  induction limit with
  | zero => exact fun values d _ _ => of_run rfl (by simp)
  | succ limit ih =>
    intro values d hd hle
    rcases hr : x.run d with ⟨o, e⟩
    cases o with
    | value a =>
      by_cases hm : e.pos = d.pos
      · exact of_run (manyFrom_of_still hd hr hm) (by simp)
      · obtain ⟨he, hde⟩ := hsafe.of_value hd hr
        rw [Completes, manyFrom_of_value hd hr hm]
        exact ih _ e he (Int.le_trans hle hde)
    | failure error => exact of_run (manyFrom_of_failure hd hr) (by simp)
    | fault f =>
      exact of_run (manyFrom_of_fault hd hr) (by simpa using (hx d hd hle).ne_tooDeep hr)

theorem failFrom (start : Int) (issue : Issue) (c : Cursor text) :
    (failFrom start issue : Action α).Completes c := by
  rcases Nat.lt_or_ge digitLimit issue.mostDigits with hlong | hshort
  · exact of_run (failFrom_of_lt hlong) (by simp)
  · rw [Completes, failFrom_of_le hshort]
    have hlocate : (locateFrom start).Completes c := by
      show Outcome.ofPosition (c.locate start c.pos) ≠ _
      cases c.locate start c.pos <;> simp [Outcome.ofPosition]
    exact hlocate.bind fun _ _ _ => of_run rfl (by simp)

theorem many {good : Int → α → Prop} (hsafe : SafeOn faults text good x) (hc : c.Valid)
    (hx : ∀ d : Cursor text, d.Valid → c.pos ≤ d.pos → x.Completes d) (patience : Nat) (min : Int)
    (max : Option Int) : (many patience min max x).Completes c := by
  have hrepeated : (Action.repeated patience x).Completes c := repeated hsafe hc hx patience
  rcases hr : (Action.repeated patience x).run c with ⟨o, d⟩
  cases o with
  | value values =>
    cases hbounds : withinBounds min max values.length with
    | true => exact of_run (many_of_within hc hr hbounds) (by simp)
    | false =>
      rw [Completes, many_of_outside hc hr hbounds]
      exact failFrom _ _ d
  | failure e => exact absurd (congrArg Prod.fst hr) (manyFrom_ne_failure x _ [] c e)
  | fault f => exact of_run (many_of_fault hc hr) (by simpa using hrepeated.ne_tooDeep hr)

end Completes

/-- Every attempt of a repetition but the last one moves the cursor on. -/
theorem length_le_of_repeated {good : Int → α → Prop} {x : Action α}
    (hx : SafeOn faults text good x) (hc : c.Valid) {patience : Nat} {values : List α}
    {d : Cursor text} (h : (repeated patience x).run c = (.value values, d)) :
    (values.length : Int) ≤ text.length - c.pos + 1 := by
  -- from any place in the course of the repetition, with the values before it
  suffices hfrom : ∀ (limit : Nat) (before : List α) (c : Cursor text), c.Valid →
      (manyFrom x limit before).run c = (.value values, d) →
      (values.length : Int) ≤ before.length + (text.length - c.pos + 1) by
    simpa using hfrom _ [] c hc h
  intro limit
  induction limit with
  | zero => exact fun before c _ h => by cases h
  | succ limit ih =>
    intro before c hc h
    have hend := hc.2
    rcases hr : x.run c with ⟨o, e⟩
    cases o with
    | value a =>
      by_cases hm : e.pos = c.pos
      · rw [manyFrom_of_still hc hr hm] at h
        cases h
        rw [List.length_append, List.length_singleton]
        omega
      · obtain ⟨he, hle⟩ := hx.of_value hc hr
        rw [manyFrom_of_value hc hr hm] at h
        have hrest := ih _ e he h
        rw [List.length_append, List.length_singleton] at hrest
        omega
    | failure error =>
      rw [manyFrom_of_failure hc hr] at h
      cases h
      omega
    | fault f =>
      rw [manyFrom_of_fault hc hr] at h
      cases h

end Action

namespace Rule

open Descent.Action

/-! ## Guarded rules -/

/-- A rule cannot match without moving the cursor on. -/
def Consumes (env : List Rule) (r : Rule) : Prop :=
  ∀ (patience limit : Nat) (text : List Char) (c d : Cursor text) (v : Value), c.Valid →
    (run patience limit env r).run c = (.value v, d) → c.pos < d.pos

/-- A literal cannot match without moving the cursor on. -/
theorem consumes_tag (env : List Rule) {literal : String} (hne : literal.toList ≠ []) :
    Consumes env (.tag literal) := by
  intro patience limit text c d v hc hr
  cases limit with
  | zero => cases hr
  | succ limit =>
    obtain ⟨l, hl, -⟩ := exists_of_mapValue_eq_value hr
    rw [tag_of_valid hc hne, tagOutcome] at hl
    split at hl
    · next hall =>
      have hbegins : literal.toList <+: c.visible := agreement_eq_length_iff.mp hall
      have hpos : 0 < literal.toList.length := List.length_pos_iff.mpr hne
      cases hl
      exact Cursor.pos_lt_pos_onto (hall ▸ hpos) (Nat.lt_of_lt_of_le hpos hbegins.length_le)
    · cases hl

/-- A token cannot match without moving the cursor on. -/
theorem consumes_regex (env : List Rule) (pattern : String) (accepts : List Char → Bool) :
    Consumes env (.regex pattern accepts) := by
  intro patience limit text c d v hc hr
  cases limit with
  | zero => cases hr
  | succ limit =>
    obtain ⟨l, hl, -⟩ := exists_of_mapValue_eq_value hr
    rw [regex_of_valid hc] at hl
    split at hl
    · cases hl
    · next htakes =>
      have hpos := Nat.pos_of_ne_zero htakes
      cases hl
      exact Cursor.pos_lt_pos_onto hpos
        (Nat.lt_of_lt_of_le hpos (tokenLength_le_length accepts [] c.visible))

/-- What comes behind a rule in a sequence is guarded as before, where the definitions below the
level `k` may be referred to; or, if the rule cannot match without moving the cursor on, all of
them may. -/
def After (k : Nat) (env : List Rule) (first : Rule) (rest : Nat → Prop) : Prop :=
  rest k ∨ Consumes env first ∧ rest env.length

mutual

/-- A rule among the definitions `env` is guarded when those below the level `k` may be referred
to: all references to others stand behind something in a sequence that cannot match without moving
the cursor on. A definition may not refer to itself before that. -/
def Guarded (k : Nat) (env : List Rule) : Rule → Prop
  | .tag _ => True
  | .regex .. => True
  | .eof => True
  | .action _ => True
  | .map _ r => Guarded k env r
  | .both r s => Guarded k env r ∧ After k env r fun k => Guarded k env s
  | .keepLeft r s => Guarded k env r ∧ After k env r fun k => Guarded k env s
  | .keepRight r s => Guarded k env r ∧ After k env r fun k => Guarded k env s
  | .choices _ rs => GuardedAll k env rs
  | .many _ _ r => Guarded k env r
  | .seq rs => GuardedInOrder k env rs
  | .catching _ r => Guarded k env r
  | .named _ r => Guarded k env r
  | .ignored r => Guarded k env r
  | .fix level d => Guarded (min k level) (env.take level ++ [d]) d
  | .ref level _ => level < k

/-- All rules of a choice are guarded. -/
def GuardedAll (k : Nat) (env : List Rule) : List Rule → Prop
  | [] => True
  | r :: rs => Guarded k env r ∧ GuardedAll k env rs

/-- The rules of a sequence are guarded, each behind those before it. -/
def GuardedInOrder (k : Nat) (env : List Rule) : List Rule → Prop
  | [] => True
  | r :: rs => Guarded k env r ∧ After k env r fun k => GuardedInOrder k env rs

end

mutual

/-- How deep a rule is, without what it refers to. -/
def height : Rule → Nat
  | .tag _ => 0
  | .regex .. => 0
  | .eof => 0
  | .action _ => 0
  | .map _ r => r.height + 1
  | .both r s => max r.height s.height + 1
  | .keepLeft r s => max r.height s.height + 1
  | .keepRight r s => max r.height s.height + 1
  | .choices _ rs => heightAll rs + 1
  | .many _ _ r => r.height + 1
  | .seq rs => heightAll rs + 1
  | .catching _ r => r.height + 1
  | .named _ r => r.height + 1
  | .ignored r => r.height + 1
  | .fix _ d => d.height + 1
  | .ref .. => 0

/-- How deep the deepest of several rules is. -/
def heightAll : List Rule → Nat
  | [] => 0
  | r :: rs => max r.height (heightAll rs)

end

theorem height_le_heightAll {r : Rule} {rs : List Rule} (h : r ∈ rs) :
    r.height ≤ heightAll rs := by
  induction rs with
  | nil => cases h
  | cons s rs ih =>
    rw [heightAll]
    rcases List.mem_cons.mp h with rfl | h
    · exact Nat.le_max_left _ _
    · exact Nat.le_trans (ih h) (Nat.le_max_right _ _)

/-- A part of a rule is less deep than the rule. -/
theorem height_lt_of_mem_parts {env : List Rule} {r : Rule} {part : List Rule × Rule}
    (h : part ∈ parts env r) : part.2.height < r.height := by
  cases r with
  | choices name rs =>
    obtain ⟨s, hs, rfl⟩ := List.mem_map.mp h
    exact Nat.lt_succ_of_le (height_le_heightAll hs)
  | seq rs =>
    obtain ⟨s, hs, rfl⟩ := List.mem_map.mp h
    exact Nat.lt_succ_of_le (height_le_heightAll hs)
  | _ => grind [parts, height]

theorem guardedAll_iff {k : Nat} {env rs : List Rule} :
    GuardedAll k env rs ↔ ∀ r ∈ rs, Guarded k env r := by
  induction rs with
  | nil => simp [GuardedAll]
  | cons r rs ih => rw [GuardedAll, ih, List.forall_mem_cons]

/-! ## The depth that a call needs -/

/-- The depth that a call needs of a rule with a height, with so many characters ahead, when the
definitions below the level `k` may be referred to. Levels and heights are at most `size`. -/
def need (size ahead k height : Nat) : Nat := ahead * (size * size) + k * size + height

variable {size ahead ahead' k k' h h' : Nat}

theorem need_le_need (ha : ahead' ≤ ahead) (hk : k' ≤ k) (hh : h' ≤ h) :
    need size ahead' k' h' ≤ need size ahead k h :=
  Nat.add_le_add (Nat.add_le_add (Nat.mul_le_mul_right _ ha) (Nat.mul_le_mul_right _ hk)) hh

/-- With fewer characters ahead, all levels may be referred to. -/
theorem need_le_need_of_lt (ha : ahead' < ahead) (hk : k' ≤ size) :
    need size ahead' k' h ≤ need size ahead k h := by
  have hahead : (ahead' + 1) * (size * size) ≤ ahead * (size * size) := Nat.mul_le_mul_right _ ha
  have hlevels : k' * size ≤ size * size := Nat.mul_le_mul_right _ hk
  rw [Nat.succ_mul] at hahead
  unfold need
  omega

/-- With fewer levels to refer to, a rule may have any height. -/
theorem need_lt_need_of_lt (hk : k' < k) (hh : h' < size) :
    need size ahead k' h' < need size ahead k h := by
  have hlevels : (k' + 1) * size ≤ k * size := Nat.mul_le_mul_right _ hk
  rw [Nat.succ_mul] at hlevels
  unfold need
  omega

variable {faults : Fault → Prop} {text : List Char} {patience limit : Nat} {env : List Rule}
  {r s : Rule}

/-- A depth is as much as is needed at a cursor for rules up to a height. -/
def Ready (size limit h k : Nat) (c : Cursor text) : Prop := need size c.rest.length k h ≤ limit

theorem Ready.onward {c d : Cursor text} (hready : Ready size limit h k c) (hle : c.pos ≤ d.pos) :
    Ready size limit h k d := by
  have hrest : d.rest.length ≤ c.rest.length := by
    rw [Cursor.length_rest, Cursor.length_rest]
    omega
  exact Nat.le_trans (need_le_need hrest (Nat.le_refl _) (Nat.le_refl _)) hready

theorem Ready.past {c d : Cursor text} (hready : Ready size limit h k c) (hc : c.Valid)
    (hd : d.Valid) (hlt : c.pos < d.pos) (hk : k' ≤ size) : Ready size limit h k' d := by
  have hrest : d.rest.length < c.rest.length := by
    have := hc.1
    have := hd.2
    rw [Cursor.length_rest, Cursor.length_rest]
    omega
  exact Nat.le_trans (need_le_need_of_lt hrest hk) hready

/-- A rule and the definitions around it are proper and within a size, and no definition refers to
its own level before the cursor has moved on. -/
structure Fits (size : Nat) (env : List Rule) (r : Rule) : Prop where
  proper : Throughout Proper env r
  le_size : env.length + r.height ≤ size
  definitions : Defined (fun env d => env.length + d.height ≤ size ∧
    ∃ k < env.length, Guarded k env d) env

namespace Fits

theorem inside (hr : Fits size env r) (hs : (env, s) ∈ parts env r) : Fits size env s where
  proper := ⟨hr.proper.rule.inside hs, hr.proper.definitions⟩
  le_size := by
    have hlt : s.height < r.height := height_lt_of_mem_parts hs
    have hle := hr.le_size
    omega
  definitions := hr.definitions

/-- A definition is run among one definition more, itself. -/
theorem fix {level : Nat} (hr : Fits size env (.fix level r))
    (guarded : Guarded k env (.fix level r)) : Fits size (env.take level ++ [r]) r := by
  have hlevel : level ≤ env.length := hr.proper.here.wellFormed
  have hlength : (env.take level ++ [r]).length = level + 1 := by
    rw [List.length_append, List.length_take, List.length_singleton, Nat.min_eq_left hlevel]
  have hle : (env.take level ++ [r]).length + r.height ≤ size := by
    have hfix : env.length + (r.height + 1) ≤ size := hr.le_size
    omega
  refine ⟨hr.proper.fix, hle, hr.definitions.append ⟨hle, min k level, ?_, guarded⟩⟩
  rw [hlength]
  omega

/-- What is referred to fits as well, and refers to lower levels only. -/
theorem definition {level : Nat} {name : Option String} (hr : Fits size env (.ref level name)) :
    ∃ d k, env[level]? = some d ∧ k ≤ level ∧ Guarded k (env.take (level + 1)) d ∧
      Fits size (env.take (level + 1)) d := by
  have hlevel : level < env.length := hr.proper.here.wellFormed
  obtain ⟨d, hd, proper⟩ := hr.proper.definition hlevel
  obtain ⟨hle, k, hk, guarded⟩ := hr.definitions level d hd
  rw [List.length_take] at hk
  exact ⟨d, k, hd, by omega, guarded, proper, hle, hr.definitions.take _⟩

end Fits

/-- Behind a rule that has matched, the rest of a sequence is guarded and there is depth for it. -/
theorem After.exists_ready {rest : Nat → Prop} {c d : Cursor text} {v : Value}
    (after : After k env s rest) (hs : Throughout Proper env s) (hsize : env.length ≤ size)
    (hc : c.Valid) (hready : Ready size limit h k c) {depth : Nat}
    (hr : (run patience depth env s).run c = (.value v, d)) :
    ∃ k', rest k' ∧ d.Valid ∧ Ready size limit h k' d := by
  obtain ⟨hd, hle⟩ := (run_safe hs text patience depth).of_value hc hr
  rcases after with hrest | ⟨consumes, hrest⟩
  · exact ⟨k, hrest, hd, hready.onward hle⟩
  · have onward := consumes patience depth text c d v hc hr
    exact ⟨env.length, hrest, hd, hready.past hc hd onward hsize⟩

/-- There is depth for a sequence if there is for its rules. -/
theorem completes_seqFrom {rs : List Rule} (hall : ∀ s ∈ rs, Throughout Proper env s)
    (hsize : env.length ≤ size)
    (calls : ∀ s ∈ rs, ∀ (k : Nat) (d : Cursor text), d.Valid → Ready size limit h k d →
      Guarded k env s → (run patience limit env s).Completes d)
    (guarded : GuardedInOrder k env rs) {c : Cursor text} (hc : c.Valid)
    (hready : Ready size limit h k c) (values : List Value) :
    (seqFrom values (rs.map fun s => (s.isIgnored, run patience limit env s))).Completes c := by
  induction rs generalizing k c values with
  | nil => exact .of_run rfl (by simp)
  | cons s rs ih =>
    obtain ⟨first, after⟩ := guarded
    refine (calls s List.mem_cons_self k c hc hready first).bind fun v d hr => ?_
    obtain ⟨k', hrest, hd, hready'⟩ :=
      after.exists_ready (hall s List.mem_cons_self) hsize hc hready hr
    exact ih (fun t ht => hall t (List.mem_cons_of_mem s ht))
      (fun t ht => calls t (List.mem_cons_of_mem s ht)) hrest hd hready' _

/-- The depth suffices for a guarded rule if it is more than what is needed. -/
theorem run_completes (hr : Fits size env r) (guarded : Guarded k env r) {c : Cursor text}
    (hc : c.Valid) (hlimit : need size c.rest.length k r.height < limit) :
    (run patience limit env r).Completes c := by
  induction limit generalizing env r k c with
  | zero => omega
  | succ limit ih =>
    have hready : Ready size limit r.height k c := Nat.le_of_lt_succ hlimit
    have hsize : env.length ≤ size := Nat.le_trans (Nat.le_add_right _ _) hr.le_size
    -- a part is less deep than the rule, so wherever there is depth for the rule, one call less
    -- deep is enough for the part
    have part : ∀ (s : Rule), (env, s) ∈ parts env r → ∀ (k : Nat) (d : Cursor text), d.Valid →
        Ready size limit r.height k d → Guarded k env s →
          (run patience limit env s).Completes d := by
      intro s hs k d hd hready guarded
      refine ih (hr.inside hs) guarded hd (Nat.lt_of_lt_of_le ?_ hready)
      exact Nat.add_lt_add_left (height_lt_of_mem_parts hs) _
    have safe : ∀ (s : Rule), (env, s) ∈ parts env r →
        SafeOn (fun _ => True) text (fun _ _ => True) (run patience limit env s) :=
      fun s hs => run_safe (hr.inside hs).proper text patience limit
    have pair : ∀ (s t : Rule), (env, s) ∈ parts env r → (env, t) ∈ parts env r →
        Guarded k env s ∧ After k env s (fun k => Guarded k env t) →
        (run patience limit env s).Completes c ∧
          ∀ v d, (run patience limit env s).run c = (.value v, d) →
            (run patience limit env t).Completes d := by
      rintro s t hs ht ⟨first, after⟩
      refine ⟨part s hs k c hc hready first, fun v d hv => ?_⟩
      obtain ⟨k', second, hd, hready'⟩ :=
        after.exists_ready (hr.inside hs).proper hsize hc hready hv
      exact part t ht k' d hd hready' second
    rw [run_succ]
    cases r with
    | tag literal =>
      refine .mapValue _ (.of_run (tag_of_valid hc hr.proper.here.wellFormed) ?_)
      unfold tagOutcome
      split <;> simp
    | regex pattern accepts =>
      refine .mapValue _ ?_
      rw [Completes, regex_of_valid hc]
      split <;> simp
    | eof =>
      refine .mapValue _ (.of_run (eof_of_valid hc) ?_)
      split <;> simp
    | action x => exact hr.proper.here.normal.elim
    | map f s =>
      have hs : (env, s) ∈ parts env (.map f s) := List.mem_cons_self
      refine (part s hs k c hc hready guarded).transform fun v d hv => ?_
      obtain ⟨w, hw⟩ := hr.proper.here.normal patience limit text c d v hc hv
      simp [hw]
    | both s t =>
      obtain ⟨first, second⟩ := pair s t (by simp [parts]) (by simp [parts]) guarded
      exact .mapValue _ (first.bind fun v d hv => (second v d hv).mapValue _)
    | keepLeft s t =>
      obtain ⟨first, second⟩ := pair s t (by simp [parts]) (by simp [parts]) guarded
      exact first.bind fun v d hv => (second v d hv).mapValue _
    | keepRight s t =>
      obtain ⟨first, second⟩ := pair s t (by simp [parts]) (by simp [parts]) guarded
      exact first.bind fun v d hv => second v d hv
    | choices name rs =>
      refine .choices hc fun entry hentry d hd => ?_
      obtain ⟨s, hs, rfl⟩ := List.mem_map.mp hentry
      have hvalid : d.Valid := by rwa [Cursor.Valid, hd]
      exact part s (List.mem_map_of_mem hs) k d hvalid (hready.onward (Int.le_of_eq hd.symm))
        (guardedAll_iff.mp guarded s hs)
    | many min max s =>
      have hs : (env, s) ∈ parts env (.many min max s) := List.mem_cons_self
      exact .mapValue _ (.many (safe s hs) hc
        (fun d hd hle => part s hs k d hd (hready.onward hle) guarded) patience min max)
    | seq rs =>
      have hparts : ∀ s ∈ rs, (env, s) ∈ parts env (.seq rs) := fun s hs => List.mem_map_of_mem hs
      exact .mapValue _ (completes_seqFrom (fun s hs => (hr.inside (hparts s hs)).proper) hsize
        (fun s hs => part s (hparts s hs)) guarded hc hready [])
    | catching handler s =>
      have hs : (env, s) ∈ parts env (.catching handler s) := List.mem_cons_self
      refine .catching hc (part s hs k c hc hready guarded) fun e d he => ?_
      obtain ⟨w, hw⟩ := hr.proper.here.normal patience limit text c d e hc he
      simp [hw]
    | named name s => exact part s List.mem_cons_self k c hc hready guarded
    | ignored s => exact part s List.mem_cons_self k c hc hready guarded
    | fix level d =>
      refine ih (hr.fix guarded) guarded hc (Nat.lt_of_lt_of_le ?_ hready)
      exact Nat.lt_of_le_of_lt
        (need_le_need (Nat.le_refl _) (Nat.min_le_left _ _) (Nat.le_refl _)) (Nat.lt_succ_self _)
    | ref level name =>
      -- the definition may refer to fewer levels than the reference was one of
      obtain ⟨d, k', hd, hk', guarded', fits⟩ := hr.definition
      have hlevel : level < k := guarded
      have hheight : d.height < size := by
        have hle := fits.le_size
        have hlt : level < env.length := hr.proper.here.wellFormed
        rw [List.length_take] at hle
        omega
      rw [layer, hd]
      exact ih fits guarded' hc (Nat.lt_of_lt_of_le
        (need_lt_need_of_lt (Nat.lt_of_le_of_lt hk' hlevel) hheight) hready)

/-! ## Bounds -/

/-- A repetition comes to an end, unless there is one of the faults that are allowed, and makes no
more attempts that match than there are characters ahead, and one. -/
def AttemptsWithin (faults : Fault → Prop) (text : List Char) (env : List Rule) : Rule → Prop
  | .many _ _ r => ∀ (patience limit : Nat) (c : Cursor text), c.Valid →
      (∃ (values : List Value) (d : Cursor text),
        (repeated patience (run patience limit env r)).run c = (.value values, d) ∧
        (values.length : Int) ≤ text.length - c.pos + 1) ∨
      ∃ (f : Fault) (d : Cursor text),
        (repeated patience (run patience limit env r)).run c = (.fault f, d) ∧ faults f
  | _ => True

theorem attemptsWithin
    (hr : Throughout (fun env r => Proper env r ∧ Allowed faults env r) env r)
    (text : List Char) : AttemptsWithin faults text env r := by
  cases r with
  | many min max s =>
    intro patience limit c hc
    have safe := run_safe_of_allowed hr.many text patience limit
    have hend := repeated_safeOn safe (fun _ _ _ _ _ => trivial) patience c hc
    rcases hres : (repeated patience (run patience limit env s)).run c with ⟨o, d⟩
    rw [hres] at hend
    cases o with
    | value values => exact .inl ⟨values, d, rfl, length_le_of_repeated safe hc hres⟩
    | failure e => exact absurd (congrArg Prod.fst hres) (manyFrom_ne_failure _ _ [] c e)
    | fault f => exact .inr ⟨f, d, rfl, hend.outcome⟩
  | _ => trivial

/-- Words one after another, and such again between parentheses, as far as there are any. -/
def words : Rule :=
  .fix 0 (.optional .null (.choices none
    [.both (.regex "[a-z]+" fun token => token.all Char.isLower) (.ref 0 none),
      .seq [.tag "(", .ref 0 none, .tag ")"]]))

end Rule

end Descent
