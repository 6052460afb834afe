import Mathlib.Data.List.Forall2
import Descent.Proofs.Safety

/-!
# How far the error of a choice reaches

When all alternatives of a choice fail, its error spans the text from where they began up to the
furthest position at which one of them has left the cursor. Most failures leave the cursor at the
end of their own error, so that the error of the choice reaches as far as the furthest one of the
alternatives. A token that is not found and a choice leave the cursor where they began, before the
end of their errors. What an alternative has read and given back in this way is missing from the
error of the choice around it, unless another alternative has come as far.
-/

namespace Descent

variable {α β : Type} {text : List Char}

/-! ## Failed alternatives -/

/-- The furthest of a position and those where failed alternatives have left the cursor. -/
def furthest (p : Int) : List (ParseError × Cursor text) → Int
  | [] => p
  | f :: failed => furthest (max p f.2.pos) failed

theorem furthest_le_iff {p q : Int} {failed : List (ParseError × Cursor text)} :
    furthest p failed ≤ q ↔ p ≤ q ∧ ∀ f ∈ failed, f.2.pos ≤ q := by
  induction failed generalizing p with
  | nil => simp [furthest]
  | cons f failed ih => rw [furthest, ih, Int.max_le, List.forall_mem_cons, and_assoc]

theorem le_furthest (p : Int) (failed : List (ParseError × Cursor text)) :
    p ≤ furthest p failed :=
  (furthest_le_iff.1 (Int.le_refl _)).1

theorem pos_le_furthest (p : Int) {failed : List (ParseError × Cursor text)}
    {f : ParseError × Cursor text} (hf : f ∈ failed) : f.2.pos ≤ furthest p failed :=
  (furthest_le_iff.1 (Int.le_refl _)).2 f hf

theorem furthest_eq_or_exists (p : Int) (failed : List (ParseError × Cursor text)) :
    furthest p failed = p ∨ ∃ f ∈ failed, f.2.pos = furthest p failed := by
  induction failed generalizing p with
  | nil => exact .inl rfl
  | cons f failed ih =>
    rw [furthest]
    rcases ih (max p f.2.pos) with h | ⟨g, hg, h⟩
    · rcases Int.le_total p f.2.pos with hle | hle
      · exact .inr ⟨f, List.mem_cons_self, by omega⟩
      · exact .inl (by omega)
    · exact .inr ⟨g, List.mem_cons_of_mem _ hg, h⟩

/-- Where no alternative has moved the cursor back, one of them has left it at the furthest
position. -/
theorem exists_pos_eq_furthest {p : Int} {failed : List (ParseError × Cursor text)}
    (hne : failed ≠ []) (hle : ∀ f ∈ failed, p ≤ f.2.pos) :
    ∃ f ∈ failed, f.2.pos = furthest p failed := by
  rcases furthest_eq_or_exists p failed with h | h
  · obtain ⟨f, hf⟩ := List.exists_mem_of_ne_nil failed hne
    have := hle f hf
    have := pos_le_furthest p hf
    exact ⟨f, hf, by omega⟩
  · exact h

/-- An error reaches as far as those of the failed alternatives: no one of them ends behind it, and
one of them ends where it does. -/
def ParseError.ReachesAll (e : ParseError) (failed : List (ParseError × Cursor text)) : Prop :=
  (∀ f ∈ failed, f.1.location.span.stop ≤ e.location.span.stop) ∧
    ∃ f ∈ failed, f.1.location.span.stop = e.location.span.stop

/-- An error that ends at the furthest position reaches as far as those of the alternatives exactly
if each of them has been come up to by the cursor of one of the alternatives. -/
theorem ParseError.reachesAll_iff {e : ParseError} {p : Int}
    {failed : List (ParseError × Cursor text)} (hne : failed ≠ [])
    (hle : ∀ f ∈ failed, p ≤ f.2.pos) (hpos : ∀ f ∈ failed, f.2.pos ≤ f.1.location.span.stop)
    (he : (e.location.span.stop : Int) = furthest p failed) :
    e.ReachesAll failed ↔ ∀ f ∈ failed, ∃ g ∈ failed, f.1.location.span.stop ≤ g.2.pos := by
  obtain ⟨g, hg, hgpos⟩ := exists_pos_eq_furthest hne hle
  constructor
  · rintro ⟨hall, -⟩ f hf
    have := hall f hf
    exact ⟨g, hg, by omega⟩
  · intro h
    have hall : ∀ f ∈ failed, f.1.location.span.stop ≤ e.location.span.stop := by
      intro f hf
      obtain ⟨g, hg, hfg⟩ := h f hf
      have := pos_le_furthest p hg
      omega
    have := hall g hg
    have := hpos g hg
    exact ⟨hall, g, hg, by omega⟩

/-! ## Where failures leave the cursor -/

/-- The location of the next characters ends behind them. -/
theorem Cursor.stop_stretch {c : Cursor text} (h : c.Valid) (n : Nat) :
    ((c.stretch n).span.stop : Int) = c.pos + n := by
  show ((c.pos.toNat + n : Nat) : Int) = c.pos + n
  have := h.1
  omega

namespace Action

open Cursor

variable {faults : Fault → Prop} {good : Int → α → Prop} {exact : Prop}

/-- Failing from a valid cursor, an action leaves the cursor no further than its error reaches, and
if it is `exact`, just there. -/
def FailsWithin (text : List Char) (exact : Prop) (x : Action α) : Prop :=
  ∀ (c d : Cursor text) (e : ParseError), c.Valid → x.run c = (.failure e, d) →
    d.pos ≤ e.location.span.stop ∧ (exact → e.location.span.stop ≤ d.pos)

theorem FailsWithin.mono {exact' : Prop} {x : Action α} (h : FailsWithin text exact x)
    (himp : exact' → exact) : FailsWithin text exact' x :=
  fun c d e hc hr => (h c d e hc hr).imp id fun hstop he => hstop (himp he)

/-- The failure of two actions in order is that of one of them. -/
theorem FailsWithin.bind {x : Action α} {f : α → Action β} (hx : FailsWithin text exact x)
    (safe : SafeOn faults text good x) (hf : ∀ a, FailsWithin text exact (f a)) :
    FailsWithin text exact (x.bind f) := by
  intro c d e hc hr
  rcases hx' : x.run c with ⟨o, c'⟩
  cases o with
  | value a =>
    rw [bind_of_value hx'] at hr
    exact hf a c' d e (safe.of_value hc hx').1 hr
  | failure e' =>
    rw [bind_of_failure hx'] at hr
    cases hr
    exact hx c d e hc hx'
  | fault f' =>
    rw [bind_of_fault hx'] at hr
    cases hr

/-- A function that returns normally adds no failures. -/
theorem FailsWithin.transform {x : Action α} {f : α → Outcome β} (hx : FailsWithin text exact x)
    (hf : ∀ (c d : Cursor text) (a : α), c.Valid → x.run c = (.value a, d) → ∃ b, f a = .value b) :
    FailsWithin text exact (x.transform f) := by
  intro c d e hc hr
  rcases hx' : x.run c with ⟨o, c'⟩
  cases o with
  | value a =>
    obtain ⟨b, hb⟩ := hf c c' a hc hx'
    rw [transform_of_value hx', hb] at hr
    cases hr
  | failure e' =>
    rw [transform_of_failure hx'] at hr
    cases hr
    exact hx c d e hc hx'
  | fault f' =>
    rw [transform_of_fault hx'] at hr
    cases hr

theorem FailsWithin.mapValue {x : Action α} (hx : FailsWithin text exact x) (f : α → β) :
    FailsWithin text exact (x.mapValue f) :=
  hx.transform fun _ _ a _ _ => ⟨f a, rfl⟩

/-- The failure of actions in order is that of one of them. -/
theorem failsWithin_seqFrom {actions : List (Bool × Action α)}
    (hall : ∀ entry ∈ actions, FailsWithin text exact entry.2)
    (safe : ∀ entry ∈ actions, SafeOn faults text good entry.2) (values : List α) :
    FailsWithin text exact (seqFrom values actions) := by
  induction actions generalizing values with
  | nil =>
    intro c d e hc hr
    cases hr
  | cons entry rest ih =>
    refine (hall entry List.mem_cons_self).bind (safe entry List.mem_cons_self) fun v => ?_
    exact ih (fun e he => hall e (List.mem_cons_of_mem _ he))
      (fun e he => safe e (List.mem_cons_of_mem _ he)) _

/-! ## Primitive actions -/

/-- A literal fails where its error ends. -/
theorem failsWithin_tag {literal : String} (hne : literal.toList ≠ []) :
    FailsWithin text True (tag literal) := by
  intro c d e hc hr
  rw [tag_of_valid hc hne, tagOutcome] at hr
  split at hr
  · cases hr
  · cases hr
    have hstop := stop_stretch hc (c.gap (agreement literal.toList c.visible))
    exact ⟨Int.le_of_eq hstop.symm, fun _ => Int.le_of_eq hstop⟩

/-- The end of the text is missed where the error ends. -/
theorem failsWithin_eof : FailsWithin text True eof := by
  intro c d e hc hr
  rw [eof_of_valid hc] at hr
  split at hr
  · cases hr
  · cases hr
    have hstop := stop_stretch hc (c.gap 0)
    exact ⟨Int.le_of_eq hstop.symm, fun _ => Int.le_of_eq hstop⟩

/-- A token that is not found leaves the cursor before the blank characters that its error
spans. -/
theorem failsWithin_regex (pattern : String) (accepts : List Char → Bool) :
    FailsWithin text False (regex pattern accepts) := by
  intro c d e hc hr
  rw [regex_of_valid hc] at hr
  split at hr
  · cases hr
    refine ⟨?_, False.elim⟩
    show c.pos ≤ (c.stretch (c.gap 0)).span.stop
    rw [stop_stretch hc]
    omega
  · cases hr

/-! ## Choice, repetition and recovery -/

/-- Alternatives that all fail have done so from where the choice began, and its error spans the
text from there to the furthest position. -/
theorem exists_of_choicesFrom_eq_failure {labels notes : List String}
    {alternatives : List (String × Action α)} {s c d : Cursor text} {e : ParseError} {p : Int}
    (hall : ∀ entry ∈ alternatives, SafeOn faults text good entry.2) (hs : s.Valid) (hp : s.pos ≤ p)
    (hb : c.blanks = s.blanks)
    (h : (choicesFrom labels s.pos p notes alternatives).run c = (.failure e, d)) :
    d = s ∧ ∃ failed : List (ParseError × Cursor text),
      List.Forall₂ (fun entry f => entry.2.run s = (.failure f.1, f.2)) alternatives failed ∧
      (e.location.span.start : Int) = s.pos ∧
      (e.location.span.stop : Int) = furthest p failed := by
  have hback : c.moveTo s.pos = s := eq_of_pos_eq rfl hb
  induction alternatives generalizing notes p c with
  | nil =>
    simp only [choicesFrom, locate_of_pos_le hs hb hp, hback] at h
    cases h
    refine ⟨rfl, [], .nil, Int.toNat_of_nonneg hs.1, ?_⟩
    show ((s.stretch (p - s.pos).toNat).span.stop : Int) = p
    rw [stop_stretch hs]
    omega
  | cons entry rest ih =>
    obtain ⟨label, action⟩ := entry
    have hend := hall _ List.mem_cons_self s hs
    rcases hr : action.run s with ⟨o, c'⟩
    rw [hr] at hend
    have hr' : action.run (c.moveTo s.pos) = (o, c') := by rw [hback, hr]
    cases o with
    | value a =>
      rw [choicesFrom_cons_of_value hr'] at h
      cases h
    | failure e' =>
      rw [choicesFrom_cons_of_failure hr'] at h
      obtain ⟨hd, failed, hfailed, hspan⟩ :=
        ih (fun e he => hall e (List.mem_cons_of_mem _ he)) (Int.le_trans hp (Int.le_max_left _ _))
          hend.blanks_eq h (eq_of_pos_eq rfl hend.blanks_eq)
      exact ⟨hd, (e', c') :: failed, .cons hr hfailed, hspan⟩
    | fault f =>
      rw [choicesFrom_cons_of_fault hr'] at h
      cases h

/-- The failure of a choice is that of all its alternatives. -/
theorem exists_of_choices_eq_failure {alternatives : List (String × Action α)} {c d : Cursor text}
    {e : ParseError} (hall : ∀ entry ∈ alternatives, SafeOn faults text good entry.2) (hc : c.Valid)
    (h : (choices alternatives).run c = (.failure e, d)) :
    d = c ∧ ∃ failed : List (ParseError × Cursor text),
      List.Forall₂ (fun entry f => entry.2.run c = (.failure f.1, f.2)) alternatives failed ∧
      (e.location.span.start : Int) = c.pos ∧
      (e.location.span.stop : Int) = furthest c.pos failed := by
  rw [choices_of_valid hc] at h
  exact exists_of_choicesFrom_eq_failure hall hc (Int.le_refl _) rfl h

/-- A choice gives back what its alternatives have read. -/
theorem failsWithin_choices {alternatives : List (String × Action α)}
    (hall : ∀ entry ∈ alternatives, SafeOn faults text good entry.2) :
    FailsWithin text False (choices alternatives) := by
  intro c d e hc h
  obtain ⟨rfl, failed, -, -, hstop⟩ := exists_of_choices_eq_failure hall hc h
  exact ⟨hstop ▸ le_furthest d.pos failed, False.elim⟩

/-- A repetition only fails for its count, where it has ended. -/
theorem failsWithin_many {x : Action α} (hx : SafeOn faults text good x) (hext : Extends good)
    (patience : Nat) (min : Int) (max : Option Int) :
    FailsWithin text True (many patience min max x) := by
  intro c d e hc h
  have hend := repeated_safeOn hx hext patience c hc
  rcases hr : (repeated patience x).run c with ⟨o, c'⟩
  rw [hr] at hend
  cases o with
  | value vs =>
    cases hbounds : withinBounds min max vs.length with
    | true =>
      rw [many_of_within hc hr hbounds] at h
      cases h
    | false =>
      rcases Nat.lt_or_ge digitLimit (Issue.boundDigits min max) with hlong | hshort
      · rw [many_of_outside_of_lt hc hr hbounds hlong] at h
        cases h
      · rw [many_of_outside_of_le hc hr hbounds hshort,
          bind_of_value (locateFrom_of_pos_le hc hend.blanks_eq hend.le_pos)] at h
        cases h
        have hstop := stop_stretch hc (c'.pos - c.pos).toNat
        have hle : c.pos ≤ c'.pos := hend.le_pos
        constructor
        · show c'.pos ≤ (c.stretch (c'.pos - c.pos).toNat).span.stop
          omega
        · intro _
          show ((c.stretch (c'.pos - c.pos).toNat).span.stop : Int) ≤ c'.pos
          omega
  | failure e' =>
    exact absurd (congrArg Prod.fst hr) (manyFrom_ne_failure x _ [] c e')
  | fault f =>
    rw [many_of_fault hc hr] at h
    cases h

/-- A rule with a substitute does not fail if the handler returns normally. -/
theorem failsWithin_catching {x : Action α} {handler : ParseError → Outcome α}
    (hh : ∀ (c d : Cursor text) (e : ParseError), c.Valid → x.run c = (.failure e, d) →
      ∃ a, handler e = .value a) : FailsWithin text True (catching handler x) := by
  intro c d e hc h
  rcases hr : x.run c with ⟨o, c'⟩
  cases o with
  | value a =>
    rw [catching_of_value hc hr] at h
    cases h
  | failure e' =>
    obtain ⟨a, ha⟩ := hh c c' e' hc hr
    rw [catching_of_failure hc hr, ha] at h
    cases h
  | fault f =>
    rw [catching_of_fault hc hr] at h
    cases h

end Action

/-! ## Rules -/

namespace Rule

open Descent.Action

/-- Each failure of an alternative belongs to one of the rules. -/
theorem exists_of_forall₂_of_mem {R : Rule → ParseError × Cursor text → Prop} {rs : List Rule}
    {failed : List (ParseError × Cursor text)} (h : List.Forall₂ R rs failed)
    {f : ParseError × Cursor text} (hf : f ∈ failed) : ∃ r ∈ rs, R r f := by
  induction h with
  | nil => exact absurd hf List.not_mem_nil
  | cons here _ ih =>
    rcases List.mem_cons.1 hf with rfl | hf
    · exact ⟨_, List.mem_cons_self, here⟩
    · obtain ⟨r, hr, hrf⟩ := ih hf
      exact ⟨r, List.mem_cons_of_mem _ hr, hrf⟩

/-- No failure of a rule is that of a token or a choice: where one stands inside it, this is in a
repetition or in a rule with a substitute, which its failure does not leave. -/
inductive Direct : Rule → Prop
  | tag {literal : String} : Direct (.tag literal)
  | eof : Direct .eof
  | map {f : Value → Outcome Value} {r : Rule} (h : Direct r) : Direct (.map f r)
  | both {r s : Rule} (hr : Direct r) (hs : Direct s) : Direct (.both r s)
  | keepLeft {r s : Rule} (hr : Direct r) (hs : Direct s) : Direct (.keepLeft r s)
  | keepRight {r s : Rule} (hr : Direct r) (hs : Direct s) : Direct (.keepRight r s)
  | many {min : Int} {max : Option Int} {r : Rule} : Direct (.many min max r)
  | seq {rs : List Rule} (h : ∀ r ∈ rs, Direct r) : Direct (.seq rs)
  | catching {handler : ParseError → Outcome Value} {r : Rule} : Direct (.catching handler r)
  | named {name : String} {r : Rule} (h : Direct r) : Direct (.named name r)
  | ignored {r : Rule} (h : Direct r) : Direct (.ignored r)
  | fix {level : Nat} {d : Rule} (h : Direct d) : Direct (.fix level d)
  | ref {level : Nat} {name : Option String} : Direct (.ref level name)

/-- A rule and the definitions that it may refer to are direct. -/
def DirectAmong (env : List Rule) (r : Rule) : Prop := Direct r ∧ ∀ d ∈ env, Direct d

/-- A proper rule that fails leaves the cursor no further than its error reaches, and a direct one
just there. -/
theorem run_failsWithin {env : List Rule} {r : Rule} (h : Throughout Proper env r)
    (text : List Char) (patience limit : Nat) :
    FailsWithin text (DirectAmong env r) (run patience limit env r) := by
  induction limit generalizing env r with
  | zero =>
    intro c d e hc hr
    cases hr
  | succ limit ih =>
    have safe : ∀ {s : Rule}, Throughout Proper env s →
        SafeOn (fun _ => True) text (fun _ _ => True) (run patience limit env s) :=
      fun hs => run_safe hs text patience limit
    -- a part is among the same definitions, so only the rule itself has to be direct
    have part : ∀ {s : Rule}, Throughout Proper env s → (Direct r → Direct s) →
        FailsWithin text (DirectAmong env r) (run patience limit env s) :=
      fun hs direct => (ih hs).mono fun h => ⟨direct h.1, h.2⟩
    rw [run_succ]
    cases r with
    | tag literal =>
      exact ((failsWithin_tag h.here.wellFormed).mapValue _).mono fun _ => trivial
    | regex pattern accepts =>
      -- the error of a token reaches further than the cursor, and no token is direct
      refine ((failsWithin_regex pattern accepts).mapValue _).mono ?_
      rintro ⟨⟨⟩, -⟩
    | eof => exact (failsWithin_eof.mapValue _).mono fun _ => trivial
    | action x => exact h.here.normal.elim
    | map f r =>
      have hr := part h.map fun direct => by cases direct; assumption
      exact hr.transform (h.here.normal patience limit text)
    | both r s =>
      have hr := part h.both.1 fun direct => by cases direct; assumption
      have hs := part h.both.2 fun direct => by cases direct; assumption
      exact (hr.bind (safe h.both.1) fun a => hs.mapValue _).mapValue _
    | keepLeft r s =>
      have hr := part h.keepLeft.1 fun direct => by cases direct; assumption
      have hs := part h.keepLeft.2 fun direct => by cases direct; assumption
      exact hr.bind (safe h.keepLeft.1) fun a => hs.mapValue _
    | keepRight r s =>
      have hr := part h.keepRight.1 fun direct => by cases direct; assumption
      have hs := part h.keepRight.2 fun direct => by cases direct; assumption
      exact hr.bind (safe h.keepRight.1) fun a => hs
    | choices name rs =>
      have hsafe : ∀ entry ∈ rs.map fun r => (r.label, run patience limit env r),
          SafeOn (fun _ => True) text (fun _ _ => True) entry.2 := by
        intro entry hentry
        obtain ⟨s, hs, rfl⟩ := List.mem_map.1 hentry
        exact safe (h.choices s hs)
      -- a choice puts the cursor back, whatever its error spans
      refine (failsWithin_choices hsafe).mono ?_
      rintro ⟨⟨⟩, -⟩
    | many min max r =>
      have hext : Extends fun (_ : Int) (_ : Value) => True := fun _ _ _ _ _ => trivial
      have hmany := failsWithin_many (safe h.many) hext patience min max
      exact (hmany.mapValue _).mono fun _ => trivial
    | seq rs =>
      have hsafe : ∀ entry ∈ rs.map fun r => (r.isIgnored, run patience limit env r),
          SafeOn (fun _ => True) text (fun _ _ => True) entry.2 := by
        intro entry hentry
        obtain ⟨s, hs, rfl⟩ := List.mem_map.1 hentry
        exact safe (h.seq s hs)
      refine FailsWithin.mapValue (failsWithin_seqFrom (fun entry hentry => ?_) hsafe []) _
      obtain ⟨s, hs, rfl⟩ := List.mem_map.1 hentry
      refine part (h.seq s hs) fun direct => ?_
      cases direct with
      | seq hall => exact hall s hs
    | catching handler r =>
      exact (failsWithin_catching (h.here.normal patience limit text)).mono fun _ => trivial
    | named name r => exact part h.named fun direct => by cases direct; assumption
    | ignored r => exact part h.ignored fun direct => by cases direct; assumption
    | fix level d =>
      refine (ih h.fix).mono ?_
      rintro ⟨direct, henv⟩
      cases direct with
      | fix hd =>
        refine ⟨hd, fun b hb => ?_⟩
        rcases List.mem_append.1 hb with hb | hb
        · exact henv b (List.mem_of_mem_take hb)
        · exact List.mem_singleton.1 hb ▸ hd
    | ref level name =>
      obtain ⟨d, hd, hdef⟩ := h.definition h.here.wellFormed
      rw [layer, hd]
      refine (ih hdef).mono ?_
      rintro ⟨-, henv⟩
      exact ⟨henv d (List.mem_of_getElem? hd), fun b hb => henv b (List.mem_of_mem_take hb)⟩

/-- When all alternatives of a choice fail that has been built, and whose functions return normally,
its error spans the text from where they began to the furthest position at which one of them has
left the cursor. This is never behind the furthest end of their own errors, and it is that end
exactly if each of these errors has been come up to by the cursor of one of the alternatives. So it
is among alternatives whose failures come from no token and no choice. -/
theorem run_choices_reach {name : Option String} {rs : List Rule}
    (built : Everywhere WellFormed [] (.choices name rs))
    (normal : Everywhere Normal [] (.choices name rs)) (patience limit : Nat)
    {c d : Cursor text} (hc : c.Valid) {e : ParseError}
    (h : (run patience (limit + 1) [] (.choices name rs)).run c = (.failure e, d)) :
    ∃ failed : List (ParseError × Cursor text),
      List.Forall₂ (fun r f => (run patience limit [] r).run c = (.failure f.1, f.2)) rs failed ∧
      (e.location.span.start : Int) = c.pos ∧
      (e.location.span.stop : Int) = furthest c.pos failed ∧
      (∃ f ∈ failed, e.location.span.stop ≤ f.1.location.span.stop) ∧
      (e.ReachesAll failed ↔
        ∀ f ∈ failed, ∃ g ∈ failed, (f.1.location.span.stop : Int) ≤ g.2.pos) ∧
      ((∀ r ∈ rs, Direct r) → e.ReachesAll failed) := by
  have proper : Throughout Proper [] (.choices name rs) :=
    .of_everywhere ((built.and normal).mono fun env r hr => ⟨hr.1, hr.2⟩)
  have safe : ∀ entry ∈ rs.map fun r => (r.label, run patience limit [] r),
      SafeOn (fun _ => True) text (fun _ _ => True) entry.2 := by
    intro entry hentry
    obtain ⟨r, hr, rfl⟩ := List.mem_map.1 hentry
    exact run_safe (proper.choices r hr) text patience limit
  rw [run_succ] at h
  obtain ⟨-, failed, hfailed, hstart, hstop⟩ := exists_of_choices_eq_failure safe hc h
  have hall :
      List.Forall₂ (fun r f => (run patience limit [] r).run c = (.failure f.1, f.2)) rs failed :=
    List.forall₂_map_left_iff.1 hfailed
  have hne : failed ≠ [] := by
    rintro rfl
    exact proper.here.wellFormed (List.forall₂_nil_right_iff.1 hall)
  have began : ∀ f ∈ failed, c.pos ≤ f.2.pos := by
    intro f hf
    obtain ⟨r, hr, hrun⟩ := exists_of_forall₂_of_mem hall hf
    have hend := run_safe (proper.choices r hr) text patience limit c hc
    rw [hrun] at hend
    exact hend.le_pos
  -- the cursor of an alternative that fails is at the end of its error only if that is direct
  have ended : ∀ f ∈ failed, ∃ r ∈ rs, f.2.pos ≤ f.1.location.span.stop ∧
      (DirectAmong [] r → (f.1.location.span.stop : Int) ≤ f.2.pos) := by
    intro f hf
    obtain ⟨r, hr, hrun⟩ := exists_of_forall₂_of_mem hall hf
    exact ⟨r, hr, run_failsWithin (proper.choices r hr) text patience limit c f.2 f.1 hc hrun⟩
  have within : ∀ f ∈ failed, f.2.pos ≤ f.1.location.span.stop :=
    fun f hf => (ended f hf).elim fun _ h => h.2.1
  have reaches := ParseError.reachesAll_iff hne began within hstop
  refine ⟨failed, hall, hstart, hstop, ?_, reaches, fun direct => reaches.2 fun f hf => ?_⟩
  · obtain ⟨f, hf, hpos⟩ := exists_pos_eq_furthest hne began
    have := within f hf
    exact ⟨f, hf, by omega⟩
  · obtain ⟨r, hr, -, hexact⟩ := ended f hf
    exact ⟨f, hf, hexact ⟨direct r hr, fun d hd => absurd hd List.not_mem_nil⟩⟩

/-- From the second of two letters, after a blank, `ab` comes further than `x` does. -/
theorem tags_reach :
    Everywhere WellFormed [] (.choices none [.tag "x", .tag "ab"]) ∧
      Everywhere Normal [] (.choices none [.tag "x", .tag "ab"]) ∧
      ∃ (e : ParseError) (d : Cursor ['a', ' ', 'a', ' ', 'y'])
        (failed : List (ParseError × Cursor ['a', ' ', 'a', ' ', 'y'])),
        (run 0 20 [] (.choices none [.tag "x", .tag "ab"])).run ⟨1, .ofList [" "]⟩ =
          (.failure e, d) ∧
        List.Forall₂ (fun r f => (run 0 19 [] r).run ⟨1, .ofList [" "]⟩ = (.failure f.1, f.2))
          [.tag "x", .tag "ab"] failed ∧
        (e.location.span.start, e.location.span.stop) = (1, 4) ∧ e.ReachesAll failed := by
  have built : Everywhere WellFormed [] (.choices none [.tag "x", .tag "ab"]) := by
    simp [WellFormed]
  have normal : Everywhere Normal [] (.choices none [.tag "x", .tag "ab"]) := by simp [Normal]
  have valid : (⟨1, .ofList [" "]⟩ : Cursor ['a', ' ', 'a', ' ', 'y']).Valid := by decide
  have direct : ∀ r ∈ [Rule.tag "x", .tag "ab"], Direct r := by
    intro r hr
    simp only [List.mem_cons, List.not_mem_nil, or_false] at hr
    rcases hr with rfl | rfl <;> exact .tag
  obtain ⟨failed, hfailed, -, -, -, -, reaches⟩ := run_choices_reach built normal 0 19 valid rfl
  exact ⟨built, normal, _, _, failed, rfl, hfailed, rfl, reaches direct⟩

/-- Three literals in a chain, of which the first two are a choice of their own. -/
def chain : Rule := (Rule.orElse (.tag "ab") (.tag "x")).orElse (.tag "y")

/-- Before `ac`, the choice of the first two literals in the chain fails with an error that reaches
behind the `a`, and gives the `a` back. The error of the whole chain ends where it begins. -/
theorem chain_falls_short :
    Everywhere WellFormed [] chain ∧ Everywhere Normal [] chain ∧
      ∃ (e : ParseError) (d : Cursor ['a', 'c']) (failed : List (ParseError × Cursor ['a', 'c'])),
        (run 0 20 [] chain).run ⟨0, .empty⟩ = (.failure e, d) ∧
        List.Forall₂ (fun r f => (run 0 19 [] r).run ⟨0, .empty⟩ = (.failure f.1, f.2))
          [Rule.orElse (.tag "ab") (.tag "x"), .tag "y"] failed ∧
        e.location.span.stop = 0 ∧ failed.map (·.1.location.span.stop) = [1, 0] ∧
        ¬ e.ReachesAll failed := by
  refine ⟨by simp [chain, orElse, WellFormed], by simp [chain, orElse, Normal], _, _,
    [(_, _), (_, _)], rfl, .cons rfl (.cons rfl .nil), rfl, rfl, fun reaches => ?_⟩
  have ends : 1 ≤ 0 := reaches.1 _ List.mem_cons_self
  omega

end Rule

end Descent
