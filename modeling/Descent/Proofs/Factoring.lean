import Descent.Proofs.Alternatives
import Descent.Proofs.Limits
import Descent.Proofs.Safety

/-!
# Left factoring

When all alternatives of a choice begin with the same rule, that rule may be put before the choice
between what follows it (`Rule.run_choices_factors`). In the one form it is run again for each
alternative, from where the choice begins; in the other it is run once. A rule that is not an action
of its author's own leaves nothing behind but the position, which the choice puts back, so that
running it again gives the same value and the same cursor.
-/

namespace Descent

namespace Rule

open Descent.Action

variable {text : List Char} {patience limit : Nat} {env : List Rule} {a b : Rule}
  {c d : Cursor text}

/-! ## Two rules in order -/

/-- After a value of the first rule, the outcome is that of the second one, with both values. -/
theorem run_both_of_value {v : Value} (h : (run patience limit env a).run c = (.value v, d)) :
    (run patience (limit + 1) env (.both a b)).run c =
      (((run patience limit env b).run d).1.bind fun w => .value (.pair v w),
        ((run patience limit env b).run d).2) := by
  have hboth : ((run patience limit env a).both (run patience limit env b)).run c =
      ((run patience limit env b).mapValue (v, ·)).run d := bind_of_value h
  rw [run_succ, layer]
  rcases hb : (run patience limit env b).run d with ⟨o, e⟩
  cases o with
  | value w => exact mapValue_of_value (hboth.trans (mapValue_of_value hb))
  | failure error => exact mapValue_of_failure (hboth.trans (mapValue_of_failure hb))
  | fault f => exact mapValue_of_fault (hboth.trans (mapValue_of_fault hb))

/-- The second rule is not run when the first one fails. -/
theorem run_both_of_failure {e : ParseError}
    (h : (run patience limit env a).run c = (.failure e, d)) :
    (run patience (limit + 1) env (.both a b)).run c = (.failure e, d) :=
  mapValue_of_failure (bind_of_failure h)

/-- The second rule is not run when the first one ends with a fault. -/
theorem run_both_of_fault {f : Fault} (h : (run patience limit env a).run c = (.fault f, d)) :
    (run patience (limit + 1) env (.both a b)).run c = (.fault f, d) :=
  mapValue_of_fault (bind_of_fault h)

/-! ## The same rule before each alternative -/

/-- If the first rule matches, the alternatives come to what those behind it come to from there,
with its value before theirs. -/
theorem sweep_both_of_value {v : Value} (ha : (run patience limit env a).run c = (.value v, d))
    (hd : d.blanks = c.blanks) (bs : List Rule)
    (keeps : ∀ b ∈ bs, ((run patience limit env b).run d).2.blanks = d.blanks) {c' d' : Cursor text}
    (hc' : c'.moveTo c.pos = c) (hd' : d'.moveTo d.pos = d) :
    let s := sweep (run patience (limit + 1) env) c.pos c' (bs.map (.both a))
    let t := sweep (run patience limit env) d.pos d' bs
    (t.found = none → s.found = none ∧ s.stop = c) ∧
      ∀ o, t.found = some o →
        s.found = some (o.bind fun w => .value (.pair v w)) ∧ s.stop = t.stop := by
  induction bs generalizing c' d' with
  | nil => exact ⟨fun _ => ⟨rfl, hc'⟩, fun o h => nomatch h⟩
  | cons b bs ih =>
    have hboth := run_both_of_value (b := b) ha
    have hkeeps := keeps b List.mem_cons_self
    rcases hb : (run patience limit env b).run d with ⟨o, e⟩
    rw [hb] at hboth hkeeps
    rw [← hc'] at hboth
    rw [← hd'] at hb
    rw [List.map_cons]
    cases o with
    | failure error =>
      -- nothing is left of the attempt but the position, which is put back in both
      have hback : e.moveTo c.pos = c := Cursor.eq_of_pos_eq rfl (hkeeps.trans hd)
      have hback' : e.moveTo d.pos = d := Cursor.eq_of_pos_eq rfl hkeeps
      rw [sweep_cons_of_failure hboth, sweep_cons_of_failure hb]
      exact ih (fun b hb => keeps b (List.mem_cons_of_mem _ hb)) hback hback'
    | value w =>
      rw [sweep_cons_of_kept hboth (by simp [Outcome.bind]), sweep_cons_of_kept hb (by simp)]
      exact ⟨fun h => (nomatch h), fun o h => by cases h; exact ⟨rfl, rfl⟩⟩
    | fault f =>
      rw [sweep_cons_of_kept hboth (by simp [Outcome.bind]), sweep_cons_of_kept hb (by simp)]
      exact ⟨fun h => (nomatch h), fun o h => by cases h; exact ⟨rfl, rfl⟩⟩

/-- If the first rule fails, so do all alternatives. -/
theorem sweep_both_of_failure {e : ParseError}
    (ha : (run patience limit env a).run c = (.failure e, d)) (hd : d.blanks = c.blanks)
    (bs : List Rule) {c' : Cursor text} (hc' : c'.moveTo c.pos = c) :
    let s := sweep (run patience (limit + 1) env) c.pos c' (bs.map (.both a))
    s.found = none ∧ s.stop = c := by
  induction bs generalizing c' with
  | nil => exact ⟨rfl, hc'⟩
  | cons b bs ih =>
    have hboth : (run patience (limit + 1) env (.both a b)).run (c'.moveTo c.pos) =
        (.failure e, d) := by
      rw [hc', run_both_of_failure ha]
    rw [List.map_cons, sweep_cons_of_failure hboth]
    exact ih (Cursor.eq_of_pos_eq rfl hd)

/-! ## The two forms compared -/

/-- The ends of a choice from a cursor and of its factored form: the same value and cursor; or two
errors, where the choice is back at the cursor; or the same fault and cursor. -/
inductive Factors (faults : Fault → Prop) (c : Cursor text) :
    Outcome Value × Cursor text → Outcome Value × Cursor text → Prop
  | value {v : Value} {d : Cursor text} : Factors faults c (.value v, d) (.value v, d)
  | failed {e e' : ParseError} {d : Cursor text} : Factors faults c (.failure e, c) (.failure e', d)
  | fault {f : Fault} {d : Cursor text} (hf : faults f) :
      Factors faults c (.fault f, d) (.fault f, d)

variable {faults : Fault → Prop}

theorem Factors.tooDeep_iff {x y : Outcome Value × Cursor text} (h : Factors faults c x y) :
    x.1 = .fault .tooDeep ↔ y.1 = .fault .tooDeep := by
  cases h with
  | value => simp
  | failed => simp
  | fault => rfl

/-- Without a want of depth there is a value, an error or another fault. -/
theorem Factors.of_ne_tooDeep {x y : Outcome Value × Cursor text} (h : Factors faults c x y)
    (hx : x.1 ≠ .fault .tooDeep) :
    (∃ v d, x = (.value v, d) ∧ y = (.value v, d)) ∨
      (∃ e e' d, x = (.failure e, c) ∧ y = (.failure e', d)) ∨
      ∃ f d, faults f ∧ f ≠ .tooDeep ∧ x = (.fault f, d) ∧ y = (.fault f, d) := by
  cases h with
  | value => exact .inl ⟨_, _, rfl, rfl⟩
  | failed => exact .inr (.inl ⟨_, _, _, rfl, rfl⟩)
  | fault hf => exact .inr (.inr ⟨_, _, hf, fun h => hx (congrArg _ h), rfl, rfl⟩)

variable {bs : List Rule}

/-- A choice that has not run out of depth has run the first rule of its first alternative. -/
theorem exists_of_choices_ne_tooDeep {n : Nat} {name : Option String} (hbs : bs ≠ []) (hc : c.Valid)
    (h : ((run patience n env (.choices name (bs.map (.both a)))).run c).1 ≠ .fault .tooDeep) :
    ∃ limit, n = limit + 2 ∧ ((run patience limit env a).run c).1 ≠ .fault .tooDeep := by
  obtain ⟨b, bs, rfl⟩ := List.exists_cons_of_ne_nil hbs
  -- a first alternative that has run out of depth ends the choice
  have first : ∀ {limit : Nat} {d : Cursor text},
      (run patience limit env (.both a b)).run c = (.fault .tooDeep, d) →
      ((run patience (limit + 1) env (.choices name ((b :: bs).map (.both a)))).run c).1 =
        .fault .tooDeep := by
    intro limit d hdeep
    have hfound : (sweep (run patience limit env) c.pos c ((b :: bs).map (.both a))).found =
        some (.fault .tooDeep) := by
      rw [List.map_cons, sweep_cons_of_kept hdeep (by simp)]
    rw [run_choices_of_some name hc hfound]
  match n with
  | 0 => exact absurd rfl h
  | 1 => exact absurd (first rfl) h
  | limit + 2 =>
    refine ⟨limit, rfl, fun deep => h ?_⟩
    exact first (run_both_of_fault (Prod.ext deep rfl))

/-- The two forms end alike where the first rule does not run out of depth. -/
theorem factors_of_ne_tooDeep (name name' : Option String) (hbs : bs ≠ [])
    (proper : ∀ r ∈ a :: bs, Throughout (fun env r => Proper env r ∧ Allowed faults env r) env r)
    (hc : c.Valid) (h : ((run patience limit env a).run c).1 ≠ .fault .tooDeep) :
    Factors faults c ((run patience (limit + 2) env (.choices name (bs.map (.both a)))).run c)
      ((run patience (limit + 2) env (.both a (.choices name' bs))).run c) := by
  have more := run_eq_of_le (Nat.le_succ limit) h
  have hend := run_safe_of_allowed (proper a List.mem_cons_self) text patience limit c hc
  have safe : ∀ b ∈ bs, SafeOn faults text (fun _ _ => True) (run patience limit env b) :=
    fun b hb => run_safe_of_allowed (proper b (List.mem_cons_of_mem _ hb)) text patience limit
  have hsafe : SafeOn faults text (fun _ _ => True)
      (run patience (limit + 1) env (.choices name' bs)) := by
    rw [run_succ, layer]
    refine choices_safeOn _ fun entry hentry => ?_
    obtain ⟨b, hb, rfl⟩ := List.mem_map.1 hentry
    exact safe b hb
  rcases ha : (run patience limit env a).run c with ⟨o, d⟩
  rw [ha] at h more hend
  cases o with
  | value v =>
    have hd : d.Valid := hend.valid hc
    -- the choice runs the first rule again before each alternative, and gets the same from it
    obtain ⟨hnone, hsome⟩ := sweep_both_of_value ha hend.blanks_eq bs
      (fun b hb => (safe b hb d hd).blanks_eq) c.moveTo_pos d.moveTo_pos
    rw [run_both_of_value more]
    cases hfound : (sweep (run patience limit env) d.pos d bs).found with
    | none =>
      obtain ⟨e, hrun, -⟩ := run_choices_of_none name hc (hnone hfound).1
      obtain ⟨e', hrun', -⟩ := run_choices_of_none name' hd hfound
      rw [hrun, hrun', (hnone hfound).2]
      exact .failed
    | some o =>
      obtain ⟨hfound', hstop⟩ := hsome o hfound
      rw [run_choices_of_some name hc hfound', run_choices_of_some name' hd hfound, hstop]
      cases o with
      | value w => exact .value
      | failure e => exact absurd rfl (found_ne_failure hfound e)
      | fault f =>
        have hend' := hsafe d hd
        rw [run_choices_of_some name' hd hfound] at hend'
        exact .fault hend'.outcome
  | failure e =>
    obtain ⟨hnone, hstop⟩ := sweep_both_of_failure ha hend.blanks_eq bs c.moveTo_pos
    obtain ⟨e, hrun, -⟩ := run_choices_of_none name hc hnone
    rw [run_both_of_failure more, hrun, hstop]
    exact .failed
  | fault f =>
    cases bs with
    | nil => exact absurd rfl hbs
    | cons b bs =>
      -- the first alternative ends with the fault, and no other one is tried
      have hboth : (run patience (limit + 1) env (.both a b)).run (c.moveTo c.pos) =
          (.fault f, d) := by
        rw [c.moveTo_pos, run_both_of_fault ha]
      have hsweep : sweep (run patience (limit + 1) env) c.pos c ((b :: bs).map (.both a)) =
          ⟨[⟨.both a b, c.moveTo c.pos, (Outcome.fault f : Outcome Value).ending, d⟩],
            some (.fault f), d⟩ := by
        rw [List.map_cons, sweep_cons_of_kept hboth (by simp)]
      rw [run_both_of_fault more, run_choices_of_some name hc (by rw [hsweep]), hsweep]
      exact .fault hend.outcome

/-- The faults that limits cause in runs of rules among definitions: the depth has run out, or, if
there is a repetition with a bound that is too long for a message, this is so. -/
def LimitFaults (env rs : List Rule) (f : Fault) : Prop :=
  f = .tooDeep ∨ f = .longInteger digitLimit ∧ ¬ ∀ r ∈ rs, Throughout ShortBounds env r

theorem throughout_allowed {rs : List Rule} (proper : ∀ r ∈ rs, Throughout Proper env r) :
    ∀ r ∈ rs, Throughout (fun env' s => Proper env' s ∧ Allowed (LimitFaults env rs) env' s)
      env r := by
  intro r hr
  by_cases short : ∀ r ∈ rs, Throughout ShortBounds env r
  · exact ((proper r hr).and (short r hr)).mono fun _ _ hs =>
      ⟨hs.1, .inl rfl, fun hlong => absurd hs.2 hlong⟩
  · exact (proper r hr).mono fun _ _ hs => ⟨hs, .inl rfl, fun _ => .inr ⟨rfl, short⟩⟩

/-- Left factoring preserves meaning. A choice between alternatives that all begin with the same
rule gives a value just when that rule does, followed by the choice between what comes behind it,
and then with the same value and the same cursor. They fail on the same texts, the choice with the
cursor back where it began. No rule here is an action of its author's own, and functions and
handlers return normally. Where a bound of a repetition is too long for a message, both may end with
that fault instead. The factored form runs out of depth only if the choice does, and the choice only
if the factored form does under a limit that is lower by one. -/
theorem run_choices_factors (name name' : Option String) (hbs : bs ≠ [])
    (proper : ∀ r ∈ a :: bs, Throughout Proper env r) (hc : c.Valid) (patience : Nat) :
    (∀ n m, ((run patience n env (.choices name (bs.map (.both a)))).run c).1 ≠ .fault .tooDeep →
      ((run patience m env (.both a (.choices name' bs))).run c).1 ≠ .fault .tooDeep →
      (∃ v d, (run patience n env (.choices name (bs.map (.both a)))).run c = (.value v, d) ∧
        (run patience m env (.both a (.choices name' bs))).run c = (.value v, d)) ∨
      (∃ e e' d, (run patience n env (.choices name (bs.map (.both a)))).run c = (.failure e, c) ∧
        (run patience m env (.both a (.choices name' bs))).run c = (.failure e', d)) ∨
      ∃ d, (run patience n env (.choices name (bs.map (.both a)))).run c =
          (.fault (.longInteger digitLimit), d) ∧
        (run patience m env (.both a (.choices name' bs))).run c =
          (.fault (.longInteger digitLimit), d) ∧
        ¬ ∀ r ∈ a :: bs, Throughout ShortBounds env r) ∧
    (∀ n, ((run patience n env (.choices name (bs.map (.both a)))).run c).1 ≠ .fault .tooDeep →
      ((run patience n env (.both a (.choices name' bs))).run c).1 ≠ .fault .tooDeep) ∧
    (∀ n, ((run patience n env (.both a (.choices name' bs))).run c).1 ≠ .fault .tooDeep →
      ((run patience (n + 1) env (.choices name (bs.map (.both a)))).run c).1 ≠
        .fault .tooDeep) := by
  have hallowed := throughout_allowed proper
  refine ⟨fun n m hn hm => ?_, fun n hn => ?_, fun n hn => ?_⟩
  · obtain ⟨limit, rfl, ha⟩ := exists_of_choices_ne_tooDeep hbs hc hn
    -- both runs are the same under a limit above those of both
    rw [← run_eq_of_le (Nat.le_add_right limit m) ha] at ha
    have hfactors := factors_of_ne_tooDeep name name' hbs hallowed hc ha
    rw [run_eq_of_le (by omega) hn, run_eq_of_le (by omega) hm] at hfactors
    rcases hfactors.of_ne_tooDeep hn with hvalue | hfailed | ⟨f, d, hf, hne, hx, hy⟩
    · exact .inl hvalue
    · exact .inr (.inl hfailed)
    · obtain ⟨rfl, hlong⟩ := Or.resolve_left hf hne
      exact .inr (.inr ⟨d, hx, hy, hlong⟩)
  · obtain ⟨limit, rfl, ha⟩ := exists_of_choices_ne_tooDeep hbs hc hn
    have hfactors := factors_of_ne_tooDeep name name' hbs hallowed hc ha
    exact fun deep => hn (hfactors.tooDeep_iff.2 deep)
  · obtain ⟨limit, rfl⟩ := exists_succ_of_ne_tooDeep hn
    have ha : ((run patience limit env a).run c).1 ≠ .fault .tooDeep := fun deep => hn <| by
      rw [run_both_of_fault (Prod.ext deep rfl)]
    have hfactors := factors_of_ne_tooDeep name name' hbs hallowed hc ha
    rw [run_eq_of_le (Nat.le_succ _) hn] at hfactors
    exact fun deep => hn (hfactors.tooDeep_iff.1 deep)

/-- Any number of the letter `a`. -/
def letters : Rule := .many 0 none (.tag "a")

/-- The letters and two endings are built as they should be. -/
theorem proper_letters : ∀ r ∈ letters :: [.tag "b", .tag "c"], Throughout Proper [] r := by
  have tag : ∀ {literal : String}, literal.toList ≠ [] → Everywhere Proper [] (.tag literal) :=
    fun hne => everywhere_tag.2 ⟨hne, trivial⟩
  have many : Everywhere Proper [] letters :=
    everywhere_many.2 ⟨⟨⟨by decide, by simp⟩, trivial⟩, tag (by simp)⟩
  simp only [List.forall_mem_cons]
  exact ⟨.of_everywhere many, .of_everywhere (tag (by simp)), .of_everywhere (tag (by simp)),
    by simp⟩

/-- Letters are read again for each of two endings, or once before the choice between them. In the
text `aac` the second ending matches; in the text `aad` none does. -/
theorem letters_factor :
    (∃ v d,
      (run 0 20 [] (.choices none [.both letters (.tag "b"), .both letters (.tag "c")])).run
        (⟨0, .empty⟩ : Cursor ['a', 'a', 'c']) = (.value v, d) ∧
      (run 0 20 [] (.both letters (.choices none [.tag "b", .tag "c"]))).run
        (⟨0, .empty⟩ : Cursor ['a', 'a', 'c']) = (.value v, d) ∧ d.pos = 3) ∧
    ∃ e e' d,
      (run 0 20 [] (.choices none [.both letters (.tag "b"), .both letters (.tag "c")])).run
        (⟨0, .empty⟩ : Cursor ['a', 'a', 'd']) = (.failure e, ⟨0, .empty⟩) ∧
      (run 0 20 [] (.both letters (.choices none [.tag "b", .tag "c"]))).run
        (⟨0, .empty⟩ : Cursor ['a', 'a', 'd']) = (.failure e', d) := by
  constructor
  · have valid : (⟨0, .empty⟩ : Cursor ['a', 'a', 'c']).Valid := by decide
    have hvalue : ∃ v, (run 0 20 [] (.choices none
        ([.tag "b", .tag "c"].map (.both letters)))).run
        (⟨0, .empty⟩ : Cursor ['a', 'a', 'c']) = (.value v, ⟨3, .empty⟩) := ⟨_, rfl⟩
    obtain ⟨v, hvalue⟩ := hvalue
    obtain ⟨hall, hfactored, -⟩ := run_choices_factors none none (by simp) proper_letters valid 0
    have hn := hfactored 20 (by rw [hvalue]; simp)
    rcases hall 20 20 (by rw [hvalue]; simp) hn with ⟨w, d, h, h'⟩ | ⟨e, e', d, h, -⟩ | ⟨d, h, -⟩
    · cases hvalue.symm.trans h
      exact ⟨v, _, h, h', rfl⟩
    · cases hvalue.symm.trans h
    · cases hvalue.symm.trans h
  · have valid : (⟨0, .empty⟩ : Cursor ['a', 'a', 'd']).Valid := by decide
    have herror : ∃ e d, (run 0 20 [] (.choices none
        ([.tag "b", .tag "c"].map (.both letters)))).run
        (⟨0, .empty⟩ : Cursor ['a', 'a', 'd']) = (.failure e, d) := ⟨_, _, rfl⟩
    obtain ⟨e, d, herror⟩ := herror
    obtain ⟨hall, hfactored, -⟩ := run_choices_factors none none (by simp) proper_letters valid 0
    have hn := hfactored 20 (by rw [herror]; simp)
    rcases hall 20 20 (by rw [herror]; simp) hn with ⟨v, d', h, -⟩ | ⟨e, e', d', h, h'⟩ | ⟨d', h, -⟩
    · cases herror.symm.trans h
    · exact ⟨e, e', d', h, h'⟩
    · cases herror.symm.trans h

end Rule

end Descent
