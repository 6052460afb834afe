import Descent.Proofs.Derivation

/-!
# Running is deriving

The derivations of a rule are what running it comes to. A run without a fault ends with a value at
exactly the position up to which the rule matches, and with a parse error exactly if the rule fails:
it has a derivation, by induction on the depth, and there is no other one. Unless a bound is too
long for a message, there is a derivation exactly if some depth is enough: derivations are runs, by
induction on the derivation, with enough depth for all its parts.
-/

namespace Descent

namespace Rule

open Descent.Action

variable {text : List Char} {blanks : Blanks} {patience : Nat} {env : List Rule} {p : Nat}
  {x : Option Nat}

/-! ## Runs have derivations -/

/-- An action is safe, and wherever it ends the rule is derived to end. -/
structure Explained (text : List Char) (blanks : Blanks) (env : List Rule) (r : Rule)
    (a : Action Value) : Prop where
  safe : SafeOn (fun _ => True) text (fun _ _ => True) a
  derives : ∀ {p : Nat} {x : Option Nat}, p ≤ text.length →
    Reached blanks (a.run (.place text blanks p)) x → Derives text blanks.skips env r p x

/-- A sequence ends where its rules match in order. -/
theorem inOrder_of_reached {f : Rule → Action Value} (rs : List Rule)
    (h : ∀ r ∈ rs, Explained text blanks env r (f r)) (values : List Value) (hp : p ≤ text.length)
    (hr : Reached blanks
      ((seqFrom values (rs.map fun r => (r.isIgnored, f r))).run (.place text blanks p)) x) :
    InOrder text blanks.skips env rs p x := by
  induction rs generalizing values p with
  | nil =>
    rw [reached_place_iff.1 hr]
    exact .nil
  | cons r rs ih =>
    have hfirst := h r List.mem_cons_self
    rw [List.map_cons] at hr
    rcases hfirst.safe.run_place blanks hp with ⟨f, d, hd⟩ | ⟨e, q, he⟩ | ⟨v, q, hv, _, hq⟩
    · rw [seqFrom_cons_of_fault hd] at hr
      exact absurd hr not_reached_fault
    · rw [seqFrom_cons_of_failure he] at hr
      rw [(reached_failure_iff.1 hr).2]
      exact .stop (hfirst.derives hp (by rw [he]; exact .failure))
    · rw [seqFrom_cons_of_value hv] at hr
      refine .next (hfirst.derives hp (by rw [hv]; exact .value)) ?_
      exact ih (fun s hs => h s (List.mem_cons_of_mem r hs)) _ hq hr

/-- A choice ends where its first alternative does that matches. -/
theorem firstOf_of_reached {f : Rule → Action Value} (rs : List Rule)
    (h : ∀ r ∈ rs, Explained text blanks env r (f r)) (labels : List String) (furthest : Int)
    (notes : List String) {c : Cursor text} (hb : c.blanks = blanks) (hp : p ≤ text.length)
    (hr : Reached blanks
      ((choicesFrom labels p furthest notes (rs.map fun r => (r.label, f r))).run c) x) :
    FirstOf text blanks.skips env rs p x := by
  have hback : c.moveTo p = .place text blanks p := Cursor.eq_of_pos_eq rfl hb
  induction rs generalizing furthest notes c with
  | nil =>
    simp only [List.map_nil, choicesFrom] at hr
    split at hr
    · rw [(reached_failure_iff.1 hr).2]
      exact .nil
    · exact absurd hr not_reached_fault
  | cons r rs ih =>
    have hfirst := h r List.mem_cons_self
    rw [List.map_cons] at hr
    rcases hfirst.safe.run_place blanks hp with ⟨f, d, hd⟩ | ⟨e, q, he⟩ | ⟨v, q, hv, _⟩
    · rw [choicesFrom_cons_of_fault (hback ▸ hd)] at hr
      exact absurd hr not_reached_fault
    · rw [choicesFrom_cons_of_failure (hback ▸ he)] at hr
      refine .next (hfirst.derives hp (by rw [he]; exact .failure)) ?_
      exact ih (fun s hs => h s (List.mem_cons_of_mem r hs)) _ _ rfl hr rfl
    · rw [choicesFrom_cons_of_value (hback ▸ hv)] at hr
      rw [reached_place_iff.1 hr]
      exact .found (hfirst.derives hp (by rw [hv]; exact .value))

/-- A repetition has as many values as the rule matches, and ends where the last match does. -/
theorem repeats_of_manyFrom {r : Rule} {a : Action Value} (h : Explained text blanks env r a)
    (reps : Nat) (values : List Value) (hp : p ≤ text.length) {vs : List Value} {d : Cursor text}
    (hr : (manyFrom a reps values).run (.place text blanks p) = (.value vs, d)) :
    ∃ n q, vs.length = values.length + n ∧ d = .place text blanks q ∧
      Repeats text blanks.skips env r p n q := by
  have hc := Cursor.valid_place blanks hp
  induction reps generalizing values p with
  | zero => cases hr
  | succ reps ih =>
    rcases h.safe.run_place blanks hp with ⟨f, d, hd⟩ | ⟨e, q, he⟩ | ⟨v, q, hv, _, hq⟩
    · rw [manyFrom_of_fault hc hd] at hr
      cases hr
    · rw [manyFrom_of_failure hc he] at hr
      cases hr
      exact ⟨0, p, rfl, rfl, .stop (h.derives hp (by rw [he]; exact .failure))⟩
    · have hfound := h.derives hp (by rw [hv]; exact .value)
      by_cases hm : q = p
      · subst hm
        rw [manyFrom_of_still hc hv rfl] at hr
        cases hr
        exact ⟨1, q, List.length_append, rfl, .still hfound⟩
      · -- the attempt has moved on, and what follows begins where it ended
        rw [manyFrom_of_value hc hv fun heq => hm (Int.ofNat_inj.1 heq)] at hr
        obtain ⟨n, e, hlen, hd, hrest⟩ := ih _ hq hr (Cursor.valid_place blanks hq)
        rw [List.length_append, List.length_singleton] at hlen
        exact ⟨n + 1, e, by omega, hd, .next hfound hm hrest⟩

/-- A repetition ends where the last match does, if there are as many as there may be. -/
theorem derives_many_of_reached {r : Rule} {a : Action Value} (h : Explained text blanks env r a)
    {min : Int} {max : Option Int} (hp : p ≤ text.length)
    (hr : Reached blanks ((Action.many patience min max a).run (.place text blanks p)) x) :
    Derives text blanks.skips env (.many min max r) p x := by
  have hc := Cursor.valid_place blanks hp
  rcases hrun : (repeated patience a).run (.place text blanks p) with ⟨o, d⟩
  cases o with
  | value vs =>
    obtain ⟨n, q, hlen, rfl, hrep⟩ := repeats_of_manyFrom h _ [] hp hrun
    rw [List.length_nil, Nat.zero_add] at hlen
    cases hb : withinBounds min max vs.length with
    | true =>
      rw [many_of_within hc hrun hb] at hr
      rw [reached_place_iff.1 hr]
      exact .many hrep (hlen ▸ hb)
    | false =>
      rcases Nat.lt_or_ge digitLimit (Issue.boundDigits min max) with hlong | hshort
      · rw [many_of_outside_of_lt hc hrun hb hlong] at hr
        exact absurd hr not_reached_fault
      · rw [many_of_outside_of_le hc hrun hb hshort] at hr
        rw [eq_none_of_reached_fail hr]
        exact .many_fails hrep (hlen ▸ hb)
  | failure e =>
    exact absurd (congrArg Prod.fst hrun) (manyFrom_ne_failure a _ [] _ e)
  | fault f =>
    rw [many_of_fault hc hrun] at hr
    exact absurd hr not_reached_fault

/-- Wherever a run ends, the rule is derived to end. -/
theorem derives_of_reached (limit : Nat) {env : List Rule} {r : Rule}
    (h : Throughout Proper env r) {p : Nat} {x : Option Nat} (hp : p ≤ text.length)
    (hr : Reached blanks ((run patience limit env r).run (.place text blanks p)) x) :
    Derives text blanks.skips env r p x := by
  induction limit generalizing env r p x with
  | zero => exact absurd hr not_reached_fault
  | succ limit ih =>
    have explained : ∀ {env r}, Throughout Proper env r →
        Explained text blanks env r (run patience limit env r) :=
      fun h => ⟨run_safe h text patience limit, fun hp hr => ih h hp hr⟩
    -- all rules in order are sequences as far as positions go
    have inOrder : ∀ rs : List Rule, (∀ s ∈ rs, Throughout Proper env s) →
        Reached blanks ((run patience (limit + 1) env (.seq rs)).run (.place text blanks p)) x →
        InOrder text blanks.skips env rs p x := by
      intro rs hrs hr
      rw [run_succ, layer, reached_mapValue] at hr
      exact inOrder_of_reached rs (fun s hs => explained (hrs s hs)) [] hp hr
    have hc := Cursor.valid_place blanks hp
    cases r with
    | tag literal => exact (reached_tag_iff hp h.here.wellFormed limit).1 hr
    | regex pattern accepts => exact (reached_regex_iff hp pattern accepts limit).1 hr
    | eof => exact (reached_eof_iff hp limit).1 hr
    | action a => exact h.here.normal.elim
    | map f r =>
      have normal := fun v d => h.here.normal patience limit text _ d v hc
      rw [run_succ, layer, reached_transform normal] at hr
      exact .map (ih h.map hp hr)
    | both r s =>
      exact .both (inOrder [r, s] (by simpa using h.both) ((reached_both_iff limit).1 hr))
    | keepLeft r s =>
      exact .keepLeft
        (inOrder [r, s] (by simpa using h.keepLeft) ((reached_keepLeft_iff limit).1 hr))
    | keepRight r s =>
      exact .keepRight
        (inOrder [r, s] (by simpa using h.keepRight) ((reached_keepRight_iff limit).1 hr))
    | choices name rs =>
      rw [run_succ, layer, choices_of_valid hc] at hr
      refine .choices ?_
      exact firstOf_of_reached rs (fun s hs => explained (h.choices s hs)) _ _ _ rfl hp hr
    | many min max r =>
      rw [run_succ, layer, reached_mapValue] at hr
      exact derives_many_of_reached (explained h.many) hp hr
    | seq rs => exact .seq (inOrder rs h.seq hr)
    | catching handler r =>
      rw [run_succ, layer] at hr
      rcases (explained h.catching).safe.run_place blanks hp with
        ⟨f, d, hd⟩ | ⟨e, q, he⟩ | ⟨v, q, hv, _⟩
      · rw [catching_of_fault hc hd] at hr
        exact absurd hr not_reached_fault
      · -- the handler returns normally, and the cursor is back where the rule began
        obtain ⟨w, hw⟩ := h.here.normal patience limit text _ _ e hc he
        rw [catching_of_failure hc he, hw] at hr
        rw [reached_place_iff.1 hr]
        exact .catching_default (ih h.catching hp (by rw [he]; exact .failure))
      · rw [catching_of_value hc hv] at hr
        rw [reached_place_iff.1 hr]
        exact .catching (ih h.catching hp (by rw [hv]; exact .value))
    | named name r => exact .named (ih h.named hp hr)
    | ignored r => exact .ignored (ih h.ignored hp hr)
    | fix level d => exact .fix (ih h.fix hp hr)
    | ref level name =>
      obtain ⟨d, hd, hdef⟩ := h.definition h.here.wellFormed
      rw [run_succ, layer, hd] at hr
      exact .ref hd (ih hdef hp hr)

/-! ## Derivations are runs -/

mutual

/-- Where a rule is derived to end, it ends if it is run deep enough. -/
theorem exists_reached : ∀ {env : List Rule} {r : Rule} {p : Nat} {x : Option Nat},
    Derives text blanks.skips env r p x → Throughout Brief env r → p ≤ text.length →
      ∃ limit, Reached blanks ((run patience limit env r).run (.place text blanks p)) x
  | _, _, _, _, .tag agrees, h, hp =>
    ⟨1, (reached_tag_iff hp h.here.wellFormed 0).2 (.tag agrees)⟩
  | _, _, _, _, .tag_fails differs, h, hp =>
    ⟨1, (reached_tag_iff hp h.here.wellFormed 0).2 (.tag_fails differs)⟩
  | _, _, _, _, .regex token, _, hp => ⟨1, (reached_regex_iff hp _ _ 0).2 (.regex token)⟩
  | _, _, _, _, .regex_fails empty, _, hp =>
    ⟨1, (reached_regex_iff hp _ _ 0).2 (.regex_fails empty)⟩
  | _, _, _, _, .eof ended, _, hp => ⟨1, (reached_eof_iff hp 0).2 (.eof ended)⟩
  | _, _, _, _, .eof_fails more, _, hp => ⟨1, (reached_eof_iff hp 0).2 (.eof_fails more)⟩
  | _, _, _, _, .map inner, h, hp => by
    obtain ⟨n, hn⟩ := exists_reached inner h.map hp
    refine ⟨n + 1, (reached_transform fun v d hv => ?_).2 hn⟩
    exact h.here.normal patience n text _ d v (Cursor.valid_place blanks hp) hv
  | _, _, _, _, .both parts, h, hp => by
    obtain ⟨n, hn⟩ := exists_reached_seq parts (by simpa using h.both) hp
    exact ⟨n + 1, (reached_both_iff n).2 (reached_mapValue.2 (hn []))⟩
  | _, _, _, _, .keepLeft parts, h, hp => by
    obtain ⟨n, hn⟩ := exists_reached_seq parts (by simpa using h.keepLeft) hp
    exact ⟨n + 1, (reached_keepLeft_iff n).2 (reached_mapValue.2 (hn []))⟩
  | _, _, _, _, .keepRight parts, h, hp => by
    obtain ⟨n, hn⟩ := exists_reached_seq parts (by simpa using h.keepRight) hp
    exact ⟨n + 1, (reached_keepRight_iff n).2 (reached_mapValue.2 (hn []))⟩
  | _, _, _, _, .seq parts, h, hp => by
    obtain ⟨n, hn⟩ := exists_reached_seq parts h.seq hp
    exact ⟨n + 1, reached_mapValue.2 (hn [])⟩
  | _, _, _, _, .choices first, h, hp => by
    obtain ⟨n, hn⟩ := exists_reached_choices first h.choices hp
    refine ⟨n + 1, ?_⟩
    rw [run_succ, layer, choices_of_valid (Cursor.valid_place blanks hp)]
    exact hn _ _ _ _ rfl (Int.le_refl _)
  | _, _, _, _, .many attempts within, h, hp => by
    have hc := Cursor.valid_place blanks hp
    obtain ⟨n, hn⟩ := exists_manyFrom attempts h.many hp
    obtain ⟨-, vs, hlen, hrun⟩ := hn _ [] (lt_repetitionLimit patience hc)
    rw [List.length_nil, Nat.zero_add] at hlen
    refine ⟨n + 1, reached_mapValue.2 ?_⟩
    rw [many_of_within hc hrun (hlen ▸ within)]
    exact .value
  | _, _, p, _, @Derives.many_fails _ _ _ _ _ _ _ _ q attempts outside, h, hp => by
    have hc := Cursor.valid_place blanks hp
    obtain ⟨n, hn⟩ := exists_manyFrom attempts h.many hp
    obtain ⟨hle, vs, hlen, hrun⟩ := hn _ [] (lt_repetitionLimit patience hc)
    rw [List.length_nil, Nat.zero_add] at hlen
    refine ⟨n + 1, reached_mapValue.2 ?_⟩
    have hpos : (Cursor.place text blanks p).pos ≤ (Cursor.place text blanks q).pos :=
      Int.ofNat_le.2 hle
    have hb : (Cursor.place text blanks q).blanks = (Cursor.place text blanks p).blanks := rfl
    rw [many_of_outside_of_le hc hrun (hlen ▸ outside) h.here.shortBounds,
      bind_of_value (locateFrom_of_pos_le hc hb hpos)]
    exact .failure
  | _, _, _, _, .catching inner, h, hp => by
    obtain ⟨n, hn⟩ := exists_reached inner h.catching hp
    obtain ⟨v, hv⟩ := hn.exists_value
    refine ⟨n + 1, ?_⟩
    rw [run_succ, layer, catching_of_value (Cursor.valid_place blanks hp) hv]
    exact .value
  | _, _, p, _, .catching_default inner, h, hp => by
    have hc := Cursor.valid_place blanks hp
    obtain ⟨n, hn⟩ := exists_reached inner h.catching hp
    obtain ⟨e, q, he⟩ := hn.exists_failure
    obtain ⟨w, hw⟩ := h.here.normal patience n text _ _ e hc he
    refine ⟨n + 1, ?_⟩
    rw [run_succ, layer, catching_of_failure hc he, hw]
    exact .value
  | _, _, _, _, .named inner, h, hp => by
    obtain ⟨n, hn⟩ := exists_reached inner h.named hp
    exact ⟨n + 1, hn⟩
  | _, _, _, _, .ignored inner, h, hp => by
    obtain ⟨n, hn⟩ := exists_reached inner h.ignored hp
    exact ⟨n + 1, hn⟩
  | _, _, _, _, .fix definition, h, hp => by
    obtain ⟨n, hn⟩ := exists_reached definition h.fix hp
    exact ⟨n + 1, hn⟩
  | _, _, _, _, .ref found definition, h, hp => by
    obtain ⟨d, hd, hdef⟩ := h.definition h.here.wellFormed
    cases hd.symm.trans found
    obtain ⟨n, hn⟩ := exists_reached definition hdef hp
    refine ⟨n + 1, ?_⟩
    rw [run_succ, layer, found]
    exact hn

/-- Where rules are derived to end in order, the sequence of them ends. -/
theorem exists_reached_seq : ∀ {env rs : List Rule} {p : Nat} {x : Option Nat},
    InOrder text blanks.skips env rs p x → (∀ r ∈ rs, Throughout Brief env r) →
      p ≤ text.length → ∃ limit, ∀ values, Reached blanks
        ((seqFrom values (rs.map fun r => (r.isIgnored, run patience limit env r))).run
          (.place text blanks p)) x
  | _, _, _, _, .nil, _, _ => ⟨0, fun _ => .value⟩
  | _, _, _, _, .stop first, h, hp => by
    obtain ⟨n, hn⟩ := exists_reached first (h _ List.mem_cons_self) hp
    obtain ⟨e, q, he⟩ := hn.exists_failure
    refine ⟨n, fun values => ?_⟩
    rw [List.map_cons, seqFrom_cons_of_failure he]
    exact .failure
  | env, r :: rs, _, _, .next first rest, h, hp => by
    have hr := h r List.mem_cons_self
    obtain ⟨n, hn⟩ := exists_reached first hr hp
    have hq := ((run_safe_of_brief hr text patience n).le_of_reached hp hn).2
    obtain ⟨m, hm⟩ := exists_reached_seq rest (fun s hs => h s (List.mem_cons_of_mem r hs)) hq
    -- the larger depth is enough for the first rule and for those behind it
    obtain ⟨v, hv⟩ := ((run_below (Nat.le_max_left n m) env r).reached hn).exists_value
    refine ⟨max n m, fun values => ?_⟩
    rw [List.map_cons, seqFrom_cons_of_value hv]
    exact (Below.seqFrom isIgnored rs
      (fun s _ => run_below (Nat.le_max_right n m) env s) _).reached (hm _)

/-- Where alternatives are derived to end, the choice among them ends. -/
theorem exists_reached_choices : ∀ {env rs : List Rule} {p : Nat} {x : Option Nat},
    FirstOf text blanks.skips env rs p x → (∀ r ∈ rs, Throughout Brief env r) →
      p ≤ text.length → ∃ limit, ∀ labels (furthest : Int) notes (c : Cursor text),
        c.blanks = blanks → p ≤ furthest → Reached blanks
          ((choicesFrom labels p furthest notes
            (rs.map fun r => (r.label, run patience limit env r))).run c) x
  | _, _, p, _, .nil, _, hp => by
    refine ⟨0, fun labels furthest notes c hb hle => ?_⟩
    have hloc := Cursor.locate_of_pos_le (Cursor.valid_place blanks hp) hb hle
    simp only [List.map_nil, choicesFrom]
    rw [show c.locate p furthest = _ from hloc]
    exact reached_failure_iff.2 ⟨hb, rfl⟩
  | _, _, p, _, .found first, h, hp => by
    obtain ⟨n, hn⟩ := exists_reached first (h _ List.mem_cons_self) hp
    obtain ⟨v, hv⟩ := hn.exists_value
    refine ⟨n, fun labels furthest notes c hb _ => ?_⟩
    have hback : c.moveTo p = .place text blanks p := Cursor.eq_of_pos_eq rfl hb
    rw [List.map_cons, choicesFrom_cons_of_value (hback ▸ hv)]
    exact .value
  | env, r :: rs, p, _, .next first rest, h, hp => by
    obtain ⟨n, hn⟩ := exists_reached first (h r List.mem_cons_self) hp
    obtain ⟨m, hm⟩ := exists_reached_choices rest (fun s hs => h s (List.mem_cons_of_mem r hs)) hp
    obtain ⟨e, q, he⟩ := ((run_below (Nat.le_max_left n m) env r).reached hn).exists_failure
    refine ⟨max n m, fun labels furthest notes c hb hle => ?_⟩
    have hback : c.moveTo p = .place text blanks p := Cursor.eq_of_pos_eq rfl hb
    rw [List.map_cons, choicesFrom_cons_of_failure (hback ▸ he)]
    exact (Below.choicesFrom label rs (fun s _ => run_below (Nat.le_max_right n m) env s)
      _ _ _ _).reached (hm _ _ _ _ rfl (Int.le_trans hle (Int.le_max_left _ _)))

/-- Where a rule is derived to end after so many matches, repeating it ends with so many values. -/
theorem exists_manyFrom : ∀ {env : List Rule} {r : Rule} {p n q : Nat},
    Repeats text blanks.skips env r p n q → Throughout Brief env r → p ≤ text.length →
      ∃ limit, ∀ (reps : Nat) values, (text.length : Int) - p < reps → p ≤ q ∧ ∃ vs : List Value,
        vs.length = values.length + n ∧
        (manyFrom (run patience limit env r) reps values).run (.place text blanks p) =
          (.value vs, .place text blanks q)
  | _, _, _, _, _, .stop last, h, hp => by
    obtain ⟨n, hn⟩ := exists_reached last h hp
    obtain ⟨e, q, he⟩ := hn.exists_failure
    refine ⟨n, fun reps values hreps => ⟨Nat.le_refl _, values, rfl, ?_⟩⟩
    obtain ⟨k, rfl⟩ : ∃ k, reps = k + 1 := ⟨reps - 1, by omega⟩
    rw [manyFrom_of_failure (Cursor.valid_place blanks hp) he]
    rfl
  | _, _, _, _, _, .still last, h, hp => by
    obtain ⟨n, hn⟩ := exists_reached last h hp
    obtain ⟨v, hv⟩ := hn.exists_value
    refine ⟨n, fun reps values hreps => ⟨Nat.le_refl _, values ++ [v], List.length_append, ?_⟩⟩
    obtain ⟨k, rfl⟩ : ∃ k, reps = k + 1 := ⟨reps - 1, by omega⟩
    exact manyFrom_of_still (Cursor.valid_place blanks hp) hv rfl
  | env, r, p, _, _, @Repeats.next _ _ _ _ _ q _ _ attempt moved rest, h, hp => by
    obtain ⟨n, hn⟩ := exists_reached attempt h hp
    have hq := (run_safe_of_brief h text patience n).le_of_reached hp hn
    obtain ⟨m, hm⟩ := exists_manyFrom rest h hq.2
    obtain ⟨v, hv⟩ := ((run_below (Nat.le_max_left n m) env r).reached hn).exists_value
    have hbelow (k : Nat) (values : List Value) :
        Below .tooDeep (manyFrom (run patience m env r) k values)
          (manyFrom (run patience (max n m) env r) k values) :=
      (run_below (Nat.le_max_right n m) env r).manyFrom (.inl rfl) values
    refine ⟨max n m, fun reps values hreps => ?_⟩
    obtain ⟨k, rfl⟩ : ∃ k, reps = k + 1 := ⟨reps - 1, by omega⟩
    -- the attempt has moved on, so one repetition less is enough for what is left
    obtain ⟨hle, vs, hlen, hrun⟩ := hm k (values ++ [v]) (by omega)
    rw [List.length_append, List.length_singleton] at hlen
    refine ⟨Nat.le_trans hq.1 hle, vs, by omega, ?_⟩
    rw [manyFrom_of_value (Cursor.valid_place blanks hp) hv fun heq => moved (Int.ofNat_inj.1 heq),
      (hbelow k _ (.place text blanks q)).resolve_left (by rw [hrun]; simp), hrun]

end

/-! ## Running is deriving -/

/-- A proper rule that is run without a fault has ended somewhere. -/
theorem exists_reached_of_ne_fault {r : Rule} (proper : Throughout Proper env r) {limit : Nat}
    (hp : p ≤ text.length)
    (hf : ∀ f, ((run patience limit env r).run (.place text blanks p)).1 ≠ .fault f) :
    ∃ x, Reached blanks ((run patience limit env r).run (.place text blanks p)) x := by
  rcases (run_safe proper text patience limit).run_place blanks hp with
    ⟨f, d, hd⟩ | ⟨e, q, he⟩ | ⟨v, q, hv, _⟩
  · exact absurd (congrArg Prod.fst hd) (hf f)
  · exact ⟨none, by rw [he]; exact .failure⟩
  · exact ⟨some q, by rw [hv]; exact .value⟩

/-- A run without a fault has ended where the rule is derived to end. -/
theorem reached_iff_derives {r : Rule} (proper : Throughout Proper env r) {limit : Nat}
    (hp : p ≤ text.length)
    (hf : ∀ f, ((run patience limit env r).run (.place text blanks p)).1 ≠ .fault f) :
    Reached blanks ((run patience limit env r).run (.place text blanks p)) x ↔
      Derives text blanks.skips env r p x := by
  refine ⟨derives_of_reached limit proper hp, fun hx => ?_⟩
  -- the run has ended somewhere, and the rule is derived to end nowhere else
  obtain ⟨y, hy⟩ := exists_reached_of_ne_fault proper hp hf
  rwa [hx.unique (derives_of_reached limit proper hp hy)]

/-- Parentheses around nothing or around such again. -/
def nesting : Rule :=
  .fix 0 (.keepRight (.tag "(") (.keepLeft (.optional .null (.ref 0 none)) (.tag ")")))

end Rule

end Descent
