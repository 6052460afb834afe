import Descent.Proofs.Everywhere
import Descent.Proofs.Primitive

/-!
# Safety

From a valid cursor, a well-formed rule whose functions return normally ends with a value or a parse
error, unless it runs out of depth or the bounds of a repetition are too long for a message. It
keeps the blank characters, never moves the cursor back or past the end, and an error lies within
the text from where the rule began. What values and faults are to be like is left open: any property
of values that the rules' own ways of making them keep holds of all values that a run gives.

Each action is safe when the actions it is made of are; from this, safety of all runs follows by
induction on their depth.
-/

namespace Descent

/-! ## Locations and errors within a text -/

/-- A location lies within a text from a position on, and its snapshot stands at its start. -/
structure Location.Within (l : Location) (text : List Char) (p : Int) : Prop where
  text_eq : l.text = text
  le_start : p ≤ l.span.start
  start_le_stop : l.span.start ≤ l.span.stop
  stop_le : l.span.stop ≤ text.length
  snapshot_pos : l.snapshot.pos = l.span.start

/-- An error lies within a text from a position on, and underlines its location. -/
structure ParseError.Within (e : ParseError) (text : List Char) (p : Int) : Prop where
  location : e.location.Within text p
  problem_eq : e.problem = e.location.span

variable {α β : Type} {text : List Char}

theorem Location.Within.mono {l : Location} {p q : Int} (h : l.Within text q) (hpq : p ≤ q) :
    l.Within text p :=
  { h with le_start := Int.le_trans hpq h.le_start }

theorem ParseError.Within.mono {e : ParseError} {p q : Int} (h : e.Within text q) (hpq : p ≤ q) :
    e.Within text p :=
  ⟨h.location.mono hpq, h.problem_eq⟩

/-- The location of the next characters lies within the text. -/
theorem Cursor.stretch_within {c : Cursor text} (h : c.Valid) {n : Nat} (hn : n ≤ c.rest.length) :
    (c.stretch n).Within text c.pos := by
  have hp : ((c.pos.toNat : Nat) : Int) = c.pos := Int.toNat_of_nonneg h.1
  have hle := h.2
  rw [c.length_rest] at hn
  refine ⟨rfl, Int.le_of_eq hp.symm, Nat.le_add_right _ _, ?_, hp.symm⟩
  show c.pos.toNat + n ≤ text.length
  omega

/-- The location up to a position within the text lies within the text. -/
theorem Cursor.stretch_within_of_le {c : Cursor text} (h : c.Valid) {q : Int}
    (hq : q ≤ text.length) : (c.stretch (q - c.pos).toNat).Within text c.pos := by
  refine stretch_within h ?_
  have := h.1
  have := h.2
  rw [c.length_rest]
  omega

/-! ## Safe ends -/

/-- A value has a property that may depend on the position where the run began, an error lies within
the text from there on, and a fault is one of those that are allowed. -/
def Outcome.Meets (faults : Fault → Prop) (good : Int → α → Prop) (text : List Char) (p : Int) :
    Outcome α → Prop
  | .value a => good p a
  | .failure e => e.Within text p
  | .fault f => faults f

/-- A run from a cursor has ended safely. -/
structure Cursor.Ends (faults : Fault → Prop) (good : Int → α → Prop) (c : Cursor text)
    (result : Outcome α × Cursor text) : Prop where
  blanks_eq : result.2.blanks = c.blanks
  le_pos : c.pos ≤ result.2.pos
  pos_le : result.2.pos ≤ text.length
  outcome : result.1.Meets faults good text c.pos

/-- An action ends safely from every valid cursor over a text. -/
def Action.SafeOn (faults : Fault → Prop) (text : List Char) (good : Int → α → Prop)
    (x : Action α) : Prop :=
  ∀ c : Cursor text, c.Valid → c.Ends faults good (x.run c)

/-- A property that holds from a position on holds from every earlier one on. -/
def Extends (good : Int → α → Prop) : Prop := ∀ p q a, p ≤ q → good q a → good p a

variable {faults : Fault → Prop}

namespace Cursor.Ends

variable {good : Int → α → Prop} {good' : Int → β → Prop} {c d : Cursor text}

/-- After a safe end the cursor is valid again. -/
theorem valid {result : Outcome α × Cursor text} (h : c.Ends faults good result) (hc : c.Valid) :
    result.2.Valid :=
  ⟨Int.le_trans hc.1 h.le_pos, h.pos_le⟩

/-- Ending on the spot is safe if the outcome is. -/
theorem still {o : Outcome α} (hc : c.Valid) (ho : o.Meets faults good text c.pos) :
    c.Ends faults good (o, c) :=
  ⟨rfl, Int.le_refl _, hc.2, ho⟩

/-- Moving onto a visible character is safe if the outcome is. -/
theorem onto {o : Outcome α} (hc : c.Valid) (k : Nat) (ho : o.Meets faults good text c.pos) :
    c.Ends faults good (o, c.onto k) := by
  refine ⟨rfl, ?_, (hc.onto k).2, ho⟩
  rw [pos_onto]
  omega

/-- What begins where a safe run has ended is safe from where that run began. -/
theorem trans {o : Outcome α} {result : Outcome β × Cursor text} (h : c.Ends faults good (o, d))
    (h' : d.Ends faults good' result) {good'' : Int → β → Prop}
    (hgood : ∀ b, good' d.pos b → good'' c.pos b) : c.Ends faults good'' result := by
  obtain ⟨o', d'⟩ := result
  refine ⟨h'.blanks_eq.trans h.blanks_eq, Int.le_trans h.le_pos h'.le_pos, h'.pos_le, ?_⟩
  cases o' with
  | value b => exact hgood b h'.outcome
  | failure e => exact h'.outcome.mono h.le_pos
  | fault f => exact h'.outcome

/-- A weaker property of values leaves an end safe. -/
theorem mono {result : Outcome α × Cursor text} (h : c.Ends faults good result)
    {good'' : Int → α → Prop} (hgood : ∀ a, good c.pos a → good'' c.pos a) :
    c.Ends faults good'' result := by
  obtain ⟨o, d⟩ := result
  refine ⟨h.blanks_eq, h.le_pos, h.pos_le, ?_⟩
  cases o with
  | value a => exact hgood a h.outcome
  | failure e => exact h.outcome
  | fault f => exact h.outcome

/-- A safe end without a value is safe whatever values are to be like. -/
theorem of_failure {e : ParseError} (h : c.Ends faults good (.failure e, d)) :
    c.Ends faults good' (.failure e, d) :=
  ⟨h.blanks_eq, h.le_pos, h.pos_le, h.outcome⟩

theorem of_fault {f : Fault} (h : c.Ends faults good (.fault f, d)) :
    c.Ends faults good' (.fault f, d) :=
  ⟨h.blanks_eq, h.le_pos, h.pos_le, h.outcome⟩

/-- Going back to the start of a safe run is safe if the outcome is. -/
theorem restored {o : Outcome α} {o' : Outcome β} (hc : c.Valid) (h : c.Ends faults good (o, d))
    (ho : o'.Meets faults good' text c.pos) : c.Ends faults good' (o', d.moveTo c.pos) :=
  ⟨h.blanks_eq, Int.le_refl _, hc.2, ho⟩

end Cursor.Ends

namespace Action

open Cursor

variable {good : Int → α → Prop} {good' : Int → β → Prop}

/-! ## Primitive actions -/

/-- A literal is matched safely. -/
theorem tag_safeOn {literal : String} (hne : literal.toList ≠ []) :
    SafeOn faults text (fun p l => Location.Within l text p) (tag literal) := by
  intro c hc
  rw [tag_of_valid hc hne]
  refine .onto hc _ ?_
  have hw := stretch_within hc (c.gap_le_length (agreement literal.toList c.visible))
  unfold tagOutcome
  split
  · exact hw
  · exact ⟨hw, rfl⟩

/-- A token is matched safely. -/
theorem regex_safeOn (pattern : String) (accepts : List Char → Bool) :
    SafeOn faults text (fun p l => Location.Within l text p) (regex pattern accepts) := by
  intro c hc
  rw [regex_of_valid hc]
  split
  · exact .still hc ⟨stretch_within hc (c.gap_le_length _), rfl⟩
  · exact .onto hc _ (stretch_within hc (c.gap_le_length _))

/-- The end of the text is matched safely. -/
theorem eof_safeOn : SafeOn faults text (fun p l => Location.Within l text p) eof := by
  intro c hc
  have hw := stretch_within hc (c.gap_le_length 0)
  rw [eof_of_valid hc]
  refine .onto hc 0 ?_
  cases c.visible.head? with
  | none => exact hw
  | some found => exact ⟨hw, rfl⟩

/-! ## Ends with a value -/

section

variable {c d : Cursor text}

/-- Two actions in order end with a value only if both do. -/
theorem exists_of_bind_eq_value {x : Action α} {f : α → Action β} {b : β}
    (h : (x.bind f).run c = (.value b, d)) :
    ∃ a e, x.run c = (.value a, e) ∧ (f a).run e = (.value b, d) := by
  rcases hr : x.run c with ⟨o, e⟩
  cases o with
  | value a => exact ⟨a, e, rfl, by rwa [bind_of_value hr] at h⟩
  | failure error =>
    rw [bind_of_failure hr] at h
    cases h
  | fault f =>
    rw [bind_of_fault hr] at h
    cases h

/-- A value that was put through a function came with the same cursor. -/
theorem exists_of_mapValue_eq_value {x : Action α} {f : α → β} {b : β}
    (h : (x.mapValue f).run c = (.value b, d)) : ∃ a, x.run c = (.value a, d) ∧ f a = b := by
  rcases hr : x.run c with ⟨o, e⟩
  cases o with
  | value a =>
    rw [mapValue_of_value hr] at h
    cases h
    exact ⟨a, rfl, rfl⟩
  | failure error =>
    rw [mapValue_of_failure hr] at h
    cases h
  | fault f =>
    rw [mapValue_of_fault hr] at h
    cases h

/-- An action that ends safely with a value has left the cursor valid and not moved it back. -/
theorem SafeOn.of_value {x : Action α} {a : α} (hx : SafeOn faults text good x) (hc : c.Valid)
    (h : x.run c = (.value a, d)) : d.Valid ∧ c.pos ≤ d.pos := by
  have hend := hx c hc
  rw [h] at hend
  exact ⟨hend.valid hc, hend.le_pos⟩

end

/-! ## Sequencing -/

/-- A run that goes on after another one is safe if it is so from where that one has ended. -/
theorem SafeOn.bind {x : Action α} {f : α → Action β} (hx : SafeOn faults text good x)
    (hf : ∀ (c d : Cursor text) (a : α), d.Valid → c.pos ≤ d.pos → good c.pos a →
      d.Ends faults (fun _ b => good' c.pos b) ((f a).run d)) :
    SafeOn faults text good' (x.bind f) := by
  intro c hc
  have hend := hx c hc
  rcases hr : x.run c with ⟨o, d⟩
  rw [hr] at hend
  cases o with
  | value a =>
    rw [bind_of_value hr]
    exact hend.trans (hf c d a (hend.valid hc) hend.le_pos hend.outcome) fun _ hb => hb
  | failure e =>
    rw [bind_of_failure hr]
    exact hend.of_failure
  | fault e =>
    rw [bind_of_fault hr]
    exact hend.of_fault

/-- A function that returns normally on the values at hand is applied safely. -/
theorem SafeOn.transform {x : Action α} {f : α → Outcome β} (hx : SafeOn faults text good x)
    (hf : ∀ (c d : Cursor text) (a : α), c.Valid → x.run c = (.value a, d) → good c.pos a →
      ∃ b, f a = .value b ∧ good' c.pos b) : SafeOn faults text good' (x.transform f) := by
  intro c hc
  have hend := hx c hc
  rcases hr : x.run c with ⟨o, d⟩
  rw [hr] at hend
  cases o with
  | value a =>
    obtain ⟨b, hb, hgood⟩ := hf c d a hc hr hend.outcome
    rw [transform_of_value hr, hb]
    exact ⟨hend.blanks_eq, hend.le_pos, hend.pos_le, hgood⟩
  | failure e =>
    rw [transform_of_failure hr]
    exact hend.of_failure
  | fault e =>
    rw [transform_of_fault hr]
    exact hend.of_fault

theorem SafeOn.mapValue {x : Action α} {f : α → β} (hx : SafeOn faults text good x)
    (hf : ∀ p a, good p a → good' p (f a)) : SafeOn faults text good' (x.mapValue f) :=
  hx.transform fun _ _ a _ _ ha => ⟨f a, rfl, hf _ a ha⟩

/-- Two safe actions in order are safe. -/
theorem SafeOn.both {x : Action α} {y : Action β} (hx : SafeOn faults text good x)
    (hy : SafeOn faults text good' y) (hext : Extends good') :
    SafeOn faults text (fun p v => good p v.1 ∧ good' p v.2) (x.both y) := by
  refine hx.bind fun c d a hd hle ha => ?_
  have hpair : SafeOn faults text (fun p v => v.1 = a ∧ good' p v.2) (y.mapValue (a, ·)) :=
    hy.mapValue fun p b hb => ⟨rfl, hb⟩
  exact (hpair d hd).mono fun v hv => ⟨hv.1 ▸ ha, hext _ _ _ hle hv.2⟩

/-- Two safe actions in order are safe, for the first value. -/
theorem SafeOn.keepLeft {x : Action α} {y : Action β} (hx : SafeOn faults text good x)
    (hy : SafeOn faults text good' y) : SafeOn faults text good (x.keepLeft y) := by
  refine hx.bind fun c d a hd _ ha => ?_
  have hfirst : SafeOn faults text (fun _ b => b = a) (y.mapValue fun _ => a) :=
    hy.mapValue fun p b _ => rfl
  exact (hfirst d hd).mono fun b hb => hb ▸ ha

/-- Two safe actions in order are safe, for the second value. -/
theorem SafeOn.keepRight {x : Action α} {y : Action β} (hx : SafeOn faults text good x)
    (hy : SafeOn faults text good' y) (hext : Extends good') :
    SafeOn faults text good' (x.keepRight y) :=
  hx.bind fun _ d _ hd hle _ => (hy d hd).mono fun b hb => hext _ _ b hle hb

/-- Safe actions in order are safe. -/
theorem seqFrom_safeOn {p : Int} (hext : Extends good) (actions : List (Bool × Action α))
    (hall : ∀ entry ∈ actions, SafeOn faults text good entry.2) (values : List α)
    (hvalues : ∀ v ∈ values, good p v) (c : Cursor text) (hc : c.Valid) (hp : p ≤ c.pos) :
    c.Ends faults (fun _ vs => ∀ v ∈ vs, good p v) ((seqFrom values actions).run c) := by
  induction actions generalizing values c with
  | nil => exact .still hc hvalues
  | cons entry rest ih =>
    obtain ⟨ignored, action⟩ := entry
    have hend := hall _ List.mem_cons_self c hc
    rcases hr : action.run c with ⟨o, d⟩
    rw [hr] at hend
    cases o with
    | value a =>
      -- the values so far are good from further back than where this rule has begun
      have hnext : ∀ v ∈ (if ignored then values else values ++ [a]), good p v := by
        intro v hv
        split at hv
        · exact hvalues v hv
        · rcases List.mem_append.1 hv with hv | hv
          · exact hvalues v hv
          · rw [List.mem_singleton.1 hv]
            exact hext _ _ a hp hend.outcome
      have hrest := ih (fun e he => hall e (List.mem_cons_of_mem _ he)) _ hnext d (hend.valid hc)
        (Int.le_trans hp hend.le_pos)
      rw [seqFrom_cons_of_value hr]
      exact hend.trans hrest fun vs hvs => hvs
    | failure e =>
      rw [seqFrom_cons_of_failure hr]
      exact hend.of_failure
    | fault e =>
      rw [seqFrom_cons_of_fault hr]
      exact hend.of_fault

/-- A sequence of safe actions is safe. -/
theorem seq_safeOn (hext : Extends good) (actions : List (Bool × Action α))
    (hall : ∀ entry ∈ actions, SafeOn faults text good entry.2) :
    SafeOn faults text (fun p vs => ∀ v ∈ vs, good p v) (seq actions) := by
  intro c hc
  exact (seqFrom_safeOn hext actions hall [] (by simp) c hc (Int.le_refl _)).mono fun vs hvs => hvs

/-! ## Choice, repetition and recovery -/

/-- Safe alternatives are tried safely, all from the same place. -/
theorem choicesFrom_safeOn (labels : List String) (alternatives : List (String × Action α))
    (hall : ∀ entry ∈ alternatives, SafeOn faults text good entry.2) {s : Cursor text}
    (hs : s.Valid) (furthest : Int) (hle : s.pos ≤ furthest) (hlen : furthest ≤ text.length)
    (notes : List String) (c : Cursor text) (hb : c.blanks = s.blanks) :
    s.Ends faults good ((choicesFrom labels s.pos furthest notes alternatives).run c) := by
  have hback : c.moveTo s.pos = s := eq_of_pos_eq rfl hb
  induction alternatives generalizing furthest notes c with
  | nil =>
    simp only [choicesFrom, locate_of_pos_le hs hb hle, hback]
    exact .still hs ⟨stretch_within_of_le hs hlen, rfl⟩
  | cons entry rest ih =>
    obtain ⟨label, action⟩ := entry
    have hend := hall _ List.mem_cons_self s hs
    rcases hr : action.run s with ⟨o, d⟩
    rw [hr] at hend
    have hr' : action.run (c.moveTo s.pos) = (o, d) := by rw [hback, hr]
    cases o with
    | value a =>
      rw [choicesFrom_cons_of_value hr']
      exact hend
    | failure e =>
      rw [choicesFrom_cons_of_failure hr']
      -- the next alternative begins at the same place; only the furthest position has grown
      have hfar : max furthest d.pos ≤ text.length := Int.max_le.2 ⟨hlen, hend.pos_le⟩
      exact ih (fun e he => hall e (List.mem_cons_of_mem _ he)) _
        (Int.le_trans hle (Int.le_max_left _ _)) hfar _ d hend.blanks_eq
        (eq_of_pos_eq rfl hend.blanks_eq)
    | fault e =>
      rw [choicesFrom_cons_of_fault hr']
      exact hend

/-- A choice among safe alternatives is safe. -/
theorem choices_safeOn (alternatives : List (String × Action α))
    (hall : ∀ entry ∈ alternatives, SafeOn faults text good entry.2) :
    SafeOn faults text good (choices alternatives) := by
  intro c hc
  rw [choices_of_valid hc]
  exact choicesFrom_safeOn _ alternatives hall hc _ (Int.le_refl _) hc.2 _ c rfl

/-- A safe action is repeated safely: each attempt but the last one moves on, so there are no more
attempts than characters ahead, and the last. -/
theorem manyFrom_safeOn {p : Int} {x : Action α} (hx : SafeOn faults text good x)
    (hext : Extends good) (limit : Nat) (values : List α) (hvalues : ∀ v ∈ values, good p v)
    (c : Cursor text) (hc : c.Valid) (hp : p ≤ c.pos) (hlimit : text.length - c.pos < limit) :
    c.Ends faults (fun _ vs => ∀ v ∈ vs, good p v) ((manyFrom x limit values).run c) := by
  induction limit generalizing values c with
  | zero =>
    -- a valid cursor does not lie beyond the end, so the limit is never used up
    have := hc.2
    omega
  | succ limit ih =>
    have hend := hx c hc
    rcases hr : x.run c with ⟨o, d⟩
    rw [hr] at hend
    cases o with
    | value a =>
      have hnext : ∀ v ∈ values ++ [a], good p v := by
        intro v hv
        rcases List.mem_append.1 hv with hv | hv
        · exact hvalues v hv
        · rw [List.mem_singleton.1 hv]
          exact hext _ _ a hp hend.outcome
      by_cases hm : d.pos = c.pos
      · rw [manyFrom_of_still hc hr hm]
        exact ⟨hend.blanks_eq, hend.le_pos, hend.pos_le, hnext⟩
      · rw [manyFrom_of_value hc hr hm]
        have hlt : c.pos < d.pos := Int.lt_iff_le_and_ne.2 ⟨hend.le_pos, Ne.symm hm⟩
        have hrest := ih _ hnext d (hend.valid hc) (Int.le_trans hp hend.le_pos) (by omega)
        exact hend.trans hrest fun vs hvs => hvs
    | failure e =>
      rw [manyFrom_of_failure hc hr]
      exact hend.restored hc hvalues
    | fault e =>
      rw [manyFrom_of_fault hc hr]
      exact hend.of_fault

/-- There are enough repetitions for all characters ahead. -/
theorem lt_repetitionLimit (patience : Nat) {c : Cursor text} (hc : c.Valid) :
    text.length - c.pos < repetitionLimit patience text := by
  have hpos := hc.1
  rw [repetitionLimit]
  omega

/-- Repeating a safe action is safe, whatever the count: the attempts never run out. -/
theorem repeated_safeOn {x : Action α} (hx : SafeOn faults text good x) (hext : Extends good)
    (patience : Nat) :
    SafeOn faults text (fun p vs => ∀ v ∈ vs, good p v) (repeated patience x) := by
  intro c hc
  have hlimit := lt_repetitionLimit patience hc
  exact (manyFrom_safeOn hx hext _ [] (by simp) c hc (Int.le_refl _) hlimit).mono
    fun vs hvs => hvs

/-- A repetition of a safe action is safe, if its bounds can be told or it is allowed that they
cannot. -/
theorem many_safeOn {x : Action α} (hx : SafeOn faults text good x) (hext : Extends good)
    (patience : Nat) {min : Int} {max : Option Int}
    (hlong : digitLimit < Issue.boundDigits min max → faults (.longInteger digitLimit)) :
    SafeOn faults text (fun p vs => ∀ v ∈ vs, good p v) (many patience min max x) := by
  intro c hc
  have hend := repeated_safeOn hx hext patience c hc
  rcases hr : (repeated patience x).run c with ⟨o, d⟩
  rw [hr] at hend
  cases o with
  | value vs =>
    cases hbounds : withinBounds min max vs.length with
    | true =>
      rw [many_of_within hc hr hbounds]
      exact hend
    | false =>
      rcases Nat.lt_or_ge digitLimit (Issue.boundDigits min max) with hlt | hle
      · rw [many_of_outside_of_lt hc hr hbounds hlt]
        exact ⟨hend.blanks_eq, hend.le_pos, hend.pos_le, hlong hlt⟩
      · -- the error is located from where the repetition began to where it stopped
        rw [many_of_outside_of_le hc hr hbounds hle,
          bind_of_value (locateFrom_of_pos_le hc hend.blanks_eq hend.le_pos)]
        exact ⟨hend.blanks_eq, hend.le_pos, hend.pos_le,
          stretch_within_of_le hc hend.pos_le, rfl⟩
  | failure e =>
    exact absurd (congrArg Prod.fst hr) (manyFrom_ne_failure x _ [] c e)
  | fault e =>
    rw [many_of_fault hc hr]
    exact hend

/-- Recovery is safe if the handler returns normally on the errors at hand. -/
theorem catching_safeOn {x : Action α} {handler : ParseError → Outcome α}
    (hx : SafeOn faults text good x)
    (hh : ∀ (c d : Cursor text) (e : ParseError), c.Valid → x.run c = (.failure e, d) →
      e.Within text c.pos → ∃ a, handler e = .value a ∧ good c.pos a) :
    SafeOn faults text good (catching handler x) := by
  intro c hc
  have hend := hx c hc
  rcases hr : x.run c with ⟨o, d⟩
  rw [hr] at hend
  cases o with
  | value a =>
    rw [catching_of_value hc hr]
    exact hend
  | failure e =>
    obtain ⟨a, ha, hgood⟩ := hh c d e hc hr hend.outcome
    rw [catching_of_failure hc hr, ha]
    exact hend.restored hc hgood
  | fault f =>
    rw [catching_of_fault hc hr]
    exact hend

end Action

/-! ## Safe rules -/

/-- A property of values that holds of locations within the text, and of what is put together from
values that have it. -/
structure Inherited (text : List Char) (good : Int → Value → Prop) : Prop where
  extends_back : Extends good
  location : ∀ {p : Int} {l : Location}, l.Within text p → good p (.location l)
  pair : ∀ {p : Int} {v w : Value}, good p v → good p w → good p (.pair v w)
  list : ∀ {p : Int} {vs : List Value}, (∀ v ∈ vs, good p v) → good p (.list vs)

namespace Rule

/-- A rule is not an action of its author's own, and its functions return normally: a function on
the values, and a handler on the errors, that the rule inside it gives from valid cursors. -/
def Normal (env : List Rule) : Rule → Prop
  | .action _ => False
  | .map f r => ∀ (patience limit : Nat) (text : List Char) (c d : Cursor text) (v : Value),
      c.Valid → (run patience limit env r).run c = (.value v, d) → ∃ w, f v = .value w
  | .catching handler r =>
      ∀ (patience limit : Nat) (text : List Char) (c d : Cursor text) (e : ParseError),
        c.Valid → (run patience limit env r).run c = (.failure e, d) → ∃ w, handler e = .value w
  | _ => True

/-- The functions of a rule keep a property of values. -/
def Keeps (text : List Char) (good : Int → Value → Prop) (_env : List Rule) : Rule → Prop
  | .map f _ => ∀ p v w, good p v → f v = .value w → good p w
  | .catching handler _ => ∀ p e w, ParseError.Within e text p → handler e = .value w → good p w
  | _ => True

/-- Faults that a run may end with: a want of depth, and if a repetition has bounds too long for a
message, that they are. -/
structure Allowed (faults : Fault → Prop) (env : List Rule) (r : Rule) : Prop where
  tooDeep : faults .tooDeep
  longInteger : ¬ ShortBounds env r → faults (.longInteger digitLimit)

open Descent.Action

/-- A well-formed rule whose functions return normally and keep a property of values is run safely,
however deep the calls may be. -/
theorem run_safeOn {good : Int → Value → Prop} (hgood : Inherited text good) {env : List Rule}
    {r : Rule}
    (h : Throughout (fun env r => WellFormed env r ∧ Normal env r ∧ Keeps text good env r ∧
      Allowed faults env r) env r)
    (patience limit : Nat) : SafeOn faults text good (run patience limit env r) := by
  induction limit generalizing env r with
  | zero => exact fun c hc => .still hc h.here.2.2.2.tooDeep
  | succ limit ih =>
    rw [run_succ]
    have location : ∀ (p : Int) (l : Location), l.Within text p → good p (.location l) :=
      fun p l hl => hgood.location hl
    cases r with
    | tag literal => exact (tag_safeOn h.here.1).mapValue location
    | regex pattern accepts => exact (regex_safeOn pattern accepts).mapValue location
    | eof => exact eof_safeOn.mapValue location
    | action x => exact h.here.2.1.elim
    | map f r =>
      refine (ih h.map).transform fun c d v hc hr hv => ?_
      obtain ⟨w, hw⟩ := h.here.2.1 patience limit text c d v hc hr
      exact ⟨w, hw, h.here.2.2.1 _ v w hv hw⟩
    | both r s =>
      refine ((ih h.both.1).both (ih h.both.2) hgood.extends_back).mapValue ?_
      exact fun p v hv => hgood.pair hv.1 hv.2
    | keepLeft r s => exact (ih h.keepLeft.1).keepLeft (ih h.keepLeft.2)
    | keepRight r s =>
      exact (ih h.keepRight.1).keepRight (ih h.keepRight.2) hgood.extends_back
    | choices name rs =>
      refine choices_safeOn _ fun entry hentry => ?_
      obtain ⟨s, hs, rfl⟩ := List.mem_map.1 hentry
      exact ih (h.choices s hs)
    | many min max r =>
      refine (many_safeOn (ih h.many) hgood.extends_back patience fun hlong => ?_).mapValue ?_
      · exact h.here.2.2.2.longInteger (Nat.not_le.2 hlong)
      · exact fun p vs hvs => hgood.list hvs
    | seq rs =>
      refine SafeOn.mapValue (seq_safeOn hgood.extends_back _ fun entry hentry => ?_) ?_
      · obtain ⟨s, hs, rfl⟩ := List.mem_map.1 hentry
        exact ih (h.seq s hs)
      · exact fun p vs hvs => hgood.list hvs
    | catching handler r =>
      refine catching_safeOn (ih h.catching) fun c d e hc hr he => ?_
      obtain ⟨w, hw⟩ := h.here.2.1 patience limit text c d e hc hr
      exact ⟨w, hw, h.here.2.2.1 _ e w he hw⟩
    | named name r => exact ih h.named
    | ignored r => exact ih h.ignored
    | fix level d => exact ih h.fix
    | ref level name =>
      -- a reference in a well-formed rule has a definition, which is as good as the rule
      obtain ⟨d, hd, hdef⟩ := h.definition h.here.1
      rw [layer, hd]
      exact ih hdef

/-- A well-formed rule whose functions return normally. -/
structure Proper (env : List Rule) (r : Rule) : Prop where
  wellFormed : WellFormed env r
  normal : Normal env r

/-- A proper rule with bounds that can be told. -/
structure Brief (env : List Rule) (r : Rule) : Prop extends Proper env r where
  shortBounds : ShortBounds env r

/-- The faults that limits cause in runs of a rule: the depth has run out, or, if the rule has a
repetition with a bound that is too long for a message, this is so. -/
def LimitFault (r : Rule) (f : Fault) : Prop :=
  f = .tooDeep ∨ f = .longInteger digitLimit ∧ ¬ Everywhere ShortBounds [] r

theorem everywhere_allowed {r : Rule} (h : Everywhere WellFormed [] r) :
    Everywhere (Allowed (LimitFault r)) [] r := by
  by_cases short : Everywhere ShortBounds [] r
  · exact short.mono fun _ _ hs => ⟨.inl rfl, fun hlong => absurd hs hlong⟩
  · exact h.mono fun _ _ _ => ⟨.inl rfl, fun _ => .inr ⟨rfl, short⟩⟩

/-- Proper rules are run safely, if their faults are allowed. -/
theorem run_safe_of_allowed {env : List Rule} {r : Rule}
    (h : Throughout (fun env r => Proper env r ∧ Allowed faults env r) env r) (text : List Char)
    (patience limit : Nat) :
    SafeOn faults text (fun _ _ => True) (run patience limit env r) := by
  have inherited : Inherited text (fun _ _ => True) :=
    ⟨fun _ _ _ _ _ => trivial, fun _ => trivial, fun _ _ => trivial, fun _ => trivial⟩
  refine run_safeOn inherited (h.mono fun env s hs => ?_) patience limit
  refine ⟨hs.1.wellFormed, hs.1.normal, ?_, hs.2⟩
  cases s with
  | map f r => exact fun _ _ _ _ _ => trivial
  | catching handler r => exact fun _ _ _ _ _ => trivial
  | _ => trivial

theorem everywhere_proper_allowed {r : Rule} (built : Everywhere WellFormed [] r)
    (normal : Everywhere Normal [] r) :
    Everywhere (fun env s => Proper env s ∧ Allowed (LimitFault r) env s) [] r :=
  (built.and (normal.and (everywhere_allowed built))).mono fun _ _ hs => ⟨⟨hs.1, hs.2.1⟩, hs.2.2⟩

/-- A rule that has been built, and whose functions return normally, has no faults but those that
limits cause. -/
theorem limitFault_of_run {r : Rule} (built : Everywhere WellFormed [] r)
    (normal : Everywhere Normal [] r) {patience limit : Nat} {text : List Char}
    {c d : Cursor text} (hc : c.Valid) {f : Fault}
    (hr : (run patience limit [] r).run c = (.fault f, d)) : LimitFault r f := by
  have allowed := Throughout.of_everywhere (everywhere_proper_allowed built normal)
  have hend := run_safe_of_allowed allowed text patience limit c hc
  rw [hr] at hend
  exact hend.outcome

/-- Proper rules are run safely, whatever their faults are. -/
theorem run_safe {env : List Rule} {r : Rule} (h : Throughout Proper env r) (text : List Char)
    (patience limit : Nat) :
    SafeOn (fun _ => True) text (fun _ _ => True) (run patience limit env r) :=
  run_safe_of_allowed (h.mono fun _ _ hs => ⟨hs, trivial, fun _ => trivial⟩) text patience limit

/-- Brief rules are run safely, and all that can be wanting is depth. -/
theorem run_safe_of_brief {env : List Rule} {r : Rule} (h : Throughout Brief env r)
    (text : List Char) (patience limit : Nat) :
    SafeOn (· = .tooDeep) text (fun _ _ => True) (run patience limit env r) := by
  refine run_safe_of_allowed (h.mono fun env s hs => ⟨hs.toProper, ?_⟩) text patience limit
  exact ⟨rfl, fun hlong => absurd hs.shortBounds hlong⟩

end Rule

end Descent
