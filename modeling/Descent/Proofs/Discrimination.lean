import Mathlib.Logic.Basic
import Descent.Proofs.Safety
import Descent.Proofs.Verdicts

/-!
# Telling success from failure

A parser asked for a pair answers with a value and no failure, or with no value and a failure. One
of the two parts is there and the other is not, unless the value itself is null: then neither part
is there, and asking for a value or null does not tell either whether the parse has failed. This is
the only exception, and a grammar can exclude it: where no function and no default on the way of the
value is null, a rule never gives null, and success and failure are told apart
(`Parser.pair_discriminates`).
-/

namespace Descent

/-! ## Properties of the values of an action -/

namespace Action

variable {α β : Type} {P : α → Prop} {Q : β → Prop} {x : Action α} {y : Action β}

/-- All values that an action gives, from whatever cursor, have a property. -/
def Yields (P : α → Prop) (x : Action α) : Prop :=
  ∀ (text : List Char) (c d : Cursor text) (a : α), x.run c = (.value a, d) → P a

namespace Yields

theorem unrestricted : Yields (fun _ => True) x := fun _ _ _ _ _ => trivial

theorem fault (e : Fault) : Yields P (fault e) := by
  intro text c d a h
  cases h

theorem transform (hx : Yields P x) {f : α → Outcome β} (hf : ∀ a b, P a → f a = .value b → Q b) :
    Yields Q (x.transform f) := by
  intro text c d b h
  rcases hr : x.run c with ⟨o, e⟩
  cases o with
  | value a =>
    rw [transform_of_value hr] at h
    exact hf a b (hx text c e a hr) (congrArg Prod.fst h)
  | failure error =>
    rw [transform_of_failure hr] at h
    cases h
  | fault f =>
    rw [transform_of_fault hr] at h
    cases h

/-- A function whose results all have a property gives it to the values of any action. -/
theorem mapValue {f : α → β} (hf : ∀ a, Q (f a)) : Yields Q (x.mapValue f) := by
  intro text c d b h
  obtain ⟨a, -, rfl⟩ := exists_of_mapValue_eq_value h
  exact hf a

theorem keepLeft (hx : Yields P x) : Yields P (x.keepLeft y) := by
  intro text c d a h
  obtain ⟨a', e, hr, hrest⟩ := exists_of_bind_eq_value h
  obtain ⟨b, -, rfl⟩ := exists_of_mapValue_eq_value hrest
  exact hx text c e a' hr

theorem keepRight (hy : Yields Q y) : Yields Q (x.keepRight y) := by
  intro text c d b h
  obtain ⟨a, e, -, hrest⟩ := exists_of_bind_eq_value h
  exact hy text e d b hrest

theorem choicesFrom {alternatives : List (String × Action α)}
    (hall : ∀ entry ∈ alternatives, Yields P entry.2) (labels : List String)
    (start furthest : Int) (notes : List String) :
    Yields P (choicesFrom labels start furthest notes alternatives) := by
  induction alternatives generalizing furthest notes with
  | nil =>
    intro text c d a h
    simp only [Action.choicesFrom] at h
    split at h <;> cases h
  | cons entry rest ih =>
    intro text c d a h
    obtain ⟨label, action⟩ := entry
    rcases hr : action.run (c.moveTo start) with ⟨o, e⟩
    cases o with
    | value a' =>
      rw [choicesFrom_cons_of_value hr] at h
      cases h
      exact hall _ List.mem_cons_self _ _ _ _ hr
    | failure error =>
      rw [choicesFrom_cons_of_failure hr] at h
      exact ih (fun entry he => hall entry (List.mem_cons_of_mem _ he)) _ _ _ _ _ _ h
    | fault f =>
      rw [choicesFrom_cons_of_fault hr] at h
      cases h

/-- The value of a choice is that of an alternative. -/
theorem choices {alternatives : List (String × Action α)}
    (hall : ∀ entry ∈ alternatives, Yields P entry.2) : Yields P (choices alternatives) := by
  intro text c d a h
  obtain ⟨start, e, -, hrest⟩ := exists_of_bind_eq_value h
  exact choicesFrom hall _ _ _ _ _ _ _ _ hrest

/-- The value of a rule with a handler is its own, or what the handler makes of an error. -/
theorem catching (hx : Yields P x) {handler : ParseError → Outcome α}
    (hh : ∀ e a, handler e = .value a → P a) : Yields P (catching handler x) := by
  intro text c d a h
  by_cases hc : c.Valid
  · rcases hr : x.run c with ⟨o, e⟩
    cases o with
    | value a' =>
      rw [catching_of_value hc hr] at h
      cases h
      exact hx text c d a hr
    | failure error =>
      rw [catching_of_failure hc hr] at h
      exact hh error a (congrArg Prod.fst h)
    | fault f =>
      rw [catching_of_fault hc hr] at h
      cases h
  · simp only [Action.catching, Cursor.checked_of_not_valid hc] at h
    cases h

end Yields

end Action

/-! ## Rules that never give null -/

namespace Rule

/-- A rule never gives null, by the functions, handlers and actions that its value comes from. What
is inside of a pair, of a list or of a value that is dropped may be null. -/
inductive NeverNull : Rule → Prop
  | tag {literal : String} : NeverNull (.tag literal)
  | regex {pattern : String} {accepts : List Char → Bool} : NeverNull (.regex pattern accepts)
  | eof : NeverNull .eof
  | action {x : Action Value} (h : x.Yields (· ≠ .null)) : NeverNull (.action x)
  | map {f : Value → Outcome Value} {r : Rule} (hf : ∀ v, v ≠ .null → f v ≠ .value .null)
      (hr : NeverNull r) : NeverNull (.map f r)
  /-- The function gives no null even for a null. -/
  | mapAny {f : Value → Outcome Value} {r : Rule} (hf : ∀ v, f v ≠ .value .null) :
      NeverNull (.map f r)
  | both {r s : Rule} : NeverNull (.both r s)
  | keepLeft {r s : Rule} (hr : NeverNull r) : NeverNull (.keepLeft r s)
  | keepRight {r s : Rule} (hs : NeverNull s) : NeverNull (.keepRight r s)
  | choices {name : Option String} {rs : List Rule} (hall : ∀ r ∈ rs, NeverNull r) :
      NeverNull (.choices name rs)
  | many {min : Int} {max : Option Int} {r : Rule} : NeverNull (.many min max r)
  | seq {rs : List Rule} : NeverNull (.seq rs)
  | catching {handler : ParseError → Outcome Value} {r : Rule}
      (hh : ∀ e, handler e ≠ .value .null) (hr : NeverNull r) : NeverNull (.catching handler r)
  | named {name : String} {r : Rule} (hr : NeverNull r) : NeverNull (.named name r)
  | ignored {r : Rule} (hr : NeverNull r) : NeverNull (.ignored r)
  | fix {level : Nat} {d : Rule} (hd : NeverNull d) : NeverNull (.fix level d)
  | ref {level : Nat} {name : Option String} : NeverNull (.ref level name)

open Descent.Action

/-- Such a rule, among definitions that are such, gives no null, however deep the calls may be. -/
theorem run_ne_null {env : List Rule} {r : Rule} (hr : NeverNull r)
    (henv : ∀ d ∈ env, NeverNull d) (patience limit : Nat) :
    (run patience limit env r).Yields (· ≠ .null) := by
  induction limit generalizing env r with
  | zero => exact .fault .tooDeep
  | succ limit ih =>
    rw [run_succ]
    cases hr with
    | tag => exact .mapValue fun _ => Value.noConfusion
    | regex => exact .mapValue fun _ => Value.noConfusion
    | eof => exact .mapValue fun _ => Value.noConfusion
    | action h => exact h
    | map hf hr =>
      refine (ih hr henv).transform fun v w hv hw => ?_
      rintro rfl
      exact hf v hv hw
    | mapAny hf =>
      refine Yields.unrestricted.transform fun v w _ hw => ?_
      rintro rfl
      exact hf v hw
    | both => exact .mapValue fun _ => Value.noConfusion
    | keepLeft hr => exact (ih hr henv).keepLeft
    | keepRight hs => exact (ih hs henv).keepRight
    | choices hall =>
      refine .choices fun entry hentry => ?_
      obtain ⟨s, hs, rfl⟩ := List.mem_map.1 hentry
      exact ih (hall s hs) henv
    | many => exact .mapValue fun _ => Value.noConfusion
    | seq => exact .mapValue fun _ => Value.noConfusion
    | catching hh hr =>
      refine (ih hr henv).catching fun e v hv => ?_
      rintro rfl
      exact hh e hv
    | named hr => exact ih hr henv
    | ignored hr => exact ih hr henv
    | fix hd =>
      refine ih hd fun d hmem => ?_
      rcases List.mem_append.1 hmem with hmem | hmem
      · exact henv d (List.mem_of_mem_take hmem)
      · rw [List.mem_singleton.1 hmem]
        exact hd
    | @ref level name =>
      rw [layer]
      cases hd : env[level]? with
      | none => exact .fault _
      | some d =>
        exact ih (henv d (List.mem_of_getElem? hd)) fun b hb => henv b (List.mem_of_mem_take hb)

end Rule

/-! ## Parsers -/

/-- The function of a derivation, if it is one for values, makes no null of other values. -/
def Adaptation.KeepsNonNull : Adaptation → Prop
  | .map f => ∀ v, v ≠ .null → f v ≠ .value .null
  | .mapError _ => True

/-- A verdict that is not null does not become null where no derivation makes null of values. -/
theorem Verdict.Passes.ne_null {b v : Verdict} {as : List Adaptation} (h : Passes b as v)
    (hb : ∀ whole, b ≠ .parsed .null whole) (has : ∀ a ∈ as, a.KeepsNonNull) :
    ∀ whole, v ≠ .parsed .null whole := by
  induction h with
  | nil => exact hb
  | @cons b b' v a as first _ ih =>
    refine ih (fun whole hnull => ?_) fun a ha => has a (List.mem_cons_of_mem _ ha)
    subst hnull
    cases first with
    | @mapped f u w whole h =>
      refine has (.map f) List.mem_cons_self u ?_ h
      rintro rfl
      exact hb whole rfl
    | valueStays => exact hb whole rfl

namespace Parser

/-- A parse fails: it ends with a parse error. -/
def Fails (p : Parser) (source : String) : Prop := ∃ failure, (p.parse source).1 = .failed failure

/-- A parse succeeds with null as its value. -/
def GivesNull (p : Parser) (source : String) : Prop :=
  ∃ whole, (p.parse source).1 = .parsed .null whole

/-- Exactly one of the two parts of an answer is there. -/
def Discriminates (answer : Value × Option Failure) : Prop :=
  Xor (answer.1 ≠ .null) (answer.2 ≠ none)

variable {p : Parser} {source : String}

/-- A pair is that of a parse that succeeds, or that of one that fails. -/
theorem parsed_or_failed {answer : Value × Option Failure} {log : List LogRecord}
    (h : p.parseAsPair source = (.ok answer, log)) :
    (∃ v whole, (p.parse source).1 = .parsed v whole ∧ answer = (v, none)) ∨
      ∃ failure, (p.parse source).1 = .failed failure ∧ answer = (.null, some failure) := by
  rcases hj : p.judge source with ⟨verdict, records⟩
  have answers := answers_of_judge hj
  cases verdict with
  | parsed v whole =>
    obtain ⟨hparse, -, -, hpair⟩ := answers
    cases hpair.symm.trans h
    exact .inl ⟨v, whole, congrArg Prod.fst hparse, rfl⟩
  | failed failure =>
    obtain ⟨hparse, -, -, hpair⟩ := answers
    cases hpair.symm.trans h
    exact .inr ⟨failure, congrArg Prod.fst hparse, rfl⟩
  | faulted x => cases answers.2.2.2.symm.trans h

/-- The second part of a pair is there if the parse fails, and only then. -/
theorem failure_ne_none_iff {answer : Value × Option Failure} {log : List LogRecord}
    (h : p.parseAsPair source = (.ok answer, log)) : answer.2 ≠ none ↔ p.Fails source := by
  obtain ⟨v, whole, hparse, rfl⟩ | ⟨failure, hparse, rfl⟩ := parsed_or_failed h
  · simp [Fails, hparse]
  · simp [Fails, hparse]

/-- A pair has exactly one part unless the value is null. -/
theorem discriminates_iff {answer : Value × Option Failure} {log : List LogRecord}
    (h : p.parseAsPair source = (.ok answer, log)) :
    Discriminates answer ↔ ¬ p.GivesNull source := by
  obtain ⟨v, whole, hparse, rfl⟩ | ⟨failure, hparse, rfl⟩ := parsed_or_failed h
  · simp [Discriminates, GivesNull, hparse]
  · simp [Discriminates, GivesNull, hparse]

/-- Null is the answer to a text on which the parse fails, and to one on which it gives null. -/
theorem parseOrNull_eq_null_iff :
    (p.parseOrNull source).1 = .ok .null ↔ p.Fails source ∨ p.GivesNull source := by
  rcases hj : p.judge source with ⟨verdict, records⟩
  have answers := answers_of_judge hj
  cases verdict with
  | parsed v whole => simp [Fails, GivesNull, answers.1, answers.2.1]
  | failed failure => simp [Fails, GivesNull, answers.1, answers.2.1]
  | faulted x => simp [Fails, GivesNull, answers.1, answers.2.1]

/-- Where neither the rule nor a derivation makes null, no parse gives null. -/
theorem not_givesNull {limits : Limits} {g : Grammar} {top : Rule} {limit : Int}
    {as : List Adaptation} (htop : top.NeverNull) (has : ∀ a ∈ as, a.KeepsNonNull) :
    ¬ ((ofRule limits g top limit).adaptAll as).GivesNull source := by
  have base : ∀ whole, (ofRule limits g top limit).attempt source ≠ .parsed .null whole := by
    intro whole (h : attemptRule limits g top source = .parsed .null whole)
    rw [attemptRule_eq_ofRun] at h
    rcases hr : (top.call limits).run (g.cursor source.toList) with ⟨o, d⟩
    rw [hr] at h
    cases o with
    | value v =>
      cases h
      exact Rule.run_ne_null htop (List.forall_mem_nil _) _ _ _ _ _ _ hr rfl
    | failure e => cases h
    | fault f => cases h
  rintro ⟨whole, hparse⟩
  cases hrefused : ((ofRule limits g top limit).adaptAll as).refuses source.length with
  | true =>
    cases (judge_of_refuses hrefused).symm.trans hparse
  | false =>
    refine (passes_adaptAll (ofRule limits g top limit) as source).ne_null base has whole ?_
    simpa [parse, judge, hrefused] using hparse

/-- Let a parser be derived from that of a rule in any number of steps. In the pair that it answers
a text with, the failure is there if and only if the parse fails; exactly one part is there if and
only if the parse does not give null; and asked for a value or null, the parser answers null if and
only if the parse fails or gives null. So, if the rule never gives null and no function makes null
of other values, exactly one part of every pair is there, and null is the answer if and only if the
parse fails. -/
theorem pair_discriminates (limits : Limits) (g : Grammar) (top : Rule) (limit : Int)
    (as : List Adaptation) (source : String) :
    (∀ answer log,
      ((ofRule limits g top limit).adaptAll as).parseAsPair source = (.ok answer, log) →
      (answer.2 ≠ none ↔ ((ofRule limits g top limit).adaptAll as).Fails source) ∧
      (Discriminates answer ↔ ¬ ((ofRule limits g top limit).adaptAll as).GivesNull source)) ∧
    ((((ofRule limits g top limit).adaptAll as).parseOrNull source).1 = .ok .null ↔
      ((ofRule limits g top limit).adaptAll as).Fails source ∨
        ((ofRule limits g top limit).adaptAll as).GivesNull source) ∧
    (top.NeverNull → (∀ a ∈ as, a.KeepsNonNull) →
      (∀ answer log,
        ((ofRule limits g top limit).adaptAll as).parseAsPair source = (.ok answer, log) →
        Discriminates answer) ∧
      ((((ofRule limits g top limit).adaptAll as).parseOrNull source).1 = .ok .null ↔
        ((ofRule limits g top limit).adaptAll as).Fails source)) := by
  refine ⟨fun answer log h => ⟨failure_ne_none_iff h, discriminates_iff h⟩,
    parseOrNull_eq_null_iff, fun htop has => ?_⟩
  have nonNull : ¬ ((ofRule limits g top limit).adaptAll as).GivesNull source :=
    not_givesNull htop has
  refine ⟨fun answer log h => (discriminates_iff h).mpr nonNull, ?_⟩
  rw [parseOrNull_eq_null_iff, or_iff_left nonNull]

/-- An optional sign, null if it is missing, and a one. The value of the sign is dropped. -/
def signedOne : Rule := .keepRight (.optional .null (.tag "-")) (.tag "1")

/-- Puts values into lists of their own. -/
def boxing : List Adaptation := [.map fun v => .value (.list [v])]

/-- A missing sign does no harm, as its value is dropped: success is told from failure. -/
theorem signedOne_discriminates :
    signedOne.NeverNull ∧ (∀ a ∈ boxing, a.KeepsNonNull) ∧
    (∃ answer log,
      ((ofRule ⟨20, 0⟩ .empty signedOne 9).adaptAll boxing).parseAsPair "1" = (.ok answer, log) ∧
        Discriminates answer) ∧
    (∃ answer log,
      ((ofRule ⟨20, 0⟩ .empty signedOne 9).adaptAll boxing).parseAsPair "-" = (.ok answer, log) ∧
        Discriminates answer) ∧
    ((ofRule ⟨20, 0⟩ .empty signedOne 9).adaptAll boxing).Fails "-" := by
  have never : signedOne.NeverNull := .keepRight .tag
  have keeps : ∀ a ∈ boxing, a.KeepsNonNull := by
    intro a ha
    cases List.mem_singleton.1 ha
    intro v _ h
    cases h
  have one := (pair_discriminates ⟨20, 0⟩ .empty signedOne 9 boxing "1").2.2 never keeps
  have sign := (pair_discriminates ⟨20, 0⟩ .empty signedOne 9 boxing "-").2.2 never keeps
  exact ⟨never, keeps, ⟨_, _, rfl, one.1 _ _ rfl⟩, ⟨_, _, rfl, sign.1 _ _ rfl⟩, sign.2.mp rfl⟩

/-- An optional letter that is missing gives null. The parse succeeds, but neither part of the pair
is there, and null is the answer although the parse does not fail. -/
theorem optional_does_not_discriminate :
    ((ofRule ⟨20, 0⟩ .empty (.optional .null (.tag "a")) 9).adaptAll []).parseAsPair "b" =
      (.ok (.null, none), []) ∧
    ¬ Discriminates (.null, none) ∧
    ((ofRule ⟨20, 0⟩ .empty (.optional .null (.tag "a")) 9).adaptAll []).parseOrNull "b" =
      (.ok .null, []) ∧
    ¬ ((ofRule ⟨20, 0⟩ .empty (.optional .null (.tag "a")) 9).adaptAll []).Fails "b" := by
  refine ⟨rfl, ?_, rfl, ?_⟩
  · simp [Discriminates]
  · rintro ⟨failure, h⟩
    cases h

end Parser

end Descent
