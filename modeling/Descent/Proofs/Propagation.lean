import Descent.Parser
import Descent.Proofs.Log

/-!
# Faults are final

Only parse errors are recovered from. As soon as anything that a run invokes ends with a fault,
the run ends with that fault, with the cursor where it stood, and nothing is started any more; and
a run ends with a fault only if something that it invoked raised it (`Fatal`). So it is for all
rules, whatever the functions and handlers of their authors do, and for the four methods of a
parser derived in any way from such a rule (`Rule.fault_is_final`).
-/

namespace Descent

/-! ## Logs that end with the first fault -/

variable {α β : Type} {text : List Char}

/-- Something has ended with a fault, with the cursor at a place. -/
def Event.Faults (f : Fault) (place : Cursor text) (e : Event text) : Prop :=
  ∃ callee, e = .finish callee (.fault f) place

/-- Faults are final for a run with a log that ends with an outcome, with the cursor at `d`. -/
structure Fatal (log : List (Event text)) (o : Outcome α) (d : Cursor text) : Prop where
  /-- What ends with a fault ends the run with it, and leaves the cursor where it is then. -/
  ends : ∀ e ∈ log, ∀ f place, e.Faults f place → o = .fault f ∧ d = place
  /-- Nothing is started any more: all that follows are the ends, by the same fault and at the
  same place, of what was going on. -/
  last : log.Pairwise fun e e' => ∀ f place, e.Faults f place → e'.Faults f place
  /-- The run ends with a fault only if something raised it that was invoked, and that invoked
  nothing itself. -/
  raised : ∀ f, o = .fault f →
    ∃ callee place, [.start callee place, .finish callee (.fault f) d] <:+: log

namespace Fatal

variable {log log' : List (Event text)} {o : Outcome α} {o' : Outcome β} {c d d' : Cursor text}

/-- Which faults are final depends on the fault that the run ends with only. -/
theorem congr (h : Fatal log o d) (same : ∀ f, o = .fault f ↔ o' = .fault f) :
    Fatal log o' d where
  ends e he f place hf := ⟨(same f).mp (h.ends e he f place hf).1, (h.ends e he f place hf).2⟩
  last := h.last
  raised f hf := h.raised f ((same f).mpr hf)

/-- A run that has ended without a fault can be gone on with. -/
theorem append (h : Fatal log o d) (ho : ∀ f, o ≠ .fault f) (h' : Fatal log' o' d') :
    Fatal (log ++ log') o' d' where
  ends e he f place hf := by
    rcases List.mem_append.mp he with he | he
    · exact absurd (h.ends e he f place hf).1 (ho f)
    · exact h'.ends e he f place hf
  last := List.pairwise_append.mpr
    ⟨h.last, h'.last, fun e he _ _ f place hf => absurd (h.ends e he f place hf).1 (ho f)⟩
  raised f hf := by
    obtain ⟨callee, place, hraised⟩ := h'.raised f hf
    exact ⟨callee, place, hraised.trans (List.suffix_append _ _).isInfix⟩

/-- Nothing has been invoked, and there is no fault. -/
theorem nil (ho : ∀ f, o ≠ .fault f) : Fatal [] o d where
  ends _ he := absurd he List.not_mem_nil
  last := .nil
  raised f hf := absurd hf (ho f)

theorem ending_eq_fault {f : Fault} : o.ending = .fault f ↔ o = .fault f := by
  cases o <;> simp [Outcome.ending]

theorem not_faults_start {callee : Callee} {f : Fault} {place : Cursor text} :
    ¬ (Event.start callee c).Faults f place := by
  simp [Event.Faults]

theorem faults_finish {callee : Callee} {f : Fault} {place : Cursor text} :
    (Event.finish callee o.ending d).Faults f place ↔ o = .fault f ∧ d = place := by
  simp [Event.Faults, ending_eq_fault]

/-- A fault is final for something that is invoked if it is so within it, where it may also be
raised by what is invoked itself, if that invokes nothing. -/
theorem around {callee : Callee} (hends : ∀ e ∈ log, ∀ f place, e.Faults f place →
      o = .fault f ∧ d = place)
    (hlast : log.Pairwise fun e e' => ∀ f place, e.Faults f place → e'.Faults f place)
    (hraised : ∀ f, o = .fault f → log = [] ∨
      ∃ callee place, [.start callee place, .finish callee (.fault f) d] <:+: log) :
    Fatal (.start callee c :: log ++ [.finish callee o.ending d]) o d where
  ends e he f place hf := by
    rcases List.mem_append.mp he with he | he
    · rcases List.mem_cons.mp he with rfl | he
      · exact absurd hf not_faults_start
      · exact hends e he f place hf
    · rw [List.mem_singleton.mp he] at hf
      exact faults_finish.mp hf
  last := by
    refine List.pairwise_append.mpr ⟨List.pairwise_cons.mpr ⟨?_, hlast⟩,
      List.pairwise_singleton _ _, ?_⟩
    · exact fun _ _ f place hf => absurd hf not_faults_start
    · intro e he e' he' f place hf
      rcases List.mem_cons.mp he with rfl | he
      · exact absurd hf not_faults_start
      · rw [List.mem_singleton.mp he']
        exact faults_finish.mpr (hends e he f place hf)
  raised f hf := by
    rcases hraised f hf with hnil | ⟨inner, place, hinfix⟩
    · refine ⟨callee, c, ?_⟩
      rw [hnil, hf]
      exact List.infix_refl _
    · refine ⟨inner, place, hinfix.trans ?_⟩
      exact ⟨[.start callee c], [.finish callee o.ending d], by simp⟩

end Fatal

/-! ## Actions that faults are final for -/

namespace Logged

/-- Faults are final for every run of an action. -/
def Strict (x : Logged α) : Prop :=
  ∀ (text : List Char) (c : Cursor text), Fatal (x.run c).1 (x.run c).2.1 (x.run c).2.2

namespace Strict

variable {x : Logged α} {f : α → Logged β}

/-- What invokes nothing must not raise a fault by itself. -/
theorem alone {x : Action α}
    (h : ∀ {text : List Char} (c : Cursor text) f, (x.run c).1 ≠ .fault f) :
    (alone x).Strict := fun _ c => .nil (h c)

/-- What is invoked may raise a fault by itself if it invokes nothing. -/
theorem invoke_alone (callee : Callee) (x : Action α) : (invoke callee (.alone x)).Strict :=
  fun _ _ => .around (fun _ he => absurd he List.not_mem_nil) .nil fun _ _ => .inl rfl

theorem invoke (callee : Callee) (hx : x.Strict) : (invoke callee x).Strict :=
  fun text c => .around (hx text c).ends (hx text c).last fun f hf =>
    .inr ((hx text c).raised f hf)

/-- Going on after a value only, one does not go on after a fault. -/
theorem bind (hx : x.Strict) (hf : ∀ a, (f a).Strict) : (x.bind f).Strict := by
  intro text c
  have hlog := hx text c
  rw [run_bind]
  rcases hr : x.run c with ⟨log, o, d⟩
  rw [hr] at hlog
  cases o with
  | value a => exact hlog.append (by simp) (hf a text d)
  | failure e => exact hlog.congr (by simp)
  | fault e => exact hlog.congr (by simp)

/-- Recovering from parse errors, one does not recover from a fault. -/
theorem attempt (hx : x.Strict) : (attempt x).Strict := by
  intro text c
  have hlog := hx text c
  rw [run_attempt]
  rcases hr : x.run c with ⟨log, o, d⟩
  rw [hr] at hlog
  cases o with
  | value a => exact hlog.congr (by simp)
  | failure e => exact hlog.congr (by simp)
  | fault e => exact hlog.congr (by simp)

theorem pure (a : α) : (pure a).Strict := .alone fun _ _ => nofun

theorem failing (e : ParseError) : (failing e : Logged α).Strict :=
  .alone fun _ _ => nofun

theorem position : position.Strict := .alone fun _ _ => nofun

theorem goto (p : Int) : (goto p).Strict := .alone fun _ _ => nofun

theorem mapValue (g : α → β) (hx : x.Strict) : (x.mapValue g).Strict := hx.bind fun _ => .pure _

theorem transform (g : α → Outcome β) (hx : x.Strict) : (x.transform g).Strict :=
  hx.bind fun _ => .invoke_alone _ _

theorem both {y : Logged β} (hx : x.Strict) (hy : y.Strict) : (x.both y).Strict :=
  hx.bind fun _ => hy.mapValue _

theorem keepLeft {y : Logged β} (hx : x.Strict) (hy : y.Strict) : (x.keepLeft y).Strict :=
  hx.bind fun _ => hy.mapValue _

theorem keepRight {y : Logged β} (hx : x.Strict) (hy : y.Strict) : (x.keepRight y).Strict :=
  hx.bind fun _ => hy

theorem choicesFrom {xs : List (String × Logged α)} (hxs : ∀ entry ∈ xs, entry.2.Strict)
    (labels : List String) (start furthest : Int) (notes : List String) :
    (choicesFrom labels start furthest notes xs).Strict := by
  induction xs generalizing furthest notes with
  | nil =>
    rw [Logged.choicesFrom]
    exact (goto start).bind fun _ => (invoke_alone _ _).bind fun _ => .failing _
  | cons entry rest ih =>
    refine (goto start).bind fun _ => (hxs entry List.mem_cons_self).attempt.bind fun result => ?_
    cases result with
    | ok a => exact .pure a
    | error e =>
      exact position.bind fun stopped =>
        ih (fun entry he => hxs entry (List.mem_cons_of_mem _ he)) _ _

theorem choices {xs : List (String × Logged α)} (hxs : ∀ entry ∈ xs, entry.2.Strict) :
    (choices xs).Strict :=
  (invoke_alone _ _).bind fun _ => choicesFrom hxs _ _ _ _

theorem manyFrom (hx : x.Strict) (limit : Nat) (values : List α) :
    (manyFrom x limit values).Strict := by
  induction limit generalizing values with
  | zero => exact invoke_alone _ _
  | succ limit ih =>
    refine (invoke_alone _ _).bind fun start => hx.attempt.bind fun result => ?_
    cases result with
    | ok v =>
      refine position.bind fun stopped => ?_
      by_cases still : stopped = start
      · rw [if_pos still]
        exact .pure _
      · rw [if_neg still]
        exact ih _
    | error e => exact (goto start).bind fun _ => .pure _

theorem failFrom (start : Int) (issue : Issue) : (failFrom start issue : Logged α).Strict :=
  (invoke_alone _ _).bind fun _ => position.bind fun _ => (invoke_alone _ _).bind fun _ =>
    .failing _

theorem many (patience : Nat) (min : Int) (max : Option Int) (hx : x.Strict) :
    (many patience min max x).Strict := by
  have hrepeated : (repeated patience x).Strict := fun text c =>
    hx.manyFrom (Action.repetitionLimit patience text) [] text c
  refine (invoke_alone _ _).bind fun start => hrepeated.bind fun values => ?_
  split
  · exact .pure values
  · exact .failFrom start _

theorem seqFrom {xs : List (Bool × Logged α)} (hxs : ∀ entry ∈ xs, entry.2.Strict)
    (values : List α) : (seqFrom values xs).Strict := by
  induction xs generalizing values with
  | nil => exact .pure values
  | cons entry rest ih =>
    exact (hxs entry List.mem_cons_self).bind fun _ =>
      ih (fun entry he => hxs entry (List.mem_cons_of_mem _ he)) _

theorem catching (handler : ParseError → Outcome α) (hx : x.Strict) :
    (catching handler x).Strict := by
  refine (invoke_alone _ _).bind fun start => hx.attempt.bind fun result => ?_
  cases result with
  | ok a => exact .pure a
  | error e => exact (goto start).bind fun _ => .invoke_alone _ _

end Strict

end Logged

/-! ## Rules -/

namespace Rule

open Logged

/-- Faults are final for a rule if they are for what it calls. Primitive rules and the actions of
an author call nothing. -/
theorem strict_invoke_loggedLayer {call : List Rule → Rule → Logged Value}
    (hcall : ∀ env s, (call env s).Strict) (patience : Nat) (env : List Rule) (r : Rule) :
    (invoke (.rule r) (loggedLayer patience call env r)).Strict := by
  cases r with
  | tag literal => exact .invoke_alone _ _
  | regex pattern accepts => exact .invoke_alone _ _
  | eof => exact .invoke_alone _ _
  | action run => exact .invoke_alone _ _
  | map f r => exact .invoke _ ((hcall env r).transform f)
  | both r s => exact .invoke _ (((hcall env r).both (hcall env s)).mapValue _)
  | keepLeft r s => exact .invoke _ ((hcall env r).keepLeft (hcall env s))
  | keepRight r s => exact .invoke _ ((hcall env r).keepRight (hcall env s))
  | choices name rs =>
    refine .invoke _ (.choices fun entry he => ?_)
    obtain ⟨s, -, rfl⟩ := List.mem_map.mp he
    exact hcall env s
  | many min max r => exact .invoke _ (((hcall env r).many patience min max).mapValue _)
  | seq rs =>
    refine .invoke _ (.mapValue _ (.seqFrom (fun entry he => ?_) _))
    obtain ⟨s, -, rfl⟩ := List.mem_map.mp he
    exact hcall env s
  | catching handler r => exact .invoke _ ((hcall env r).catching handler)
  | named name r => exact .invoke _ (hcall env r)
  | ignored r => exact .invoke _ (hcall env r)
  | fix level d => exact .invoke _ (hcall _ d)
  | ref level name =>
    rw [loggedLayer]
    cases env[level]? with
    | some d => exact .invoke _ (hcall _ d)
    | none => exact .invoke_alone _ _

/-- Faults are final for every rule, however deeply rules may call each other. -/
theorem strict_logged (patience limit : Nat) (env : List Rule) (r : Rule) :
    (logged patience limit env r).Strict := by
  induction limit generalizing env r with
  | zero => exact .invoke_alone _ _
  | succ limit ih => exact strict_invoke_loggedLayer ih patience env r

end Rule

/-! ## Parsers with a log -/

/-- A way to derive a parser from another one, by any function. -/
inductive Adaptation where
  /-- Values go through the function. -/
  | map (f : Value → Outcome Value)
  /-- Parse errors go through the function. -/
  | mapError (g : ParseError → Outcome ParseError)

namespace Logged

/-- Refuses a text beyond a limit; no limit is in force unless it is positive. -/
def fitting (limit : Int) : Logged Unit := invoke .size (alone ⟨fun {text} c =>
  (if 0 < limit ∧ limit < text.length then .fault (.oversized text.length limit.toNat)
    else .value (), c)⟩)

/-- Puts the value, or the parse error, through the function of an adaptation. -/
def adapt (x : Logged (Value × Location)) : Adaptation → Logged (Value × Location)
  | .map f => do
    let parsed ← x
    let v ← invoke .function (alone ⟨fun c => (f parsed.1, c)⟩)
    pure (v, parsed.2)
  | .mapError g => do
    match ← attempt x with
    | .ok parsed => pure parsed
    | .error e =>
      let e ← invoke .function (alone ⟨fun c => (g e, c)⟩)
      failing e

/-- Runs a rule, and then makes the location of the whole text. -/
def whole (limits : Limits) (top : Rule) : Logged (Value × Location) := ⟨fun {text} c =>
  ((Rule.logged limits.patience limits.depth [] top).bind fun v =>
    (locate 0 text.length).mapValue (v, ·)).run c⟩

/-- A parse with a log: by a rule, for texts up to a limit, with adaptations one after another. -/
def parse (limits : Limits) (top : Rule) (limit : Int) (as : List Adaptation) :
    Logged (Value × Location) := do
  fitting limit
  as.foldl adapt (whole limits top)

theorem Strict.adapt {x : Logged (Value × Location)} (hx : x.Strict) (a : Adaptation) :
    (x.adapt a).Strict := by
  cases a with
  | map f => exact hx.bind fun _ => (invoke_alone _ _).bind fun _ => .pure _
  | mapError g =>
    refine hx.attempt.bind fun result => ?_
    cases result with
    | ok parsed => exact .pure parsed
    | error e => exact (invoke_alone _ _).bind fun _ => .failing _

theorem Strict.adaptAll {x : Logged (Value × Location)} (hx : x.Strict) (as : List Adaptation) :
    (as.foldl Logged.adapt x).Strict := by
  induction as generalizing x with
  | nil => exact hx
  | cons a as ih => exact ih (hx.adapt a)

/-- Faults are final for every parse. -/
theorem strict_parse (limits : Limits) (top : Rule) (limit : Int) (as : List Adaptation) :
    (parse limits top limit as).Strict := by
  have hwhole : (whole limits top).Strict := fun text c =>
    ((Rule.strict_logged _ _ [] top).bind fun _ =>
      (Strict.invoke_alone .location (.locate 0 text.length)).mapValue _) text c
  exact (Strict.invoke_alone _ _).bind fun _ => hwhole.adaptAll as

end Logged

/-! ## Parsers -/

/-- The outcome of a parse, without the cause of an error. -/
def Verdict.outcome : Verdict → Outcome (Value × Location)
  | .parsed v whole => .value (v, whole)
  | .failed failure => .failure failure.error
  | .faulted f => .fault f

namespace Parser

/-- Derives a parser. -/
def adapt (p : Parser) : Adaptation → Parser
  | .map f => p.map f
  | .mapError g => p.mapError g

/-- Derives a parser step by step. -/
def adaptAll (p : Parser) (as : List Adaptation) : Parser := as.foldl adapt p

/-- The ways to ask a parser for the outcome. -/
inductive Method where
  | parse
  | orNull
  | withLocation
  | asPair

/-- The fault of a refusal. -/
def refusal : Except Fault α → Option Fault
  | .ok _ => none
  | .error f => some f

/-- The fault that a method ends with, if it does. -/
def faultOf (p : Parser) (source : String) : Method → Option Fault
  | .parse =>
    match (p.parse source).1 with
    | .faulted f => some f
    | _ => none
  | .orNull => refusal (p.parseOrNull source).1
  | .withLocation => refusal (p.parseWithLocation source).1
  | .asPair => refusal (p.parseAsPair source).1

/-- All methods end with the fault of the verdict. -/
theorem faultOf_eq_some_iff {p : Parser} {source : String} {m : Method} {f : Fault} :
    p.faultOf source m = some f ↔ (p.judge source).1.outcome = .fault f := by
  rcases hj : p.judge source with ⟨v, log⟩
  cases m <;> cases v <;>
    simp [faultOf, refusal, parse, parseOrNull, parseWithLocation, parseAsPair, hj,
      Verdict.outcome]

/-- A parser that is derived has the outcome of the parse that is adapted. -/
theorem outcome_adapt {p : Parser} {source : String} {x : Logged (Value × Location)}
    {c : Cursor text} (h : (p.attempt source).outcome = (x.run c).2.1) (a : Adaptation) :
    ((p.adapt a).attempt source).outcome = ((x.adapt a).run c).2.1 := by
  rcases hr : x.run c with ⟨log, o, d⟩
  rw [hr] at h
  -- the function is run on the value or the error, and on nothing after a fault
  obtain rfl : (p.attempt source).outcome = o := h
  cases a with
  | map f =>
    show ((p.attempt source).map f).outcome = ((x.bind _).run c).2.1
    rw [Logged.run_bind, hr]
    cases p.attempt source with
    | parsed v whole =>
      show ((Verdict.parsed v whole).map f).outcome =
        (((Logged.invoke .function (Logged.alone ⟨fun c => (f v, c)⟩)).bind _).run d).2.1
      rw [Logged.run_bind, Logged.run_invoke_alone, Verdict.map]
      cases f v with
      | value w => rfl
      | failure e => rfl
      | fault e => rfl
    | failed failure => rfl
    | faulted e => rfl
  | mapError g =>
    show ((p.attempt source).mapError g).outcome = (((Logged.attempt x).bind _).run c).2.1
    rw [Logged.run_bind, Logged.run_attempt, hr]
    cases p.attempt source with
    | parsed v whole => rfl
    | failed failure =>
      show ((Verdict.failed failure).mapError g).outcome =
        (((Logged.invoke .function (Logged.alone ⟨fun c => (g failure.error, c)⟩)).bind _).run
          d).2.1
      rw [Logged.run_bind, Logged.run_invoke_alone, Verdict.mapError]
      cases g failure.error with
      | value e => rfl
      | failure e => rfl
      | fault e => rfl
    | faulted e => rfl

theorem outcome_adaptAll {p : Parser} {source : String} {x : Logged (Value × Location)}
    {c : Cursor text} (h : (p.attempt source).outcome = (x.run c).2.1) (as : List Adaptation) :
    ((p.adaptAll as).attempt source).outcome = ((as.foldl Logged.adapt x).run c).2.1 := by
  induction as generalizing p x with
  | nil => exact h
  | cons a as ih => exact ih (outcome_adapt h a)

@[simp] theorem limit_adaptAll (p : Parser) (as : List Adaptation) :
    (p.adaptAll as).limit = p.limit := by
  induction as generalizing p with
  | nil => rfl
  | cons a as ih =>
    refine (ih (p.adapt a)).trans ?_
    cases a <;> rfl

/-- A rule has the outcome of its run with a log. -/
theorem outcome_attemptRule (limits : Limits) (g : Grammar) (top : Rule) (source : String) :
    (attemptRule limits g top source).outcome =
      ((Logged.whole limits top).run (g.cursor source.toList)).2.1 := by
  show _ = (((Rule.logged limits.patience limits.depth [] top).bind fun v =>
    (Logged.locate 0 source.toList.length).mapValue (v, ·)).forget.run _).1
  rw [Logged.forget_bind, Rule.forget_logged, Action.run_bind]
  rcases hr : (top.call limits).run (g.cursor source.toList) with ⟨o, d⟩
  rw [show (Rule.run limits.patience limits.depth [] top).run (g.cursor source.toList) =
    (o, d) from hr]
  cases o with
  | value v =>
    have hlocate : (Logged.locate 0 source.toList.length).forget.run d =
      (.ofPosition (d.locate 0 source.toList.length), d) := rfl
    simp only [attemptRule, hr, Logged.forget_mapValue]
    cases hl : d.locate 0 source.toList.length with
    | ok whole =>
      rw [hl] at hlocate
      rw [Action.mapValue_of_value hlocate]
      rfl
    | error e =>
      rw [hl] at hlocate
      rw [Action.mapValue_of_fault hlocate]
      rfl
  | failure e => rw [attemptRule_of_failure hr]; rfl
  | fault f => rw [attemptRule_of_fault hr]; rfl

/-- A parser that is derived refuses the texts beyond the limit that it was made with. -/
theorem refuses_adaptAll_iff {limits : Limits} {g : Grammar} {top : Rule} {limit : Int}
    {as : List Adaptation} {length : Nat} :
    ((ofRule limits g top limit).adaptAll as).refuses length = true ↔
      0 < limit ∧ limit < length := by
  rw [refuses, limit_adaptAll, ofRule]
  simp

/-- The outcome of every parse is that of the parse with a log. -/
theorem outcome_judge (limits : Limits) (g : Grammar) (top : Rule) (limit : Int)
    (as : List Adaptation) (source : String) :
    (((ofRule limits g top limit).adaptAll as).judge source).1.outcome =
      ((Logged.parse limits top limit as).run (g.cursor source.toList)).2.1 := by
  have hlimit : ((ofRule limits g top limit).adaptAll as).limit = limit := limit_adaptAll _ as
  have hfits : ((ofRule limits g top limit).adaptAll as).refuses source.length = true ↔
      0 < limit ∧ limit < source.toList.length := by
    rw [String.length_toList]
    exact refuses_adaptAll_iff
  show _ = (((Logged.fitting limit).bind fun _ => _).run _).2.1
  rw [Logged.run_bind, Logged.fitting, Logged.run_invoke_alone]
  by_cases hbig : 0 < limit ∧ limit < source.toList.length
  · rw [judge_of_refuses (hfits.mpr hbig), hlimit]
    simp only [if_pos hbig]
    rw [String.length_toList]
    rfl
  · simp only [if_neg hbig, judge, mt hfits.mp hbig]
    exact outcome_adaptAll (outcome_attemptRule limits g top source) as

end Parser

namespace Rule

/-- Only parse errors are recovered from. If anything that is invoked in a run of a rule ends with
a fault, then the run ends with it, the cursor is left where it stood, and nothing is started any
more; and a run ends with a fault only if something that it invoked has raised it. The same is
true of a parse by a rule and functions for values and errors, and its four methods end with
exactly the fault of the parse. All this holds under any limits, so also of a function that is
first called after any number of attempts of a repetition. -/
theorem fault_is_final :
    (∀ (patience limit : Nat) (env : List Rule) (r : Rule) {text : List Char} (c : Cursor text),
      ∃ log, (logged patience limit env r).run c = (log, (run patience limit env r).run c) ∧
        Fatal log ((run patience limit env r).run c).1 ((run patience limit env r).run c).2) ∧
    ∀ (limits : Limits) (g : Grammar) (top : Rule) (limit : Int) (as : List Adaptation)
      (source : String),
      ∃ log o d, (Logged.parse limits top limit as).run (g.cursor source.toList) = (log, o, d) ∧
        Fatal log o d ∧
        (((Parser.ofRule limits g top limit).adaptAll as).parse source).1.outcome = o ∧
        ∀ method f,
          ((Parser.ofRule limits g top limit).adaptAll as).faultOf source method = some f ↔
            o = .fault f := by
  refine ⟨fun patience limit env r text c => ?_, fun limits g top limit as source => ?_⟩
  · have hrun : ((logged patience limit env r).run c).2 = (run patience limit env r).run c := by
      rw [← Logged.run_forget, forget_logged]
    refine ⟨((logged patience limit env r).run c).1, by rw [← hrun], ?_⟩
    rw [← hrun]
    exact strict_logged patience limit env r text c
  · have houtcome := Parser.outcome_judge limits g top limit as source
    have hfatal := Logged.strict_parse limits top limit as _ (g.cursor source.toList)
    rcases hrun : (Logged.parse limits top limit as).run (g.cursor source.toList) with ⟨log, o, d⟩
    rw [hrun] at houtcome hfatal
    refine ⟨log, o, d, rfl, hfatal, houtcome, fun method f => ?_⟩
    rw [Parser.faultOf_eq_some_iff, houtcome]

/-- Looks up each letter that is read, but knows none of them, within a repetition, a choice and
an optional rule. -/
def lookup : Rule :=
  .optional .null (.choices none
    [.many 0 none (.map (fun _ => .fault (.unknownName "a")) (.tag "a")), .tag "ab"])

/-- The unknown name behind the first letter ends the whole run there: the repetition does not end
with what it has, the other alternative is not tried, and the default is not taken. -/
theorem lookup_unknown : ∃ log,
    .finish .function (.fault (.unknownName "a")) ⟨1, .ofList []⟩ ∈ log ∧
    (logged 0 20 [] lookup).run (⟨0, .ofList []⟩ : Cursor "ab".toList) =
      (log, .fault (.unknownName "a"), ⟨1, .ofList []⟩) := by
  obtain ⟨log, hlog, fatal⟩ :=
    fault_is_final.1 0 20 [] lookup (⟨0, .ofList []⟩ : Cursor "ab".toList)
  have hmem : .finish .function (.fault (.unknownName "a")) ⟨1, .ofList []⟩ ∈ log := by
    rw [show log = ((logged 0 20 [] lookup).run ⟨0, .ofList []⟩).1 by rw [hlog]]
    exact List.mem_of_getElem? (i := 15) rfl
  obtain ⟨houtcome, hplace⟩ := fatal.ends _ hmem _ _ ⟨_, rfl⟩
  exact ⟨log, hmem, hlog.trans (by rw [← houtcome, ← hplace])⟩

end Rule

end Descent
