import Descent.Proofs.Backtracking
import Descent.Proofs.Propagation

/-!
# Left recursion

A recursive rule that calls itself before it has read anything (`Rule.LeadsTo`) never comes to an
end: whatever the limit on the depth of calls, it is reached, and the cursor still stands where the
rule began. Since a fault passes through everything, the rules around it and the methods of a parser
end so too.
-/

namespace Descent

namespace Action

variable {α : Type} {text : List Char} {c d : Cursor text}

/-- A fault of the first attempt ends a repetition. -/
theorem repeated_of_fault {x : Action α} {f : Fault} (patience : Nat) (hc : c.Valid)
    (h : x.run c = (.fault f, d)) : (repeated patience x).run c = (.fault f, d) := by
  obtain ⟨n, hn⟩ : ∃ n, repetitionLimit patience text = n + 1 :=
    ⟨text.length + 1 + patience, by rw [repetitionLimit]; omega⟩
  have same : (repeated patience x).run c =
    (manyFrom x (repetitionLimit patience text) []).run c := rfl
  rw [same, hn]
  exact manyFrom_of_fault hc h

/-- A fault of the first alternative ends a choice. -/
theorem choices_of_fault {label : String} {x : Action α} {rest : List (String × Action α)}
    {f : Fault} (hc : c.Valid) (h : x.run c = (.fault f, d)) :
    (choices ((label, x) :: rest)).run c = (.fault f, d) := by
  rw [choices_of_valid hc]
  exact choicesFrom_cons_of_fault h

end Action

namespace Rule

open Descent.Action

variable {patience : Nat}

/-- The first thing that a rule calls, and that is called by this in turn, and so on, is the
definition at a level. -/
inductive LeadsTo (level : Nat) : Rule → Prop
  | ref {name : Option String} : LeadsTo level (.ref level name)
  | map {f : Value → Outcome Value} {r : Rule} (h : LeadsTo level r) : LeadsTo level (.map f r)
  | both {r s : Rule} (h : LeadsTo level r) : LeadsTo level (.both r s)
  | keepLeft {r s : Rule} (h : LeadsTo level r) : LeadsTo level (.keepLeft r s)
  | keepRight {r s : Rule} (h : LeadsTo level r) : LeadsTo level (.keepRight r s)
  | choices {name : Option String} {r : Rule} {rs : List Rule} (h : LeadsTo level r) :
      LeadsTo level (.choices name (r :: rs))
  | many {min : Int} {max : Option Int} {r : Rule} (h : LeadsTo level r) :
      LeadsTo level (.many min max r)
  | seq {r : Rule} {rs : List Rule} (h : LeadsTo level r) : LeadsTo level (.seq (r :: rs))
  | catching {handler : ParseError → Outcome Value} {r : Rule} (h : LeadsTo level r) :
      LeadsTo level (.catching handler r)
  | named {name : String} {r : Rule} (h : LeadsTo level r) : LeadsTo level (.named name r)
  | ignored {r : Rule} (h : LeadsTo level r) : LeadsTo level (.ignored r)
  | fix {inner : Nat} {d : Rule} (hlt : level < inner) (h : LeadsTo level d) :
      LeadsTo level (.fix inner d)

variable {text : List Char} {c : Cursor text} {level : Nat} {d : Rule}

/-- A definition stays at its level when another one is added further inside. -/
theorem getElem?_take_append {env : List Rule} {inner : Nat} (hd : env[level]? = some d)
    (hlt : level < inner) (e : Rule) : (env.take inner ++ [e])[level]? = some d := by
  have hlen : level < env.length := (List.getElem?_eq_some_iff.1 hd).1
  rw [List.getElem?_append_left (by rw [List.length_take]; omega), List.getElem?_take,
    if_pos hlt, hd]

/-- A rule that leads to a definition ends with a fault on the spot if all rules do so that it may
call first. -/
theorem layer_of_leadsTo {call : List Rule → Rule → Action Value} {f : Fault} (hc : c.Valid)
    (hd : LeadsTo level d)
    (hcall : ∀ env r, env[level]? = some d → LeadsTo level r →
      (call env r).run c = (.fault f, c))
    {env : List Rule} (henv : env[level]? = some d) {r : Rule} (hr : LeadsTo level r) :
    (layer patience call env r).run c = (.fault f, c) := by
  cases hr with
  | ref =>
    rw [layer, henv]
    refine hcall _ d ?_ hd
    rw [List.getElem?_take, if_pos (Nat.lt_succ_self level), henv]
  | map h => exact transform_of_fault (hcall env _ henv h)
  | both h => exact mapValue_of_fault (bind_of_fault (hcall env _ henv h))
  | keepLeft h => exact bind_of_fault (hcall env _ henv h)
  | keepRight h => exact bind_of_fault (hcall env _ henv h)
  | choices h => exact choices_of_fault hc (hcall env _ henv h)
  | many h =>
    exact mapValue_of_fault (many_of_fault hc (repeated_of_fault _ hc (hcall env _ henv h)))
  | seq h => exact mapValue_of_fault (seqFrom_cons_of_fault (hcall env _ henv h))
  | catching h => exact catching_of_fault hc (hcall env _ henv h)
  | named h => exact hcall env _ henv h
  | ignored h => exact hcall env _ henv h
  | fix hlt h => exact hcall _ _ (getElem?_take_append henv hlt _) h

/-- A rule that leads to a definition which leads to itself runs out of depth on the spot. -/
theorem run_of_leadsTo (hd : LeadsTo level d) (limit : Nat) {env : List Rule}
    (henv : env[level]? = some d) {r : Rule} (hr : LeadsTo level r) (hc : c.Valid) :
    (run patience limit env r).run c = (.fault .tooDeep, c) := by
  induction limit generalizing env r with
  | zero => rfl
  | succ limit ih => exact layer_of_leadsTo hc hd (fun _ _ henv hr => ih henv hr) henv hr

/-- A recursive definition that leads to itself runs out of depth on the spot. -/
theorem run_fix_of_leadsTo (hd : LeadsTo level d) (limit : Nat) {env : List Rule}
    (henv : level ≤ env.length) (hc : c.Valid) :
    (run patience limit env (.fix level d)).run c = (.fault .tooDeep, c) := by
  cases limit with
  | zero => rfl
  | succ limit =>
    refine run_of_leadsTo hd limit ?_ hd hc
    have hlen : (env.take level).length = level := by rw [List.length_take]; omega
    rw [List.getElem?_append_right (by omega), hlen, Nat.sub_self]
    rfl

/-- A run that starts a definition which leads to itself runs out of depth where it does so. -/
theorem run_of_start_mem (hd : LeadsTo level d) {top : Rule}
    (built : Everywhere WellFormed [] top) (limit : Nat) {place : Cursor text}
    (hplace : place.Valid)
    (h : .start (.rule (.fix level d)) place ∈ ((logged patience limit [] top).run c).1) :
    (run patience limit [] top).run c = (.fault .tooDeep, place) := by
  obtain ⟨calls, hlog, inner, rfl, hall⟩ :=
    isCall_logged (hereditary_throughout WellFormed) limit (.of_everywhere built) c
  rw [Call.eventsAll_singleton] at hlog
  rw [hlog] at h
  obtain ⟨b, ⟨-, hrun⟩, hcallee, rfl, hfinish⟩ := Call.exists_of_start_mem _ hall h
  -- the call that is started there is a run of the definition, which has no end but one
  obtain ⟨n, env, o, wellFormed, hr, hending⟩ := hrun _ hcallee
  rw [run_fix_of_leadsTo hd n wellFormed.here hplace] at hr
  obtain ⟨rfl, hstop⟩ := Prod.mk.inj hr
  rw [← hlog, ← hending, ← hstop] at hfinish
  have final := (strict_logged patience limit [] top text c).ends _ hfinish .tooDeep _ ⟨_, rfl⟩
  rw [← forget_logged]
  exact Prod.ext final.1 final.2

end Rule

namespace Parser

/-- What a rule ends with by a fault, all methods of the parsers derived from it do. -/
theorem faultOf_of_fault {limits : Limits} {g : Grammar} {top : Rule} {limit : Int}
    {source : String} {f : Fault} {d : Cursor source.toList}
    (hfits : (ofRule limits g top limit).refuses source.length = false)
    (h : (top.call limits).run (g.cursor source.toList) = (.fault f, d)) (as : List Adaptation)
    (method : Method) :
    ((ofRule limits g top limit).adaptAll as).faultOf source method = some f := by
  have hattempt : ∀ p : Parser, p.attempt source = .faulted f →
      (p.adaptAll as).attempt source = .faulted f := by
    induction as with
    | nil => exact fun p hp => hp
    | cons a as ih =>
      intro p hp
      refine ih (p.adapt a) ?_
      cases a with
      | map k => exact congrArg (Verdict.map k) hp
      | mapError k => exact congrArg (Verdict.mapError k) hp
  have hrefuses : ((ofRule limits g top limit).adaptAll as).refuses source.length = false := by
    rw [refuses, limit_adaptAll]
    exact hfits
  have hjudge : (((ofRule limits g top limit).adaptAll as).judge source).1 = .faulted f := by
    simp only [judge, hrefuses]
    exact hattempt _ (attemptRule_of_fault h)
  rw [faultOf_eq_some_iff, hjudge]
  rfl

end Parser

namespace Rule

/-- A recursive rule that calls itself before it has read anything runs out of depth, whatever the
limits, with the cursor where it began, under a name or without one. A run in the course of which
such a rule is started from a valid cursor ends so as well, where the rule was started; and if it is
the run of a parser, then all methods of the parser end so, and of those derived from it. -/
theorem leftRecursion_tooDeep {level : Nat} {d : Rule} (leads : LeadsTo level d) :
    (∀ (patience limit : Nat) (env : List Rule), level ≤ env.length →
      ∀ {text : List Char} (c : Cursor text), c.Valid →
        (run patience limit env (.fix level d)).run c = (.fault .tooDeep, c) ∧
        ∀ name,
          (run patience limit env (.named name (.fix level d))).run c = (.fault .tooDeep, c)) ∧
    ∀ top : Rule, Everywhere WellFormed [] top →
      (∀ (patience limit : Nat) {text : List Char} (c place : Cursor text), place.Valid →
        .start (.rule (.fix level d)) place ∈ ((logged patience limit [] top).run c).1 →
        (run patience limit [] top).run c = (.fault .tooDeep, place)) ∧
      ∀ (limits : Limits) (g : Grammar) (limit : Int) (as : List Adaptation) (source : String)
        (place : Cursor source.toList), place.Valid →
        (Parser.ofRule limits g top limit).refuses source.length = false →
        .start (.rule (.fix level d)) place ∈
          ((logged limits.patience limits.depth [] top).run (g.cursor source.toList)).1 →
        ∀ method, ((Parser.ofRule limits g top limit).adaptAll as).faultOf source method =
          some .tooDeep := by
  refine ⟨fun patience limit env henv text c hc => ⟨run_fix_of_leadsTo leads limit henv hc, ?_⟩,
    fun top built => ⟨fun patience limit text c place hplace hstart => ?_, ?_⟩⟩
  · intro name
    cases limit with
    | zero => rfl
    | succ limit => exact run_fix_of_leadsTo leads limit henv hc
  · exact run_of_start_mem leads built limit hplace hstart
  · intro limits g limit as source place hplace hfits hstart method
    exact Parser.faultOf_of_fault hfits
      (run_of_start_mem leads built limits.depth hplace hstart) as method

/-- Letters one after another, with the recursion on the left. -/
def leftLetters : Rule :=
  .choices none [.keepLeft (.named "letters" (.many 0 none (.ref 0 none))) (.tag "a"), .tag "a"]

/-- Such letters in parentheses, or else one parenthesis, or else nothing. -/
def leftGroup : Rule :=
  .optional .null (.choices none [.seq [.tag "(", .fix 0 leftLetters, .tag ")"], .tag "("])

/-- Behind a parenthesis and a blank, no letter is found: the repetition on the left does not end
with what it has, the second alternatives are not tried, and the default is not taken. -/
theorem leftGroup_tooDeep :
    LeadsTo 0 leftLetters ∧ Everywhere WellFormed [] leftGroup ∧
      (run 0 20 [] leftGroup).run (⟨0, .ofList [" "]⟩ : Cursor ['(', ' ', 'a', ')']) =
        (.fault .tooDeep, ⟨2, .ofList [" "]⟩) := by
  have leads : LeadsTo 0 leftLetters := .choices (.keepLeft (.named (.many .ref)))
  have built : Everywhere WellFormed [] leftGroup := by
    simp [leftGroup, leftLetters, optional, WellFormed]
  refine ⟨leads, built, ?_⟩
  refine ((leftRecursion_tooDeep leads).2 leftGroup built).1 0 20 _ _ (by decide) ?_
  exact List.mem_of_getElem? (i := 9) rfl

end Rule

end Descent
