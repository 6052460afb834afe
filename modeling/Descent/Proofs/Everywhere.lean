import Descent.Rule.Expr

/-!
# Conditions on a rule and all rules inside it

A rule is run among definitions, one for each level, and the rules that it is made of are run among
the same definitions or, inside a recursive definition, among one more. A condition on a rule and
its definitions holds everywhere in a rule when it holds of the rule and of all rules inside it,
each with the definitions that it is run among. What holds everywhere in a rule and in its
definitions holds again of everything that the rule calls, which is what an induction over the
depth of a run needs.

Building a rule checks it from the inside out, so the conditions of well-formedness hold everywhere
in every rule that is built.
-/

namespace Descent

namespace Rule

/-! ## Everywhere in a rule -/

/-- The rules that a rule is made of, each with the definitions that it is run among. -/
def parts (env : List Rule) : Rule → List (List Rule × Rule)
  | .tag _ => []
  | .regex .. => []
  | .eof => []
  | .action _ => []
  | .map _ r => [(env, r)]
  | .both r s => [(env, r), (env, s)]
  | .keepLeft r s => [(env, r), (env, s)]
  | .keepRight r s => [(env, r), (env, s)]
  | .choices _ rs => rs.map (env, ·)
  | .many _ _ r => [(env, r)]
  | .seq rs => rs.map (env, ·)
  | .catching _ r => [(env, r)]
  | .named _ r => [(env, r)]
  | .ignored r => [(env, r)]
  | .fix level definition => [(env.take level ++ [definition], definition)]
  | .ref .. => []

/-- A condition holds of a rule among the definitions `env`, and of all rules inside it. -/
inductive Everywhere (P : List Rule → Rule → Prop) : List Rule → Rule → Prop
  | intro {env : List Rule} {r : Rule} (here : P env r)
      (inside : ∀ part ∈ parts env r, Everywhere P part.1 part.2) : Everywhere P env r

variable {P Q : List Rule → Rule → Prop} {env : List Rule} {r : Rule}

theorem Everywhere.here (h : Everywhere P env r) : P env r := by
  cases h with
  | intro here _ => exact here

theorem Everywhere.inside (h : Everywhere P env r) {part : List Rule × Rule}
    (hp : part ∈ parts env r) : Everywhere P part.1 part.2 := by
  cases h with
  | intro _ inside => exact inside part hp

/-- A weaker condition holds everywhere too. -/
theorem Everywhere.mono (h : Everywhere P env r) (hPQ : ∀ env r, P env r → Q env r) :
    Everywhere Q env r := by
  induction h with
  | intro here _ ih => exact .intro (hPQ _ _ here) ih

/-- Two conditions that hold everywhere hold together everywhere. -/
theorem Everywhere.and (hP : Everywhere P env r) (hQ : Everywhere Q env r) :
    Everywhere (fun env r => P env r ∧ Q env r) env r := by
  induction hP with
  | intro here _ ih =>
    exact .intro ⟨here, hQ.here⟩ fun part hp => ih part hp (hQ.inside hp)

/-- What holds everywhere in a rule holds everywhere in each rule inside it. -/
theorem Everywhere.everywhere (h : Everywhere P env r) : Everywhere (Everywhere P) env r := by
  induction h with
  | intro here inside ih => exact .intro (.intro here inside) ih

/-- A condition holds everywhere in a rule when it holds of the rule and everywhere in its
parts. -/
theorem everywhere_iff :
    Everywhere P env r ↔ P env r ∧ ∀ part ∈ parts env r, Everywhere P part.1 part.2 :=
  ⟨fun h => ⟨h.here, fun _ hp => h.inside hp⟩, fun h => .intro h.1 h.2⟩

section Constructors

variable {s : Rule} {rs : List Rule} {f : Value → Outcome Value}
  {handler : ParseError → Outcome Value} {name : Option String} {word : String} {level : Nat}
  {min : Int} {max : Option Int} {accepts : List Char → Bool} {run : Action Value}

@[simp] theorem everywhere_tag : Everywhere P env (.tag word) ↔ P env (.tag word) := by
  rw [everywhere_iff]; simp [parts]

@[simp] theorem everywhere_regex :
    Everywhere P env (.regex word accepts) ↔ P env (.regex word accepts) := by
  rw [everywhere_iff]; simp [parts]

@[simp] theorem everywhere_eof : Everywhere P env .eof ↔ P env .eof := by
  rw [everywhere_iff]; simp [parts]

@[simp] theorem everywhere_action : Everywhere P env (.action run) ↔ P env (.action run) := by
  rw [everywhere_iff]; simp [parts]

@[simp] theorem everywhere_map :
    Everywhere P env (.map f r) ↔ P env (.map f r) ∧ Everywhere P env r := by
  rw [everywhere_iff]; simp [parts]

@[simp] theorem everywhere_both : Everywhere P env (.both r s) ↔
    P env (.both r s) ∧ Everywhere P env r ∧ Everywhere P env s := by
  rw [everywhere_iff]; simp [parts]

@[simp] theorem everywhere_keepLeft : Everywhere P env (.keepLeft r s) ↔
    P env (.keepLeft r s) ∧ Everywhere P env r ∧ Everywhere P env s := by
  rw [everywhere_iff]; simp [parts]

@[simp] theorem everywhere_keepRight : Everywhere P env (.keepRight r s) ↔
    P env (.keepRight r s) ∧ Everywhere P env r ∧ Everywhere P env s := by
  rw [everywhere_iff]; simp [parts]

@[simp] theorem everywhere_choices : Everywhere P env (.choices name rs) ↔
    P env (.choices name rs) ∧ ∀ r ∈ rs, Everywhere P env r := by
  rw [everywhere_iff]; simp [parts]

@[simp] theorem everywhere_many : Everywhere P env (.many min max r) ↔
    P env (.many min max r) ∧ Everywhere P env r := by
  rw [everywhere_iff]; simp [parts]

@[simp] theorem everywhere_seq : Everywhere P env (.seq rs) ↔
    P env (.seq rs) ∧ ∀ r ∈ rs, Everywhere P env r := by
  rw [everywhere_iff]; simp [parts]

@[simp] theorem everywhere_catching : Everywhere P env (.catching handler r) ↔
    P env (.catching handler r) ∧ Everywhere P env r := by
  rw [everywhere_iff]; simp [parts]

@[simp] theorem everywhere_named : Everywhere P env (.named word r) ↔
    P env (.named word r) ∧ Everywhere P env r := by
  rw [everywhere_iff]; simp [parts]

@[simp] theorem everywhere_ignored : Everywhere P env (.ignored r) ↔
    P env (.ignored r) ∧ Everywhere P env r := by
  rw [everywhere_iff]; simp [parts]

@[simp] theorem everywhere_fix : Everywhere P env (.fix level r) ↔
    P env (.fix level r) ∧ Everywhere P (env.take level ++ [r]) r := by
  rw [everywhere_iff]; simp [parts]

@[simp] theorem everywhere_ref :
    Everywhere P env (.ref level name) ↔ P env (.ref level name) := by
  rw [everywhere_iff]; simp [parts]

end Constructors

/-! ## Everywhere in a rule and its definitions -/

/-- A condition holds of definitions, each of which is itself among those up to its own level. -/
def Defined (P : List Rule → Rule → Prop) (env : List Rule) : Prop :=
  ∀ i d, env[i]? = some d → P (env.take (i + 1)) d

theorem Defined.nil : Defined P [] := fun i d hd => by simp at hd

/-- A definition is added to the ones around it. -/
theorem Defined.append (h : Defined P env) {level : Nat} {d : Rule}
    (hd : P (env.take level ++ [d]) d) : Defined P (env.take level ++ [d]) := by
  intro i e he
  by_cases hi : i < (env.take level).length
  · rw [List.getElem?_append_left hi, List.getElem?_take] at he
    have hlevel : i < level := by
      rw [List.length_take] at hi
      omega
    rw [if_pos hlevel] at he
    rw [List.take_append_of_le_length (by omega), List.take_take, Nat.min_eq_left (by omega)]
    exact h i e he
  · rw [List.getElem?_append_right (by omega)] at he
    obtain ⟨hlast, hde⟩ : i - (env.take level).length = 0 ∧ d = e := by
      cases hi' : i - (env.take level).length with
      | zero => rw [hi'] at he; exact ⟨rfl, Option.some.inj he⟩
      | succ n => rw [hi'] at he; simp at he
    rw [List.take_of_length_le (by rw [List.length_append, List.length_singleton]; omega), ← hde]
    exact hd

/-- The definitions up to a level are left. -/
theorem Defined.take (h : Defined P env) (n : Nat) : Defined P (env.take n) := by
  intro i e he
  rw [List.getElem?_take] at he
  split at he
  case isTrue hi =>
    rw [List.take_take, Nat.min_eq_left (by omega)]
    exact h i e he
  case isFalse => cases he

/-- A condition holds everywhere in definitions, each of which is itself among those up to its own
level. -/
def Definitions (P : List Rule → Rule → Prop) (env : List Rule) : Prop :=
  ∀ i d, env[i]? = some d → Everywhere P (env.take (i + 1)) d

theorem Definitions.nil : Definitions P [] := Defined.nil

/-- A definition is added to the ones around it. -/
theorem Definitions.append (h : Definitions P env) {level : Nat} {d : Rule}
    (hd : Everywhere P (env.take level ++ [d]) d) : Definitions P (env.take level ++ [d]) :=
  Defined.append h hd

/-- The definitions up to a level are left. -/
theorem Definitions.take (h : Definitions P env) (n : Nat) : Definitions P (env.take n) :=
  Defined.take h n

/-- A condition holds everywhere in a rule and in the definitions that it is run among. -/
structure Throughout (P : List Rule → Rule → Prop) (env : List Rule) (r : Rule) : Prop where
  rule : Everywhere P env r
  definitions : Definitions P env

namespace Throughout

/-- A rule that stands by itself has no definitions around it. -/
theorem of_everywhere (h : Everywhere P [] r) : Throughout P [] r := ⟨h, .nil⟩

theorem here (h : Throughout P env r) : P env r := h.rule.here

theorem mono (h : Throughout P env r) (hPQ : ∀ env r, P env r → Q env r) : Throughout Q env r :=
  ⟨h.rule.mono hPQ, fun i d hd => (h.definitions i d hd).mono hPQ⟩

theorem and (hP : Throughout P env r) (hQ : Throughout Q env r) :
    Throughout (fun env r => P env r ∧ Q env r) env r :=
  ⟨hP.rule.and hQ.rule, fun i d hd => (hP.definitions i d hd).and (hQ.definitions i d hd)⟩

/-- What holds throughout the definitions holds throughout the one that is referred to. -/
theorem definition (h : Throughout P env r) {level : Nat} (hlt : level < env.length) :
    ∃ d, env[level]? = some d ∧ Throughout P (env.take (level + 1)) d := by
  have hd : env[level]? = some env[level] := List.getElem?_eq_getElem hlt
  exact ⟨env[level], hd, h.definitions level _ hd, h.definitions.take (level + 1)⟩

/-- What holds throughout a rule holds throughout each rule inside it. -/
theorem everywhere (h : Throughout P env r) : Everywhere (Throughout P) env r := by
  obtain ⟨hr, definitions⟩ := h
  induction hr with
  | @intro env r here inside ih =>
    refine .intro ⟨.intro here inside, definitions⟩ fun part hp => ih part hp ?_
    cases r with
    | fix level d =>
      cases List.mem_singleton.1 hp
      exact definitions.append (inside _ hp)
    | _ =>
      have same : part.1 = env := by grind [parts]
      rwa [same]

/-! What holds throughout a rule holds throughout the rules that it is made of. -/

variable {s : Rule} {rs : List Rule}

theorem map {f : Value → Outcome Value} (h : Throughout P env (.map f r)) : Throughout P env r :=
  ⟨(everywhere_map.1 h.rule).2, h.definitions⟩

theorem both (h : Throughout P env (.both r s)) : Throughout P env r ∧ Throughout P env s :=
  (everywhere_both.1 h.rule).2.imp (⟨·, h.definitions⟩) (⟨·, h.definitions⟩)

theorem keepLeft (h : Throughout P env (.keepLeft r s)) :
    Throughout P env r ∧ Throughout P env s :=
  (everywhere_keepLeft.1 h.rule).2.imp (⟨·, h.definitions⟩) (⟨·, h.definitions⟩)

theorem keepRight (h : Throughout P env (.keepRight r s)) :
    Throughout P env r ∧ Throughout P env s :=
  (everywhere_keepRight.1 h.rule).2.imp (⟨·, h.definitions⟩) (⟨·, h.definitions⟩)

theorem choices {name : Option String} (h : Throughout P env (.choices name rs)) :
    ∀ r ∈ rs, Throughout P env r :=
  fun r hr => ⟨(everywhere_choices.1 h.rule).2 r hr, h.definitions⟩

theorem many {min : Int} {max : Option Int} (h : Throughout P env (.many min max r)) :
    Throughout P env r :=
  ⟨(everywhere_many.1 h.rule).2, h.definitions⟩

theorem seq (h : Throughout P env (.seq rs)) : ∀ r ∈ rs, Throughout P env r :=
  fun r hr => ⟨(everywhere_seq.1 h.rule).2 r hr, h.definitions⟩

theorem catching {handler : ParseError → Outcome Value}
    (h : Throughout P env (.catching handler r)) : Throughout P env r :=
  ⟨(everywhere_catching.1 h.rule).2, h.definitions⟩

theorem named {name : String} (h : Throughout P env (.named name r)) : Throughout P env r :=
  ⟨(everywhere_named.1 h.rule).2, h.definitions⟩

theorem ignored (h : Throughout P env (.ignored r)) : Throughout P env r :=
  ⟨(everywhere_ignored.1 h.rule).2, h.definitions⟩

/-- A recursive definition is run among one definition more, itself. -/
theorem fix {level : Nat} (h : Throughout P env (.fix level r)) :
    Throughout P (env.take level ++ [r]) r :=
  have hdef := (everywhere_fix.1 h.rule).2
  ⟨hdef, h.definitions.append hdef⟩

end Throughout

/-! ## Well-formed rules -/

/-- What is checked when a rule is built: a literal has characters, a choice has alternatives, the
bounds of a repetition can be met, and only definitions around a rule are referred to. -/
def WellFormed (env : List Rule) : Rule → Prop
  | .tag literal => literal.toList ≠ []
  | .choices _ rs => rs ≠ []
  | .many min max _ => 0 ≤ min ∧ ∀ m ∈ max, min ≤ m
  | .fix level _ => level ≤ env.length
  | .ref level _ => level < env.length
  | _ => True

/-- The bounds of a repetition can be written: no text has integers of more digits than the limit,
so a repetition with larger bounds cannot even tell that they are not met. -/
def ShortBounds (_ : List Rule) : Rule → Prop
  | .many min max _ => Issue.boundDigits min max ≤ digitLimit
  | _ => True

/-- A rule is well formed everywhere when it stands inside `level` definitions or more. -/
def WellFormedFrom (level : Nat) (r : Rule) : Prop :=
  ∀ env : List Rule, level ≤ env.length → Everywhere WellFormed env r

/-- A well-formed rule stays so inside more definitions. -/
theorem WellFormedFrom.mono {level level' : Nat} {r : Rule} (h : WellFormedFrom level r)
    (hle : level ≤ level') : WellFormedFrom level' r :=
  fun env henv => h env (Nat.le_trans hle henv)

end Rule

namespace Expr

open Rule

/-- A computation that may be refused gives a result through that of its first step. -/
theorem exists_of_bind_eq_ok {ε α β : Type} {x : Except ε α} {f : α → Except ε β} {b : β}
    (h : (x >>= f) = .ok b) : ∃ a, x = .ok a ∧ f a = .ok b := by
  cases x with
  | error e => cases h
  | ok a => exact ⟨a, rfl, h⟩

/-- A rule whose parts are the given ones among the same definitions. -/
theorem wellFormedFrom_of_parts {level : Nat} {r : Rule} (rs : List Rule)
    (hparts : ∀ env, parts env r = rs.map (env, ·))
    (here : ∀ env : List Rule, level ≤ env.length → WellFormed env r)
    (inside : ∀ s ∈ rs, WellFormedFrom level s) : WellFormedFrom level r := by
  intro env henv
  refine .intro (here env henv) fun part hp => ?_
  rw [hparts] at hp
  obtain ⟨s, hs, rfl⟩ := List.mem_map.1 hp
  exact inside s hs env henv

/-- A rule without parts. -/
theorem wellFormedFrom_leaf {level : Nat} {r : Rule} (hparts : ∀ env, parts env r = [])
    (here : ∀ env : List Rule, level ≤ env.length → WellFormed env r) : WellFormedFrom level r :=
  wellFormedFrom_of_parts [] hparts here fun _ hs => absurd hs List.not_mem_nil

/-- A rule with one part. -/
theorem wellFormedFrom_around {level : Nat} {r s : Rule} (hparts : ∀ env, parts env r = [(env, s)])
    (here : ∀ env, WellFormed env r) (hs : WellFormedFrom level s) : WellFormedFrom level r := by
  refine wellFormedFrom_of_parts [s] hparts (fun env _ => here env) fun t ht => ?_
  cases List.mem_singleton.1 ht
  exact hs

/-- A recursive rule whose definition is well formed where there is one definition more. -/
theorem wellFormedFrom_fix {level : Nat} {d : Rule} (hd : WellFormedFrom (level + 1) d) :
    WellFormedFrom level (.fix level d) := by
  intro env henv
  refine .intro henv fun part hp => ?_
  cases List.mem_singleton.1 hp
  refine hd _ ?_
  rw [List.length_append, List.length_take, List.length_singleton]
  omega

/-- One variable more in scope. -/
theorem wellFormedFrom_lookup_cons {level : Nat} {scope : List (String × Rule)} {x : String}
    {s : Rule} (hs : WellFormedFrom level s)
    (hscope : ∀ y t, scope.lookup y = some t → WellFormedFrom level t) :
    ∀ y t, ((x, s) :: scope).lookup y = some t → WellFormedFrom level t := by
  intro y t hy
  rw [List.lookup_cons] at hy
  split at hy
  · cases hy
    exact hs
  · exact hscope y t hy

/-- A rule around one other rule is well formed when that one is. -/
theorem wellFormedFrom_wrap {level : Nat} (wrap : Rule → Rule) {x : Except Fault Rule} {r : Rule}
    (hparts : ∀ env s, parts env (wrap s) = [(env, s)]) (here : ∀ env s, WellFormed env (wrap s))
    (hx : ∀ s, x = .ok s → WellFormedFrom level s) (h : (do return wrap (← x)) = .ok r) :
    WellFormedFrom level r := by
  obtain ⟨s, hs, h⟩ := exists_of_bind_eq_ok h
  cases h
  exact wellFormedFrom_around (fun env => hparts env s) (fun env => here env s) (hx s hs)

/-- A rule around two other rules is well formed when these are. -/
theorem wellFormedFrom_join {level : Nat} (join : Rule → Rule → Rule) {x y : Except Fault Rule}
    {r : Rule} (hparts : ∀ env s t, parts env (join s t) = [(env, s), (env, t)])
    (here : ∀ env s t, WellFormed env (join s t)) (hx : ∀ s, x = .ok s → WellFormedFrom level s)
    (hy : ∀ s, y = .ok s → WellFormedFrom level s) (h : (do return join (← x) (← y)) = .ok r) :
    WellFormedFrom level r := by
  obtain ⟨s, hs, h⟩ := exists_of_bind_eq_ok h
  obtain ⟨t, ht, h⟩ := exists_of_bind_eq_ok h
  cases h
  refine wellFormedFrom_of_parts [s, t] (fun env => hparts env s t)
    (fun env _ => here env s t) ?_
  intro u hu
  rcases List.mem_cons.1 hu with rfl | hu
  · exact hx _ hs
  · cases List.mem_singleton.1 hu
    exact hy _ ht

mutual

/-- Building gives well-formed rules, if the variables in scope stand for such. -/
theorem wellFormedFrom_build : ∀ (e : Expr) {scope : List (String × Rule)} {level : Nat} {r : Rule},
    (∀ x s, scope.lookup x = some s → WellFormedFrom level s) → e.build scope level = .ok r →
      WellFormedFrom level r
  | .tag literal, scope, level, r, _, h => by
    rw [build] at h
    split at h
    · cases h
    · next hne =>
      cases h
      refine wellFormedFrom_leaf (fun _ => rfl) fun env _ => ?_
      show literal.toList ≠ []
      simpa [String.isEmpty_iff] using hne
  | .regex pattern modes, scope, level, r, _, h => by
    rw [build, ofPattern] at h
    split at h
    · cases h
      exact wellFormedFrom_leaf (fun _ => rfl) fun _ _ => trivial
    · cases h
  | .eof, scope, level, r, _, h => by
    cases h
    exact wellFormedFrom_leaf (fun _ => rfl) fun _ _ => trivial
  | .action run, scope, level, r, _, h => by
    cases h
    exact wellFormedFrom_leaf (fun _ => rfl) fun _ _ => trivial
  | .choices name es, scope, level, r, hs, h => by
    rw [build] at h
    obtain ⟨rs, hrs, h⟩ := exists_of_bind_eq_ok h
    split at h
    · cases h
    · next hne =>
      cases h
      refine wellFormedFrom_of_parts rs (fun env => rfl) (fun env _ => ?_)
        (wellFormedFrom_buildAll es hs hrs)
      show rs ≠ []
      simpa using hne
  | .many min max e, scope, level, r, hs, h => by
    rw [build] at h
    obtain ⟨s, hsb, h⟩ := exists_of_bind_eq_ok h
    split at h
    · cases h
    · next hbounds =>
      cases h
      refine wellFormedFrom_around (fun _ => rfl) (fun env => ?_) (wellFormedFrom_build e hs hsb)
      show 0 ≤ min ∧ ∀ m ∈ max, min ≤ m
      cases max <;> simp_all
  | .seq es, scope, level, r, hs, h => by
    rw [build] at h
    obtain ⟨rs, hrs, h⟩ := exists_of_bind_eq_ok h
    cases h
    exact wellFormedFrom_of_parts rs (fun env => rfl) (fun env _ => trivial)
      (wellFormedFrom_buildAll es hs hrs)
  | .recursive x name runsEarly body, scope, level, r, hs, h => by
    rw [build] at h
    split at h
    · cases h
    · obtain ⟨d, hd, h⟩ := exists_of_bind_eq_ok h
      -- inside the definition the variable stands for a reference to it
      have href : WellFormedFrom (level + 1) (.ref level name) :=
        wellFormedFrom_leaf (fun _ => rfl) fun _ henv => henv
      have hdef := wellFormedFrom_build body (wellFormedFrom_lookup_cons href
        fun y s hy => (hs y s hy).mono (Nat.le_succ _)) hd
      have hfix := wellFormedFrom_fix hdef
      cases name with
      | none => cases h; exact hfix
      | some n =>
        cases h
        exact wellFormedFrom_around (fun _ => rfl) (fun _ => trivial) hfix
  | .bind x e body, scope, level, r, hs, h => by
    rw [build] at h
    obtain ⟨s, hsb, h⟩ := exists_of_bind_eq_ok h
    exact wellFormedFrom_build body
      (wellFormedFrom_lookup_cons (wellFormedFrom_build e hs hsb) hs) h
  | .var name, scope, level, r, hs, h => by
    rw [build] at h
    split at h
    · next rule hlook =>
      cases h
      exact hs name _ hlook
    · cases h
  | .both e f, scope, level, r, hs, h => by
    rw [build] at h
    exact wellFormedFrom_join .both (fun _ _ _ => rfl) (fun _ _ _ => trivial)
      (fun _ => wellFormedFrom_build e hs) (fun _ => wellFormedFrom_build f hs) h
  | .keepLeft e f, scope, level, r, hs, h => by
    rw [build] at h
    exact wellFormedFrom_join .keepLeft (fun _ _ _ => rfl) (fun _ _ _ => trivial)
      (fun _ => wellFormedFrom_build e hs) (fun _ => wellFormedFrom_build f hs) h
  | .keepRight e f, scope, level, r, hs, h => by
    rw [build] at h
    exact wellFormedFrom_join .keepRight (fun _ _ _ => rfl) (fun _ _ _ => trivial)
      (fun _ => wellFormedFrom_build e hs) (fun _ => wellFormedFrom_build f hs) h
  | .orElse e f, scope, level, r, hs, h => by
    rw [build] at h
    exact wellFormedFrom_join .orElse (fun _ _ _ => rfl) (fun _ _ _ => List.cons_ne_nil _ _)
      (fun _ => wellFormedFrom_build e hs) (fun _ => wellFormedFrom_build f hs) h
  | .map f e, scope, level, r, hs, h => by
    rw [build] at h
    exact wellFormedFrom_wrap (.map f) (fun _ _ => rfl) (fun _ _ => trivial)
      (fun _ => wellFormedFrom_build e hs) h
  | .catching handler e, scope, level, r, hs, h => by
    rw [build] at h
    exact wellFormedFrom_wrap (.catching handler) (fun _ _ => rfl) (fun _ _ => trivial)
      (fun _ => wellFormedFrom_build e hs) h
  | .optional default e, scope, level, r, hs, h => by
    rw [build] at h
    exact wellFormedFrom_wrap (.optional default) (fun _ _ => rfl) (fun _ _ => trivial)
      (fun _ => wellFormedFrom_build e hs) h
  | .named name e, scope, level, r, hs, h => by
    rw [build] at h
    exact wellFormedFrom_wrap (.named name) (fun _ _ => rfl) (fun _ _ => trivial)
      (fun _ => wellFormedFrom_build e hs) h
  | .ignored e, scope, level, r, hs, h => by
    rw [build] at h
    exact wellFormedFrom_wrap .ignored (fun _ _ => rfl) (fun _ _ => trivial)
      (fun _ => wellFormedFrom_build e hs) h

/-- The same for several expressions. -/
theorem wellFormedFrom_buildAll : ∀ (es : List Expr) {scope : List (String × Rule)} {level : Nat}
    {rs : List Rule}, (∀ x s, scope.lookup x = some s → WellFormedFrom level s) →
      buildAll scope level es = .ok rs → ∀ r ∈ rs, WellFormedFrom level r
  | [], scope, level, rs, _, h => by
    cases h
    simp
  | e :: es, scope, level, rs, hs, h => by
    rw [buildAll] at h
    obtain ⟨s, hsb, h⟩ := exists_of_bind_eq_ok h
    obtain ⟨ss, hss, h⟩ := exists_of_bind_eq_ok h
    cases h
    intro t ht
    rcases List.mem_cons.1 ht with rfl | ht
    · exact wellFormedFrom_build e hs hsb
    · exact wellFormedFrom_buildAll es hs hss t ht

end

/-- Every rule that is built is well formed, with all rules inside it. -/
theorem everywhere_wellFormed_of_rule {e : Expr} {r : Rule} (h : e.rule = .ok r) :
    Everywhere WellFormed [] r :=
  wellFormedFrom_build e (fun x s hs => by simp at hs) h [] (Nat.le_refl _)

end Expr

end Descent
