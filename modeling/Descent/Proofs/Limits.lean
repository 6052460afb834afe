import Descent.Rule.Run

/-!
# Limits

A fault passes through everything that a rule does, so a run that comes to an end otherwise has
never reached the limit on the depth of calls, and no repetition in it has run out of attempts. A
higher limit then changes nothing: the runs of a rule under all limits agree wherever they do not
end for want of depth or of patience.

Both are the same comparison of two actions, for two faults `stop`: the second does what the first
one does, unless the first one stops with that fault.
-/

namespace Descent

namespace Action

variable {α β : Type} {text : List Char}

variable {stop : Fault}

/-! ## Actions that agree up to a fault -/

/-- Wherever the first action does not stop with the fault, the second one does the same. -/
def Below (stop : Fault) (x y : Action α) : Prop :=
  ∀ ⦃text : List Char⦄ (c : Cursor text), (x.run c).1 = .fault stop ∨ y.run c = x.run c

theorem Below.refl (x : Action α) : Below stop x x := fun _ _ => .inr rfl

theorem Below.trans {x y z : Action α} (hxy : Below stop x y) (hyz : Below stop y z) :
    Below stop x z := by
  intro text c
  rcases hxy c with hx | hx
  · exact .inl hx
  · rcases hyz c with hy | hy
    · exact .inl (by rw [← hx, hy])
    · exact .inr (hy.trans hx)

/-- An action that has stopped is below any other. -/
theorem fault_below (x : Action α) : Below stop (fault stop) x := fun _ _ => .inl rfl

/-- An action below another one stops or does the same. -/
theorem Below.run_cases {x y : Action α} (h : Below stop x y) (c : Cursor text) :
    (∃ d, x.run c = (.fault stop, d)) ∨ x.run c = y.run c := by
  rcases h c with hdeep | heq
  · exact .inl ⟨(x.run c).2, Prod.ext hdeep rfl⟩
  · exact .inr heq.symm

/-- Going on from two actions keeps them in step. -/
theorem Below.bind {x y : Action α} {f g : α → Action β} (h : Below stop x y)
    (hfg : ∀ a, Below stop (f a) (g a)) : Below stop (x.bind f) (y.bind g) := by
  intro text c
  rw [run_bind, run_bind]
  rcases h c with hx | hx
  · left
    rcases hr : x.run c with ⟨o, d⟩
    rw [hr] at hx
    cases hx
    rfl
  · rw [hx]
    rcases x.run c with ⟨o, d⟩
    cases o with
    | value a => exact hfg a d
    | failure e => exact .inr rfl
    | fault e => exact .inr rfl

/-- Putting values through a function keeps two actions in step. -/
theorem Below.transform {x y : Action α} (h : Below stop x y) (f : α → Outcome β) :
    Below stop (x.transform f) (y.transform f) := by
  have same : ∀ z : Action α, z.transform f = z.bind fun a => ⟨fun c => (f a, c)⟩ := fun _ => rfl
  rw [same, same]
  exact h.bind fun a => Below.refl _

theorem Below.mapValue {x y : Action α} (h : Below stop x y) (f : α → β) :
    Below stop (x.mapValue f) (y.mapValue f) :=
  h.transform _

theorem Below.both {x x' : Action α} {y y' : Action β} (hx : Below stop x x')
    (hy : Below stop y y') : Below stop (x.both y) (x'.both y') :=
  hx.bind fun _ => hy.mapValue _

theorem Below.keepLeft {x x' : Action α} {y y' : Action β} (hx : Below stop x x')
    (hy : Below stop y y') : Below stop (x.keepLeft y) (x'.keepLeft y') :=
  hx.bind fun _ => hy.mapValue _

theorem Below.keepRight {x x' : Action α} {y y' : Action β} (hx : Below stop x x')
    (hy : Below stop y y') : Below stop (x.keepRight y) (x'.keepRight y') :=
  hx.bind fun _ => hy

/-- Recovery keeps two actions in step: it does not meet faults. -/
theorem Below.catching {x y : Action α} (h : Below stop x y) (handler : ParseError → Outcome α) :
    Below stop (catching handler x) (catching handler y) := by
  intro text c
  by_cases hv : c.Valid
  · rcases hr : x.run c with ⟨o, d⟩
    have hx := h c
    rw [hr] at hx
    cases o with
    | value a =>
      rw [catching_of_value hv hr, catching_of_value hv (hx.resolve_left (by simp))]
      exact .inr rfl
    | failure e =>
      rw [catching_of_failure hv hr, catching_of_failure hv (hx.resolve_left (by simp))]
      exact .inr rfl
    | fault e =>
      rw [catching_of_fault hv hr]
      exact hx.imp id fun hx => catching_of_fault hv hx
  · right
    simp [Action.catching, Cursor.checked_of_not_valid hv]

/-- A choice keeps its alternatives in step, one after the other. -/
theorem Below.choicesFrom {ι : Type} {f g : ι → Action α} (label : ι → String) (is : List ι)
    (h : ∀ i ∈ is, Below stop (f i) (g i)) (labels : List String) (start furthest : Int)
    (notes : List String) :
    Below stop (choicesFrom labels start furthest notes (is.map fun i => (label i, f i)))
      (choicesFrom labels start furthest notes (is.map fun i => (label i, g i))) := by
  induction is generalizing furthest notes with
  | nil => exact Below.refl _
  | cons i is ih =>
    have hrest := ih fun j hj => h j (List.mem_cons_of_mem i hj)
    intro text c
    rw [List.map_cons, List.map_cons]
    have hx := h i List.mem_cons_self (c.moveTo start)
    rcases hr : (f i).run (c.moveTo start) with ⟨o, d⟩
    rw [hr] at hx
    cases o with
    | value a =>
      rw [choicesFrom_cons_of_value hr, choicesFrom_cons_of_value (hx.resolve_left (by simp))]
      exact .inr rfl
    | failure e =>
      rw [choicesFrom_cons_of_failure hr, choicesFrom_cons_of_failure (hx.resolve_left (by simp))]
      exact hrest _ _ d
    | fault e =>
      rw [choicesFrom_cons_of_fault hr]
      exact hx.imp id fun hx => choicesFrom_cons_of_fault hx

theorem Below.choices {ι : Type} {f g : ι → Action α} (label : ι → String) (is : List ι)
    (h : ∀ i ∈ is, Below stop (f i) (g i)) :
    Below stop (choices (is.map fun i => (label i, f i)))
      (choices (is.map fun i => (label i, g i))) := by
  have labels : ∀ k : ι → Action α,
      (is.map fun i => (label i, k i)).map Prod.fst = is.map label := by
    intro k
    rw [List.map_map]
    rfl
  rw [Action.choices, Action.choices, labels, labels]
  exact (Below.refl mark).bind fun start => Below.choicesFrom label is h _ _ _ _

/-- A choice between two keeps them in step. -/
theorem Below.choices_pair {x x' y y' : Action α} (hx : Below stop x x') (hy : Below stop y y')
    (label label' : String) :
    Below stop (Action.choices [(label, x), (label', y)])
      (Action.choices [(label, x'), (label', y')]) := by
  have h := Below.choices (f := fun b => cond b x y) (g := fun b => cond b x' y')
    (fun b => cond b label label') [true, false] fun b _ => by
      cases b with
      | true => exact hx
      | false => exact hy
  exact h

/-- Two numbers of attempts are the same, or the fault is that of running out of them and the second
is higher. -/
def Suffices (stop : Fault) (m n : Nat) : Prop := m = n ∨ stop = .endless ∧ m ≤ n

/-- A repetition keeps its attempts in step. -/
theorem Below.manyFrom {x y : Action α} (h : Below stop x y) {m n : Nat}
    (hmn : Suffices stop m n) (values : List α) :
    Below stop (manyFrom x m values) (manyFrom y n values) := by
  induction m generalizing n values with
  | zero =>
    rcases hmn with rfl | ⟨rfl, -⟩
    · exact Below.refl _
    · exact fault_below _
  | succ m ih =>
    -- the second repetition has an attempt left whenever the first one has
    obtain ⟨n, rfl⟩ : ∃ k, n = k + 1 := ⟨n - 1, by rcases hmn with h | ⟨-, h⟩ <;> omega⟩
    have hrest : Suffices stop m n := hmn.imp Nat.succ.inj (.imp_right Nat.le_of_succ_le_succ)
    intro text c
    by_cases hv : c.Valid
    · have hx := h c
      rcases hr : x.run c with ⟨o, d⟩
      rw [hr] at hx
      cases o with
      | value a =>
        replace hx := hx.resolve_left (by simp)
        by_cases hm : d.pos = c.pos
        · rw [manyFrom_of_still hv hr hm, manyFrom_of_still hv hx hm]
          exact .inr rfl
        · rw [manyFrom_of_value hv hr hm, manyFrom_of_value hv hx hm]
          exact ih hrest _ d
      | failure e =>
        rw [manyFrom_of_failure hv hr, manyFrom_of_failure hv (hx.resolve_left (by simp))]
        exact .inr rfl
      | fault e =>
        rw [manyFrom_of_fault hv hr]
        exact hx.imp (fun he => by cases he; rfl) fun hx => manyFrom_of_fault hv hx
    · right
      simp [Action.manyFrom, Cursor.checked_of_not_valid hv]

theorem Below.many {x y : Action α} (h : Below stop x y) {p q : Nat} (hpq : Suffices stop p q)
    (min : Int) (max : Option Int) : Below stop (many p min max x) (many q min max y) := by
  have hrep : Below stop (repeated p x) (repeated q y) := fun text c =>
    h.manyFrom (hpq.imp (congrArg _) (.imp_right (Nat.add_le_add_left · _))) [] c
  exact (Below.refl mark).bind fun start => hrep.bind fun values => Below.refl _

/-- A sequence keeps its rules in step. -/
theorem Below.seqFrom {ι : Type} {f g : ι → Action α} (ignored : ι → Bool) (is : List ι)
    (h : ∀ i ∈ is, Below stop (f i) (g i)) (values : List α) :
    Below stop (seqFrom values (is.map fun i => (ignored i, f i)))
      (seqFrom values (is.map fun i => (ignored i, g i))) := by
  induction is generalizing values with
  | nil => exact Below.refl _
  | cons i is ih =>
    rw [List.map_cons, List.map_cons]
    exact (h i List.mem_cons_self).bind fun a =>
      ih (fun j hj => h j (List.mem_cons_of_mem i hj)) _

end Action

namespace Rule

open Descent.Action

/-! ## Runs under different limits -/

/-- The rules that a layer calls decide what it does, and how many attempts its repetition has. -/
theorem layer_below {stop : Fault} {f g : List Rule → Rule → Action Value}
    (h : ∀ env r, Below stop (f env r) (g env r)) {p q : Nat} (hpq : Suffices stop p q)
    (env : List Rule) (r : Rule) : Below stop (layer p f env r) (layer q g env r) := by
  cases r with
  | tag literal => exact Below.refl _
  | regex pattern accepts => exact Below.refl _
  | eof => exact Below.refl _
  | action run => exact Below.refl _
  | map k r => exact (h env r).transform k
  | both r s => exact ((h env r).both (h env s)).mapValue _
  | keepLeft r s => exact (h env r).keepLeft (h env s)
  | keepRight r s => exact (h env r).keepRight (h env s)
  | choices name rs => exact Below.choices label rs fun r _ => h env r
  | many min max r => exact ((h env r).many hpq min max).mapValue _
  | seq rs => exact (Below.seqFrom isIgnored rs (fun r _ => h env r) []).mapValue _
  | catching handler r => exact (h env r).catching handler
  | named name r => exact h env r
  | ignored r => exact h env r
  | fix level d => exact h _ d
  | ref level name =>
    rw [layer, layer]
    cases env[level]? with
    | none => exact Below.refl _
    | some d => exact h _ d

variable {patience : Nat}

/-- A run is below one with more depth. -/
theorem run_below {n m : Nat} (hnm : n ≤ m) (env : List Rule) (r : Rule) :
    Below .tooDeep (run patience n env r) (run patience m env r) := by
  induction n generalizing m env r with
  | zero => exact fault_below _
  | succ n ih =>
    obtain ⟨k, rfl⟩ : ∃ k, m = k + 1 := ⟨m - 1, by omega⟩
    rw [run_succ, run_succ]
    exact layer_below (fun env r => ih (by omega) env r) (.inl rfl) env r

/-- A run is below one with more patience. -/
theorem run_below_patient {p q : Nat} (hpq : p ≤ q) (limit : Nat) (env : List Rule) (r : Rule) :
    Below .endless (run p limit env r) (run q limit env r) := by
  induction limit generalizing env r with
  | zero => exact Below.refl _
  | succ limit ih =>
    rw [run_succ, run_succ]
    exact layer_below ih (.inr ⟨rfl, hpq⟩) env r

/-- A run is below what the rule does with runs of the same depth. -/
theorem run_below_layer (n : Nat) (env : List Rule) (r : Rule) :
    Below .tooDeep (run patience n env r) (layer patience (run patience n) env r) :=
  run_below (Nat.le_succ n) env r

variable {text : List Char} {c : Cursor text}

/-- More depth changes nothing about a run that has not run out of it. -/
theorem run_eq_of_le {n m : Nat} {env : List Rule} {r : Rule} (hnm : n ≤ m)
    (h : ((run patience n env r).run c).1 ≠ .fault .tooDeep) :
    (run patience m env r).run c = (run patience n env r).run c :=
  (run_below hnm env r c).resolve_left h

/-- More patience changes nothing about a run in which no repetition has run out of attempts. -/
theorem run_eq_of_patience_le {p q limit : Nat} {env : List Rule} {r : Rule} (hpq : p ≤ q)
    (h : ((run p limit env r).run c).1 ≠ .fault .endless) :
    (run q limit env r).run c = (run p limit env r).run c :=
  (run_below_patient hpq limit env r c).resolve_left h

/-- Two runs that have not run out of depth are the same. -/
theorem run_eq_run {n m : Nat} {env : List Rule} {r : Rule}
    (hn : ((run patience n env r).run c).1 ≠ .fault .tooDeep)
    (hm : ((run patience m env r).run c).1 ≠ .fault .tooDeep) :
    (run patience n env r).run c = (run patience m env r).run c := by
  rcases Nat.le_total n m with h | h
  · exact (run_eq_of_le h hn).symm
  · exact run_eq_of_le h hm

/-- A run that has not run out of depth has a limit above zero. -/
theorem exists_succ_of_ne_tooDeep {n : Nat} {env : List Rule} {r : Rule}
    (h : ((run patience n env r).run c).1 ≠ .fault .tooDeep) : ∃ limit, n = limit + 1 := by
  cases n with
  | zero => exact absurd rfl h
  | succ limit => exact ⟨limit, rfl⟩

/-- Two runs of a rule under limits of their own are the same, unless the one with the lower limit
has run out of depth. -/
theorem run_cases (limit depth : Nat) (env : List Rule) (r : Rule) (c : Cursor text) :
    (run patience limit env r).run c = (run patience depth env r).run c ∨
      (depth < limit ∧ ((run patience depth env r).run c).1 = .fault .tooDeep) ∨
      (limit < depth ∧ ((run patience limit env r).run c).1 = .fault .tooDeep) := by
  rcases Nat.lt_trichotomy depth limit with h | rfl | h
  · exact (run_below (Nat.le_of_lt h) env r c).elim (fun deep => .inr (.inl ⟨h, deep⟩)) .inl
  · exact .inl rfl
  · exact (run_below (Nat.le_of_lt h) env r c).elim (fun deep => .inr (.inr ⟨h, deep⟩))
      fun same => .inl same.symm

end Rule

end Descent
