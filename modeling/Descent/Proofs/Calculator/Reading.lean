import Mathlib.Data.List.Forall2
import Descent.Proofs.Calculator.Token
import Descent.Proofs.Limits
import Descent.Proofs.Safety

/-!
# Reading expressions

An action reads the expressions of a kind if it does the following, unless it runs out of depth.
Whatever it gives a value for is the text of an expression with that value. And where the text of an
expression comes next, and cannot go on, it gives the value of that expression, or divides by zero
if the expression does.

Factors are read if sums are, and chains are read if their operands are. A chain is read by
repeating its steps; the steps read so far are the invariant of the repetition.
-/

namespace Descent

/-! ## Repetition with an invariant -/

namespace Action

variable {text : List Char} {α : Type}

/-- Let an invariant of the values and the cursor be kept by every attempt that matches, which has
to move on. Then a repetition comes to a state with the invariant in which an attempt does not match
and decides how the repetition ends. -/
theorem manyFrom_of_invariant {x : Action α} {Inv : List α → Cursor text → Prop}
    (hvalid : ∀ vs c, Inv vs c → c.Valid)
    (hvalue : ∀ vs c v d, Inv vs c → x.run c = (.value v, d) → Inv (vs ++ [v]) d ∧ c.pos < d.pos)
    (hfailure : ∀ vs c e d, Inv vs c → x.run c = (.failure e, d) → d.blanks = c.blanks)
    (reps : Nat) {vs : List α} {c : Cursor text} (h : Inv vs c)
    (hreps : text.length - c.pos < reps) :
    ∃ vs' c', Inv vs' c' ∧
      ((∃ e d, x.run c' = (.failure e, d) ∧ (manyFrom x reps vs).run c = (.value vs', c')) ∨
        ∃ f d, x.run c' = (.fault f, d) ∧ (manyFrom x reps vs).run c = (.fault f, d)) := by
  induction reps generalizing vs c with
  | zero =>
    have := (hvalid vs c h).2
    omega
  | succ reps ih =>
    have hc := hvalid vs c h
    rcases hr : x.run c with ⟨o, d⟩
    cases o with
    | value v =>
      -- fewer characters are ahead, so the repetitions that are left are enough
      obtain ⟨hnext, hmoved⟩ := hvalue vs c v d h hr
      rw [manyFrom_of_value hc hr (by omega)]
      exact ih hnext (by omega)
    | failure e =>
      have hback : d.moveTo c.pos = c := Cursor.eq_of_pos_eq rfl (hfailure vs c e d h hr)
      refine ⟨vs, c, h, .inl ⟨e, d, hr, ?_⟩⟩
      rw [manyFrom_of_failure hc hr, hback]
    | fault f => exact ⟨vs, c, h, .inr ⟨f, d, hr, manyFrom_of_fault hc hr⟩⟩

/-- A repetition without bounds, from a state with an invariant. -/
theorem many_of_invariant {x : Action α} (patience : Nat) (Inv : List α → Cursor text → Prop)
    (hvalid : ∀ vs c, Inv vs c → c.Valid)
    (hvalue : ∀ vs c v d, Inv vs c → x.run c = (.value v, d) → Inv (vs ++ [v]) d ∧ c.pos < d.pos)
    (hfailure : ∀ vs c e d, Inv vs c → x.run c = (.failure e, d) → d.blanks = c.blanks)
    {c : Cursor text} (h : Inv [] c) :
    ∃ vs' c', Inv vs' c' ∧
      ((∃ e d, x.run c' = (.failure e, d) ∧
          (many patience 0 none x).run c = (.value vs', c')) ∨
        ∃ f d, x.run c' = (.fault f, d) ∧ (many patience 0 none x).run c = (.fault f, d)) := by
  have hc := hvalid [] c h
  obtain ⟨vs, c', hinv, hend⟩ := manyFrom_of_invariant hvalid hvalue hfailure
    (repetitionLimit patience text) h (lt_repetitionLimit patience hc)
  refine ⟨vs, c', hinv, ?_⟩
  rcases hend with ⟨e, d, hr, hmany⟩ | ⟨f, d, hr, hmany⟩
  · refine .inl ⟨e, d, hr, many_of_within hc hmany ?_⟩
    simp [withinBounds]
  · exact .inr ⟨f, d, hr, many_of_fault hc hmany⟩

end Action

namespace Calculator

open Descent.Action

variable {text : List Char} {c d : Cursor text}

/-! ## What it is to read expressions -/

/-- An action for expressions of a kind has ended with the value of an expression that comes next,
with a failure, or with a fault of two kinds. -/
inductive Sound (l : Level) (c : Cursor text) : Outcome Value × Cursor text → Prop
  | value (tree : Tree l) {n : Int} {rest : List Char} (value_eq : tree.value = some n)
      (ahead : c.visible = tree.text ++ rest) :
      Sound l c (.value (.int n), c.onto tree.text.length)
  | failure {e : ParseError} {d : Cursor text} (blanks_eq : d.blanks = c.blanks) :
      Sound l c (.failure e, d)
  | divisionByZero {d : Cursor text} : Sound l c (.fault .divisionByZero, d)
  | tooDeep {d : Cursor text} : Sound l c (.fault .tooDeep, d)

/-- An action has ended with the value of the given expression, unless it ran out of depth. -/
inductive Evaluated {l : Level} (tree : Tree l) (c : Cursor text) :
    Outcome Value × Cursor text → Prop
  | value {n : Int} (value_eq : tree.value = some n) :
      Evaluated tree c (.value (.int n), c.onto tree.text.length)
  | divisionByZero {d : Cursor text} (value_eq : tree.value = none) :
      Evaluated tree c (.fault .divisionByZero, d)
  | tooDeep {d : Cursor text} : Evaluated tree c (.fault .tooDeep, d)

/-- An action reads the expressions of a kind. -/
structure Reads (l : Level) (x : Action Value) : Prop where
  sound : ∀ {text : List Char} (c : Cursor text), c.Valid → c.blanks = grammar.blanks →
    Sound l c (x.run c)
  complete : ∀ {text : List Char} (c : Cursor text), c.Valid → c.blanks = grammar.blanks →
    ∀ (tree : Tree l) (rest : List Char), c.visible = tree.text ++ rest → Stops l rest →
      Evaluated tree c (x.run c)

/-- An action that reads expressions still does with less depth. -/
theorem Reads.of_below {l : Level} {x y : Action Value} (h : Below .tooDeep x y) (hy : Reads l y) :
    Reads l x where
  sound := by
    intro text c hc hb
    rcases h.run_cases c with ⟨d, hd⟩ | heq
    · rw [hd]
      exact .tooDeep
    · rw [heq]
      exact hy.sound c hc hb
  complete := by
    intro text c hc hb tree rest hv hrest
    rcases h.run_cases c with ⟨d, hd⟩ | heq
    · rw [hd]
      exact .tooDeep
    · rw [heq]
      exact hy.complete c hc hb tree rest hv hrest

theorem reads_tooDeep (l : Level) : Reads l (fault .tooDeep) :=
  ⟨fun _ _ _ => .tooDeep, fun _ _ _ _ _ _ _ => .tooDeep⟩

/-- Behind a text that comes next, the rest is ahead. -/
theorem visible_onto_append (hc : c.Valid) {front rest : List Char}
    (hv : c.visible = front ++ rest) : (c.onto front.length).visible = rest := by
  rw [Cursor.visible_onto hc, hv, List.drop_left]

/-! ## Factors -/

/-- What matches an expression in parentheses, given what matches one. -/
def groupAction (x : Action Value) : Action Value :=
  ((tagAction "(").keepRight x).keepLeft (tagAction ")")

/-- What matches a factor, given what matches an expression. -/
def factorAction (x : Action Value) : Action Value :=
  Action.choices [("number", numberAction), ("group", groupAction x)]

/-- Behind an opening parenthesis, a group goes on with the expression inside it. -/
theorem groupAction_of_open (hc : c.Valid) (x : Action Value) (h : c.visible.head? = some '(') :
    (groupAction x).run c = (x.keepLeft (tagAction ")")).run (c.onto 1) := by
  have hopen : ((tagAction "(").keepRight x).run c = x.run (c.onto 1) :=
    bind_of_value (tagAction_of_head hc "(" rfl h)
  unfold groupAction keepLeft
  rw [run_bind, run_bind, hopen]

/-- A closing parenthesis ends a group. -/
theorem keepLeft_of_close (hd : d.Valid) {x : Action Value} {v : Value} {k : Nat}
    (hr : x.run d = (.value v, d.onto k)) (h : (d.onto k).visible.head? = some ')') :
    (x.keepLeft (tagAction ")")).run d = (.value v, d.onto (k + 1)) := by
  rw [keepLeft, bind_of_value hr, mapValue_of_value (tagAction_of_head (hd.onto k) ")" rfl h),
    Cursor.onto_onto hd]

theorem onto_group (hc : c.Valid) (inside : Tree (.chain .sum)) :
    (c.onto 1).onto (inside.text.length + 1) = c.onto (Tree.group inside).text.length := by
  rw [Cursor.onto_onto hc, Tree.text, List.length_append, List.length_cons, List.length_singleton]
  congr 1
  omega

theorem groupAction_sound {x : Action Value} (hx : Reads (.chain .sum) x) (hc : c.Valid)
    (hb : c.blanks = grammar.blanks) : Sound .factor c ((groupAction x).run c) := by
  by_cases h : c.visible.head? = some '('
  · obtain ⟨more, hv⟩ := List.head?_eq_some_iff.1 h
    have hmore : (c.onto 1).visible = more := by
      rw [Cursor.visible_onto hc, hv]
      rfl
    have hinside := hx.sound (c.onto 1) (hc.onto 1) hb
    rw [groupAction_of_open hc x h]
    rcases hr : x.run (c.onto 1) with ⟨o, d⟩
    rw [hr] at hinside
    cases hinside with
    | @value tree n rest value_eq ahead =>
      have hrest : ((c.onto 1).onto tree.text.length).visible = rest :=
        visible_onto_append (hc.onto 1) ahead
      by_cases hclose : ((c.onto 1).onto tree.text.length).visible.head? = some ')'
      · rw [keepLeft_of_close (hc.onto 1) hr hclose, onto_group hc]
        rw [hrest] at hclose
        obtain ⟨rest', rfl⟩ := List.head?_eq_some_iff.1 hclose
        have hgroup : c.visible = (Tree.group tree).text ++ rest' := by
          rw [hv, ← hmore, ahead, Tree.text]
          simp
        exact .value (.group tree) value_eq hgroup
      · obtain ⟨e, he⟩ := tagAction_of_not_head ((hc.onto 1).onto _) ")" rfl hclose
        rw [keepLeft, bind_of_value hr, mapValue_of_failure he]
        exact .failure rfl
    | failure blanks_eq =>
      rw [keepLeft, bind_of_failure hr]
      exact .failure blanks_eq
    | divisionByZero =>
      rw [keepLeft, bind_of_fault hr]
      exact .divisionByZero
    | tooDeep =>
      rw [keepLeft, bind_of_fault hr]
      exact .tooDeep
  · obtain ⟨e, he⟩ := tagAction_of_not_head hc "(" rfl h
    have hopen : ((tagAction "(").keepRight x).run c = (.failure e, c.onto 0) := bind_of_failure he
    rw [groupAction, keepLeft, bind_of_failure hopen]
    exact .failure rfl

theorem groupAction_complete {x : Action Value} (hx : Reads (.chain .sum) x) (hc : c.Valid)
    (hb : c.blanks = grammar.blanks) (inside : Tree (.chain .sum)) {rest : List Char}
    (hv : c.visible = (Tree.group inside).text ++ rest) :
    Evaluated (.group inside) c ((groupAction x).run c) := by
  have hv' : c.visible = '(' :: (inside.text ++ ')' :: rest) := by
    rw [hv, Tree.text]
    simp
  have hmore : (c.onto 1).visible = inside.text ++ ')' :: rest := by
    rw [Cursor.visible_onto hc, hv']
    rfl
  have hinside := hx.complete (c.onto 1) (hc.onto 1) hb inside (')' :: rest) hmore
    (stops_cons (by decide) rest)
  rw [groupAction_of_open hc x (by rw [hv']; rfl)]
  rcases hr : x.run (c.onto 1) with ⟨o, d⟩
  rw [hr] at hinside
  cases hinside with
  | value value_eq =>
    have hclose : ((c.onto 1).onto inside.text.length).visible.head? = some ')' := by
      rw [visible_onto_append (hc.onto 1) hmore]
      rfl
    -- the inner expression has stopped before the parenthesis, since none goes on with one
    rw [keepLeft_of_close (hc.onto 1) hr hclose, onto_group hc]
    exact .value value_eq
  | divisionByZero value_eq =>
    rw [keepLeft, bind_of_fault hr]
    exact .divisionByZero value_eq
  | tooDeep =>
    rw [keepLeft, bind_of_fault hr]
    exact .tooDeep

/-- Digits that come next make a number. -/
theorem exists_number (h : ¬ Stops .factor c.visible) :
    ∃ (n : Numeral) (rest : List Char), c.visible = n.digits ++ rest ∧ Stops .factor rest := by
  unfold Stops at h
  push Not at h
  obtain ⟨x, hx, hdigit⟩ := h
  obtain ⟨more, hv⟩ := List.head?_eq_some_iff.1 hx
  have hd : x.isDigit = true := by simpa [Level.continues] using hdigit
  have hnumeral : isNumeral (c.visible.takeWhile Char.isDigit) = true := by
    rw [isNumeral, Bool.and_eq_true]
    refine ⟨?_, List.all_takeWhile⟩
    rw [hv, List.takeWhile_cons_of_pos hd]
    rfl
  refine ⟨⟨_, hnumeral⟩, c.visible.dropWhile Char.isDigit, List.takeWhile_append_dropWhile.symm, ?_⟩
  intro y hy
  have hnot := List.head?_dropWhile_not Char.isDigit c.visible
  rw [hy] at hnot
  simpa [Level.continues] using hnot

/-- Factors are read if sums are. -/
theorem reads_factor {x : Action Value} (hx : Reads (.chain .sum) x) :
    Reads .factor (factorAction x) where
  sound := by
    intro text c hc hb
    by_cases hstop : Stops .factor c.visible
    · obtain ⟨e, he⟩ := numberAction_of_no_digit hc hstop
      have hgroup := groupAction_sound hx hc hb
      rcases hr : (groupAction x).run c with ⟨o, d⟩
      rw [hr] at hgroup
      cases hgroup with
      | value tree value_eq ahead =>
        rw [factorAction, choices_of_second hc he rfl hr (by simp)]
        exact .value tree value_eq ahead
      | failure blanks_eq =>
        obtain ⟨e', he'⟩ := choices_of_failures hc he rfl hr blanks_eq
        rw [factorAction, he']
        exact .failure rfl
      | divisionByZero =>
        rw [factorAction, choices_of_second hc he rfl hr (by simp)]
        exact .divisionByZero
      | tooDeep =>
        rw [factorAction, choices_of_second hc he rfl hr (by simp)]
        exact .tooDeep
    · obtain ⟨n, rest, hv, hrest⟩ := exists_number hstop
      have hnumber := numberAction_of_digits hc hb n hv hrest
      rw [factorAction, choices_of_first hc hnumber (by simp)]
      exact .value (.number n) rfl hv
  complete := by
    intro text c hc hb tree rest hv hrest
    cases tree with
    | number n =>
      have hnumber := numberAction_of_digits hc hb n hv hrest
      rw [factorAction, choices_of_first hc hnumber (by simp)]
      exact .value rfl
    | group inside =>
      -- no numeral begins with a parenthesis, so the first alternative fails on the spot
      have hstop : Stops .factor c.visible := by
        rw [hv]
        exact stops_cons (by decide) _
      obtain ⟨e, he⟩ := numberAction_of_no_digit hc hstop
      have hgroup := groupAction_complete hx hc hb inside hv
      rcases hr : (groupAction x).run c with ⟨o, d⟩
      rw [hr] at hgroup
      have hsecond : (factorAction x).run c = (o, d) :=
        choices_of_second hc he rfl hr (by cases hgroup <;> simp)
      rw [hsecond]
      exact hgroup

/-! ## Steps of chains -/

section Steps

variable {patience : Nat} {chain : Chain} {x : Action Value}

/-- What matches a step of a chain, given what matches an operand. -/
def stepAction (chain : Chain) (x : Action Value) : Action Value :=
  ((operatorAction chain).both x).mapValue fun v => .pair v.1 v.2

/-- The value of a step: the location of its operator, and the value of its operand. -/
def StepValue (s : Operator chain × Tree chain.operand) (v : Value) : Prop :=
  ∃ (l : Location) (b : Int), v = .pair (.location l) (.int b) ∧
    l.lexeme = String.singleton s.1.symbol ∧ s.2.value = some b

/-- Behind an operator, a step goes on with its operand. -/
theorem stepAction_of_symbol (hc : c.Valid) (hb : c.blanks = grammar.blanks) (op : Operator chain)
    (h : c.visible.head? = some op.symbol) (x : Action Value) :
    ∃ l : Location, l.lexeme = String.singleton op.symbol ∧
      (stepAction chain x).run c = (x.mapValue fun v => .pair (.location l) v).run (c.onto 1) := by
  obtain ⟨l, hl, hlexeme⟩ := operatorAction_of_symbol hc hb op h
  refine ⟨l, hlexeme, ?_⟩
  have hboth : ((operatorAction chain).both x).run c =
      (x.mapValue (Value.location l, ·)).run (c.onto 1) := bind_of_value hl
  rcases hr : x.run (c.onto 1) with ⟨o, d⟩
  cases o with
  | value v =>
    rw [mapValue_of_value hr] at hboth ⊢
    exact mapValue_of_value hboth
  | failure e =>
    rw [mapValue_of_failure hr] at hboth ⊢
    exact mapValue_of_failure hboth
  | fault f =>
    rw [mapValue_of_fault hr] at hboth ⊢
    exact mapValue_of_fault hboth

/-- Where no operator of the chain comes next, there is no step. -/
theorem stepAction_of_ne (hc : c.Valid)
    (h : ∀ op : Operator chain, c.visible.head? ≠ some op.symbol)
    (x : Action Value) : ∃ e, (stepAction chain x).run c = (.failure e, c) := by
  obtain ⟨e, he⟩ := operatorAction_of_ne hc h
  exact ⟨e, mapValue_of_failure (bind_of_failure he)⟩

/-- A step has ended with the value of one that comes next, with a failure, or with a fault of two
kinds. -/
inductive StepSound (chain : Chain) (c : Cursor text) : Outcome Value × Cursor text → Prop
  | value (op : Operator chain) (tree : Tree chain.operand) {v : Value} {rest : List Char}
      (step : StepValue (op, tree) v) (ahead : c.visible = stepsText [(op, tree)] ++ rest) :
      StepSound chain c (.value v, c.onto (stepsText [(op, tree)]).length)
  | failure {e : ParseError} {d : Cursor text} (blanks_eq : d.blanks = c.blanks) :
      StepSound chain c (.failure e, d)
  | divisionByZero {d : Cursor text} : StepSound chain c (.fault .divisionByZero, d)
  | tooDeep {d : Cursor text} : StepSound chain c (.fault .tooDeep, d)

theorem onto_step (hc : c.Valid) (op : Operator chain) (tree : Tree chain.operand) :
    (c.onto 1).onto tree.text.length = c.onto (stepsText [(op, tree)]).length := by
  rw [Cursor.onto_onto hc, stepsText_singleton, List.length_cons, Nat.add_comm]

theorem stepAction_sound (hx : Reads chain.operand x) (hc : c.Valid)
    (hb : c.blanks = grammar.blanks) : StepSound chain c ((stepAction chain x).run c) := by
  by_cases h : ∃ op : Operator chain, c.visible.head? = some op.symbol
  · obtain ⟨op, hop⟩ := h
    obtain ⟨more, hv⟩ := List.head?_eq_some_iff.1 hop
    have hmore : (c.onto 1).visible = more := by
      rw [Cursor.visible_onto hc, hv]
      rfl
    obtain ⟨l, hlexeme, hstep⟩ := stepAction_of_symbol hc hb op hop x
    have hoperand := hx.sound (c.onto 1) (hc.onto 1) hb
    rw [hstep]
    rcases hr : x.run (c.onto 1) with ⟨o, d⟩
    rw [hr] at hoperand
    cases hoperand with
    | @value tree n rest value_eq ahead =>
      have hahead : c.visible = stepsText [(op, tree)] ++ rest := by
        rw [hv, stepsText_singleton, List.cons_append, ← ahead, hmore]
      rw [mapValue_of_value hr, onto_step hc op]
      exact .value op tree ⟨l, n, rfl, hlexeme, value_eq⟩ hahead
    | failure blanks_eq =>
      rw [mapValue_of_failure hr]
      exact .failure blanks_eq
    | divisionByZero =>
      rw [mapValue_of_fault hr]
      exact .divisionByZero
    | tooDeep =>
      rw [mapValue_of_fault hr]
      exact .tooDeep
  · obtain ⟨e, he⟩ := stepAction_of_ne hc (fun op hop => h ⟨op, hop⟩) x
    rw [he]
    exact .failure rfl

/-- A step has ended with the value of the given one, unless it ran out of depth. -/
inductive StepEvaluated (op : Operator chain) (tree : Tree chain.operand) (c : Cursor text) :
    Outcome Value × Cursor text → Prop
  | value {v : Value} (step : StepValue (op, tree) v) :
      StepEvaluated op tree c (.value v, c.onto (stepsText [(op, tree)]).length)
  | divisionByZero {d : Cursor text} (value_eq : tree.value = none) :
      StepEvaluated op tree c (.fault .divisionByZero, d)
  | tooDeep {d : Cursor text} : StepEvaluated op tree c (.fault .tooDeep, d)

theorem stepAction_complete (hx : Reads chain.operand x) (hc : c.Valid)
    (hb : c.blanks = grammar.blanks) (op : Operator chain) (tree : Tree chain.operand)
    {rest : List Char} (hv : c.visible = op.symbol :: (tree.text ++ rest))
    (hrest : Stops chain.operand rest) :
    StepEvaluated op tree c ((stepAction chain x).run c) := by
  have hmore : (c.onto 1).visible = tree.text ++ rest := by
    rw [Cursor.visible_onto hc, hv]
    rfl
  obtain ⟨l, hlexeme, hstep⟩ := stepAction_of_symbol hc hb op (by rw [hv]; rfl) x
  have hoperand := hx.complete (c.onto 1) (hc.onto 1) hb tree rest hmore hrest
  rw [hstep]
  rcases hr : x.run (c.onto 1) with ⟨o, d⟩
  rw [hr] at hoperand
  cases hoperand with
  | @value n value_eq =>
    rw [mapValue_of_value hr, onto_step hc op]
    exact .value ⟨l, n, rfl, hlexeme, value_eq⟩
  | divisionByZero value_eq =>
    rw [mapValue_of_fault hr]
    exact .divisionByZero value_eq
  | tooDeep =>
    rw [mapValue_of_fault hr]
    exact .tooDeep

/-! ## Chains -/

/-- A value that there is unless there was a division by zero. -/
def outcomeOf : Option Int → Outcome Value
  | some n => .value (.int n)
  | none => .fault .divisionByZero

/-- One step is applied as its operator says. -/
theorem foldStep_of_stepValue (a : Int) {s : Operator chain × Tree chain.operand} {v : Value}
    (h : StepValue s v) :
    Value.foldStep (.int a) v = outcomeOf (s.2.value.bind fun b => s.1.apply a b) := by
  obtain ⟨op, tree⟩ := s
  obtain ⟨l, b, rfl, hlexeme, hvalue⟩ := h
  rw [show tree.value = some b from hvalue, Option.bind_some]
  have hfold : Value.foldStep (.int a) (.pair (.location l) (.int b)) =
      if ["+", "-", "*", "/"].contains l.lexeme then
        (applyOperator l.lexeme a b).bind fun n => .value (.int n)
      else .fault (.unknownName l.lexeme) := rfl
  rw [hfold, show l.lexeme = String.singleton op.symbol from hlexeme]
  cases op with
  | times => rfl
  | plus => rfl
  | minus => rfl
  | dividedBy =>
    show (if b = 0 then Outcome.fault .divisionByZero else .value (Int.fdiv a b)).bind _ = _
    by_cases hb : b = 0
    · rw [if_pos hb, Operator.apply, if_pos hb]
      rfl
    · rw [if_neg hb, Operator.apply, if_neg hb]
      rfl

/-- The steps of a chain are applied from left to right. -/
theorem foldSteps_of_stepValues {steps : List (Operator chain × Tree chain.operand)}
    {vs : List Value} (h : List.Forall₂ StepValue steps vs) (a : Int) :
    Value.foldSteps (.int a) vs = outcomeOf (stepsValue (some a) steps) := by
  induction h generalizing a with
  | nil => rfl
  | @cons s v steps vs hs _ ih =>
    obtain ⟨op, tree⟩ := s
    rw [Value.foldSteps, foldStep_of_stepValue a hs, stepsValue_cons, Option.bind_some]
    cases tree.value.bind fun b => op.apply a b with
    | none => rw [stepsValue_none]; rfl
    | some n => exact ih n

/-- What matches the steps of a chain, given what matches an operand. -/
def stepsAction (patience : Nat) (chain : Chain) (x : Action Value) : Action (List Value) :=
  Action.many patience 0 none (stepAction chain x)

/-- What matches a chain, given what matches its operands. -/
def chainAction (patience : Nat) (chain : Chain) (x : Action Value) : Action Value :=
  ((x.both ((stepsAction patience chain x).mapValue Value.list)).mapValue fun v =>
    .pair v.1 v.2).transform Value.fold

/-- A chain gives what comes of its steps after its first operand. -/
theorem chainAction_of_steps {a : Int} {vs : List Value} {d' : Cursor text}
    (hfirst : x.run c = (.value (.int a), d))
    (hmany : (stepsAction patience chain x).run d = (.value vs, d'))
    {steps : List (Operator chain × Tree chain.operand)}
    (hsteps : List.Forall₂ StepValue steps vs) :
    (chainAction patience chain x).run c = (outcomeOf (stepsValue (some a) steps), d') := by
  have hboth : (x.both ((stepsAction patience chain x).mapValue Value.list)).run c =
      (.value (.int a, .list vs), d') :=
    (bind_of_value hfirst).trans (mapValue_of_value (mapValue_of_value hmany))
  rw [chainAction, transform_of_value (mapValue_of_value hboth)]
  exact congrArg (·, d') (foldSteps_of_stepValues hsteps a)

theorem chainAction_of_steps_fault {v : Value} {f : Fault} {d' : Cursor text}
    (hfirst : x.run c = (.value v, d))
    (hmany : (stepsAction patience chain x).run d = (.fault f, d')) :
    (chainAction patience chain x).run c = (.fault f, d') := by
  have hboth : (x.both ((stepsAction patience chain x).mapValue Value.list)).run c =
      (.fault f, d') :=
    (bind_of_value hfirst).trans (mapValue_of_fault (mapValue_of_fault hmany))
  exact transform_of_fault (mapValue_of_fault hboth)

theorem chainAction_of_first_fault {f : Fault} (hfirst : x.run c = (.fault f, d)) :
    (chainAction patience chain x).run c = (.fault f, d) :=
  transform_of_fault (mapValue_of_fault (bind_of_fault hfirst))

theorem chainAction_of_first_failure {e : ParseError} (hfirst : x.run c = (.failure e, d)) :
    (chainAction patience chain x).run c = (.failure e, d) :=
  transform_of_failure (mapValue_of_failure (bind_of_failure hfirst))

/-- A step that matches moves on. -/
theorem pos_lt_of_stepAction (hx : Reads chain.operand x) (hc : c.Valid)
    (hb : c.blanks = grammar.blanks) {v : Value} (hr : (stepAction chain x).run c = (.value v, d)) :
    c.pos < d.pos := by
  have hsound := stepAction_sound hx hc hb
  rw [hr] at hsound
  cases hsound with
  | value op tree step ahead =>
    have hpos : 0 < (stepsText [(op, tree)]).length := by
      rw [stepsText_singleton]
      exact Nat.succ_pos _
    have hlen : 0 < (visible c.blanks.skips c.rest).length := by
      rw [← Cursor.visible, ahead, List.length_append]
      omega
    have hgap : c.gap 0 < c.gap (stepsText [(op, tree)]).length := offset_lt_offset hpos hlen
    rw [Cursor.pos_onto]
    omega

/-- A step that fails keeps the blank characters. -/
theorem blanks_of_stepAction (hx : Reads chain.operand x) (hc : c.Valid)
    (hb : c.blanks = grammar.blanks) {e : ParseError}
    (hr : (stepAction chain x).run c = (.failure e, d)) : d.blanks = c.blanks := by
  have hsound := stepAction_sound hx hc hb
  rw [hr] at hsound
  cases hsound with
  | failure blanks_eq => exact blanks_eq

/-- Steps that came next behind a cursor have been read, with these values, up to another one. -/
structure StepsRead (steps : List (Operator chain × Tree chain.operand)) (c : Cursor text)
    (vs : List Value) (d : Cursor text) : Prop where
  values : List.Forall₂ StepValue steps vs
  cursor_eq : d = c.onto (stepsText steps).length

/-- One more step has been read. -/
theorem StepsRead.append (hc : c.Valid) {steps : List (Operator chain × Tree chain.operand)}
    {vs : List Value} (h : StepsRead steps c vs d) {op : Operator chain} {tree : Tree chain.operand}
    {v : Value} (hv : StepValue (op, tree) v) :
    StepsRead (steps ++ [(op, tree)]) c (vs ++ [v]) (d.onto (stepsText [(op, tree)]).length) where
  values := List.rel_append h.values (.cons hv .nil)
  cursor_eq := by
    rw [h.cursor_eq, Cursor.onto_onto hc, stepsText_append, List.length_append]

/-- Some of the steps that come next have been read. -/
def SomeStepsRead (chain : Chain) (c : Cursor text) (vs : List Value) (d : Cursor text) : Prop :=
  ∃ (steps : List (Operator chain × Tree chain.operand)) (rest : List Char),
    c.visible = stepsText steps ++ rest ∧ StepsRead steps c vs d

/-- The first ones of the given steps have been read. -/
def FirstStepsRead (steps : List (Operator chain × Tree chain.operand)) (c : Cursor text)
    (vs : List Value) (d : Cursor text) : Prop :=
  ∃ done todo, steps = done ++ todo ∧ StepsRead done c vs d

theorem StepsRead.valid (hc : c.Valid) {steps : List (Operator chain × Tree chain.operand)}
    {vs : List Value} (h : StepsRead steps c vs d) : d.Valid :=
  h.cursor_eq ▸ hc.onto _

theorem StepsRead.blanks_eq {steps : List (Operator chain × Tree chain.operand)} {vs : List Value}
    (h : StepsRead steps c vs d) : d.blanks = c.blanks := by
  rw [h.cursor_eq]
  rfl

/-- Behind the steps that follow a first operand stands the cursor behind the whole chain. -/
theorem StepsRead.cursor_extend (hc : c.Valid) {first : Tree chain.operand}
    {steps : List (Operator chain × Tree chain.operand)} {vs : List Value}
    (h : StepsRead steps (c.onto first.text.length) vs d) :
    d = c.onto (extend first steps).text.length := by
  rw [h.cursor_eq, Cursor.onto_onto hc, text_extend, List.length_append]

/-- Steps are read until there is no more, or something faults. -/
theorem stepsAction_sound (hx : Reads chain.operand x) (hc : c.Valid)
    (hb : c.blanks = grammar.blanks) (here : c.onto 0 = c) :
    (∃ vs d, SomeStepsRead chain c vs d ∧ (stepsAction patience chain x).run c = (.value vs, d)) ∨
    ∃ f d, (f = .divisionByZero ∨ f = .tooDeep) ∧
      (stepsAction patience chain x).run c = (.fault f, d) := by
  have hcursor : ∀ vs d, SomeStepsRead chain c vs d → d.Valid ∧ d.blanks = grammar.blanks := by
    rintro vs d ⟨steps, rest, -, hread⟩
    exact ⟨hread.valid hc, hread.blanks_eq.trans hb⟩
  -- the invariant of the repetition: what has been read so far are steps
  have hvalue : ∀ vs d v d', SomeStepsRead chain c vs d →
      (stepAction chain x).run d = (.value v, d') →
      SomeStepsRead chain c (vs ++ [v]) d' ∧ d.pos < d'.pos := by
    intro vs d v d' hinv hr
    obtain ⟨hd, hbd⟩ := hcursor vs d hinv
    refine ⟨?_, pos_lt_of_stepAction hx hd hbd hr⟩
    have hsound := stepAction_sound hx hd hbd
    rw [hr] at hsound
    obtain ⟨steps, rest, hv, hread⟩ := hinv
    cases hsound with
    | @value op tree _ rest' step ahead =>
      refine ⟨steps ++ [(op, tree)], rest', ?_, hread.append hc step⟩
      rw [hread.cursor_eq, visible_onto_append hc hv] at ahead
      rw [hv, ahead, stepsText_append, List.append_assoc]
  obtain ⟨vs, d, hinv, hend⟩ := many_of_invariant patience (SomeStepsRead chain c)
    (fun vs d h => (hcursor vs d h).1) hvalue
    (fun vs d e d' h => blanks_of_stepAction hx (hcursor vs d h).1 (hcursor vs d h).2)
    ⟨[], c.visible, rfl, .nil, here.symm⟩
  rcases hend with ⟨e, d', -, hmany⟩ | ⟨f, d', hr, hmany⟩
  · exact .inl ⟨vs, d, hinv, hmany⟩
  · refine .inr ⟨f, d', ?_, hmany⟩
    have hsound := stepAction_sound hx (hcursor vs d hinv).1 (hcursor vs d hinv).2
    rw [hr] at hsound
    cases hsound with
    | divisionByZero => exact .inl rfl
    | tooDeep => exact .inr rfl

/-- Of given steps that come next, one more is read, or all have been read and there is no more. -/
theorem stepAction_of_firstStepsRead (hx : Reads chain.operand x) (hc : c.Valid)
    (hb : c.blanks = grammar.blanks) {steps : List (Operator chain × Tree chain.operand)}
    {rest : List Char} (hv : c.visible = stepsText steps ++ rest)
    (hrest : Stops (.chain chain) rest)
    {vs : List Value} (h : FirstStepsRead steps c vs d) :
    (StepsRead steps c vs d ∧ ∃ e, (stepAction chain x).run d = (.failure e, d)) ∨
    ∃ done op tree todo, steps = done ++ (op, tree) :: todo ∧ StepsRead done c vs d ∧
      StepEvaluated op tree d ((stepAction chain x).run d) := by
  obtain ⟨done, todo, rfl, hread⟩ := h
  have hd : d.Valid := hread.valid hc
  have hahead : d.visible = stepsText todo ++ rest := by
    rw [stepsText_append, List.append_assoc] at hv
    rw [hread.cursor_eq, visible_onto_append hc hv]
  cases todo with
  | nil =>
    -- all steps are done, and what follows is no operator of this chain
    rw [List.append_nil]
    refine .inl ⟨hread, stepAction_of_ne hd (fun op => ?_) x⟩
    rw [hahead]
    exact hrest.ne_symbol op
  | cons s more =>
    obtain ⟨op, tree⟩ := s
    have hbd : d.blanks = grammar.blanks := hread.blanks_eq.trans hb
    rw [stepsText_cons, List.cons_append, List.append_assoc] at hahead
    have hend := stepAction_complete hx hd hbd op tree hahead (hrest.steps more)
    exact .inr ⟨done, op, tree, more, rfl, hread, hend⟩

/-- Given steps that come next are all read, unless an operand of them divides by zero. -/
theorem stepsAction_complete (hx : Reads chain.operand x) (hc : c.Valid)
    (hb : c.blanks = grammar.blanks) (here : c.onto 0 = c)
    {steps : List (Operator chain × Tree chain.operand)} {rest : List Char}
    (hv : c.visible = stepsText steps ++ rest) (hrest : Stops (.chain chain) rest) :
    (∃ vs d, StepsRead steps c vs d ∧ (stepsAction patience chain x).run c = (.value vs, d)) ∨
    (∃ op tree d, (op, tree) ∈ steps ∧ tree.value = none ∧
      (stepsAction patience chain x).run c = (.fault .divisionByZero, d)) ∨
    ∃ d, (stepsAction patience chain x).run c = (.fault .tooDeep, d) := by
  have hcursor : ∀ vs d, FirstStepsRead steps c vs d → d.Valid ∧ d.blanks = grammar.blanks := by
    rintro vs d ⟨done, todo, -, hread⟩
    exact ⟨hread.valid hc, hread.blanks_eq.trans hb⟩
  have hvalue : ∀ vs d v d', FirstStepsRead steps c vs d →
      (stepAction chain x).run d = (.value v, d') →
      FirstStepsRead steps c (vs ++ [v]) d' ∧ d.pos < d'.pos := by
    intro vs d v d' hinv hr
    obtain ⟨hd, hbd⟩ := hcursor vs d hinv
    refine ⟨?_, pos_lt_of_stepAction hx hd hbd hr⟩
    rcases stepAction_of_firstStepsRead hx hc hb hv hrest hinv with
      ⟨-, e, he⟩ | ⟨done, op, tree, todo, hsteps, hread, hstep⟩
    · rw [he] at hr
      cases hr
    · rw [hr] at hstep
      cases hstep with
      | value step =>
        refine ⟨done ++ [(op, tree)], todo, ?_, hread.append hc step⟩
        rw [hsteps, List.append_assoc, List.singleton_append]
  obtain ⟨vs, d, hinv, hend⟩ := many_of_invariant patience (FirstStepsRead steps c)
    (fun vs d h => (hcursor vs d h).1) hvalue
    (fun vs d e d' h => blanks_of_stepAction hx (hcursor vs d h).1 (hcursor vs d h).2)
    ⟨[], steps, rfl, .nil, here.symm⟩
  -- the repetition has come to an attempt that does not match: behind the last step, or at one that
  -- faults
  rcases stepAction_of_firstStepsRead hx hc hb hv hrest hinv with
    ⟨hread, e, he⟩ | ⟨done, op, tree, todo, hsteps, hread, hstep⟩
  · rcases hend with ⟨e', d', hr, hmany⟩ | ⟨f, d', hr, hmany⟩
    · exact .inl ⟨vs, d, hread, hmany⟩
    · rw [he] at hr
      cases hr
  · rcases hend with ⟨e', d', hr, hmany⟩ | ⟨f, d', hr, hmany⟩
    · rw [hr] at hstep
      cases hstep
    · rw [hr] at hstep
      cases hstep with
      | divisionByZero value_eq =>
        have hmem : (op, tree) ∈ steps := by
          rw [hsteps]
          exact List.mem_append_right done List.mem_cons_self
        exact .inr (.inl ⟨op, tree, d', hmem, value_eq, hmany⟩)
      | tooDeep => exact .inr (.inr ⟨d', hmany⟩)

/-- Chains are read if their operands are. -/
theorem reads_chain (hx : Reads chain.operand x) :
    Reads (.chain chain) (chainAction patience chain x) where
  sound := by
    intro text c hc hb
    have hfirst := hx.sound c hc hb
    rcases hr : x.run c with ⟨o, d⟩
    rw [hr] at hfirst
    cases hfirst with
    | @value first a rest value_eq ahead =>
      -- the steps are read from behind the first operand, with blank characters passed over
      have here : (c.onto first.text.length).onto 0 = c.onto first.text.length :=
        Cursor.onto_onto hc _ 0
      rcases stepsAction_sound hx (hc.onto _) hb here with
        ⟨vs, d, ⟨steps, rest', hv, hread⟩, hmany⟩ | ⟨f, d, hf, hmany⟩
      · have hvalue : (extend first steps).value = stepsValue (some a) steps := by
          rw [value_extend, value_eq]
        have hahead : c.visible = (extend first steps).text ++ rest' := by
          rw [visible_onto_append hc ahead] at hv
          rw [ahead, hv, text_extend, List.append_assoc]
        rw [chainAction_of_steps hr hmany hread.values, ← hvalue, hread.cursor_extend hc]
        cases hn : (extend first steps).value with
        | none => exact .divisionByZero
        | some n => exact .value _ hn hahead
      · rw [chainAction_of_steps_fault hr hmany]
        rcases hf with rfl | rfl
        · exact .divisionByZero
        · exact .tooDeep
    | failure blanks_eq =>
      rw [chainAction_of_first_failure hr]
      exact .failure blanks_eq
    | divisionByZero =>
      rw [chainAction_of_first_fault hr]
      exact .divisionByZero
    | tooDeep =>
      rw [chainAction_of_first_fault hr]
      exact .tooDeep
  complete := by
    intro text c hc hb tree rest hv hrest
    obtain ⟨first, steps, rfl⟩ := exists_extend tree
    rw [text_extend, List.append_assoc] at hv
    have hfirst := hx.complete c hc hb first _ hv (hrest.steps steps)
    rcases hr : x.run c with ⟨o, d⟩
    rw [hr] at hfirst
    cases hfirst with
    | @value a value_eq =>
      have here : (c.onto first.text.length).onto 0 = c.onto first.text.length :=
        Cursor.onto_onto hc _ 0
      have hvalue : (extend first steps).value = stepsValue (some a) steps := by
        rw [value_extend, value_eq]
      rcases stepsAction_complete hx (hc.onto _) hb here (visible_onto_append hc hv) hrest with
        ⟨vs, d, hread, hmany⟩ | ⟨op, operand, d, hmem, hnone, hmany⟩ | ⟨d, hmany⟩
      · rw [chainAction_of_steps hr hmany hread.values, ← hvalue, hread.cursor_extend hc]
        cases hn : (extend first steps).value with
        | none => exact .divisionByZero hn
        | some n => exact .value hn
      · -- an operand divides by zero, and then so does the chain, whatever comes before it
        rw [chainAction_of_steps_fault hr hmany]
        exact .divisionByZero (hvalue.trans (stepsValue_of_mem hmem hnone _))
      · rw [chainAction_of_steps_fault hr hmany]
        exact .tooDeep
    | divisionByZero value_eq =>
      rw [chainAction_of_first_fault hr]
      refine .divisionByZero ?_
      rw [value_extend, value_eq, stepsValue_none]
    | tooDeep =>
      rw [chainAction_of_first_fault hr]
      exact .tooDeep

end Steps

end Calculator

end Descent
