import Descent.Proofs.Calculator.Reading

/-!
# The calculator is correct

The rules of the calculator read the expressions of their kinds, by induction on the depth of their
calls: with one more level of depth, a rule does no more than what reads its expressions if the
rules that it calls read theirs.

So the parser gives the value of every text that is an expression but for blank characters, or
divides by zero exactly if the expression does. For any other text it does not give a value: it
fails, or has divided by zero before it could.
-/

namespace Descent

namespace Calculator

open Descent.Action

variable {patience : Nat}

/-! ## Rules and what they do -/

/-- The definition of an expression, to which the rules inside it refer. -/
def body : Rule := chain additive (term none)

/-- The rule for the expressions of a kind. -/
def ruleAt : Level → Rule
  | .factor => factor none
  | .chain .product => term none
  | .chain .sum => body

/-- The rule for the operators of a chain. -/
def operatorRule : Chain → Rule
  | .product => multiplicative
  | .sum => additive

theorem ruleAt_chain (c : Chain) :
    ruleAt (.chain c) = chain (operatorRule c) (ruleAt c.operand) := by
  cases c <;> rfl

open Rule

variable (limit : Nat)

theorem tag_below (env : List Rule) (literal : String) :
    Below .tooDeep (run patience limit env (.tag literal)) (tagAction literal) :=
  run_below_layer limit env (.tag literal)

theorem number_below (env : List Rule) :
    Below .tooDeep (run patience limit env (number none)) numberAction := by
  refine (run_below_layer limit env (number none)).trans ?_
  refine (run_below_layer limit env (.map _ (.regex "[0-9]+" isNumeral))).trans ?_
  exact (run_below_layer limit env (.regex "[0-9]+" isNumeral)).transform _

theorem operator_below (env : List Rule) (c : Chain) :
    Below .tooDeep (run patience limit env (operatorRule c)) (operatorAction c) := by
  have hpair : ∀ first second : String,
      Below .tooDeep (run patience limit env (.choices (some "operator") [.tag first, .tag second]))
        (Action.choices [(first, tagAction first), (second, tagAction second)]) := by
    intro first second
    refine (run_below_layer limit env _).trans ?_
    exact Below.choices_pair (tag_below limit env first) (tag_below limit env second) first second
  cases c with
  | product => exact hpair "*" "/"
  | sum => exact hpair "+" "-"

theorem group_below :
    Below .tooDeep (run patience limit [body] group)
      (groupAction (run patience limit [body] body)) := by
  have hinner :
      Below .tooDeep (run patience limit [body] inner) (run patience limit [body] body) :=
    run_below_layer limit [body] inner
  have hopen : Below .tooDeep (run patience limit [body] (.keepRight (.tag "(") inner))
      ((tagAction "(").keepRight (run patience limit [body] body)) :=
    (run_below_layer limit [body] (.keepRight (.tag "(") inner)).trans
      ((tag_below limit [body] "(").keepRight hinner)
  refine (run_below_layer limit [body] group).trans ?_
  refine (run_below_layer limit [body]
    (.keepLeft (.keepRight (.tag "(") inner) (.tag ")"))).trans ?_
  exact hopen.keepLeft (tag_below limit [body] ")")

/-- With one more level of depth, a factor is what reads factors around the run of an
expression. -/
theorem factor_below :
    Below .tooDeep (run patience (limit + 1) [body] (factor none))
      (factorAction (run patience limit [body] body)) :=
  Below.choices_pair (number_below limit [body]) (group_below limit) "number" "group"

/-- With one more level of depth, a chain is what reads chains around the runs of its operands. -/
theorem chain_below (env : List Rule) (c : Chain) (operand : Rule) :
    Below .tooDeep (run patience (limit + 1) env (chain (operatorRule c) operand))
      (chainAction patience c (run patience limit env operand)) := by
  have hstep : Below .tooDeep (run patience limit env (.both (operatorRule c) operand))
      (stepAction c (run patience limit env operand)) :=
    (run_below_layer limit env (.both (operatorRule c) operand)).trans
      (((operator_below limit env c).both (Below.refl _)).mapValue _)
  have hsteps :
      Below .tooDeep (run patience limit env (.many 0 none (.both (operatorRule c) operand)))
      ((stepsAction patience c (run patience limit env operand)).mapValue Value.list) :=
    (run_below_layer limit env (.many 0 none (.both (operatorRule c) operand))).trans
      ((hstep.many (.inl rfl) 0 none).mapValue _)
  refine Below.transform ?_ Value.fold
  refine (run_below_layer limit env _).trans ?_
  exact ((Below.refl _).both hsteps).mapValue _

/-- The rule for the expressions of a kind reads them, however deep the calls may be. -/
theorem reads_ruleAt (l : Level) : Reads l (run patience limit [body] (ruleAt l)) := by
  -- all kinds at once: a sum calls products, these call factors, and a factor calls sums
  induction limit generalizing l with
  | zero => exact reads_tooDeep l
  | succ limit ih =>
    cases l with
    | factor => exact (reads_factor (ih (.chain .sum))).of_below (factor_below limit)
    | chain c =>
      rw [ruleAt_chain]
      exact (reads_chain (ih c.operand)).of_below (chain_below limit [body] c _)

/-! ## Whole texts -/

/-- The end of the text, for its location. -/
def eofAction : Action Value := Action.eof.mapValue .location

/-- The whole rule is an expression and then the end of the text. -/
theorem top_below :
    Below .tooDeep (run patience limit [] (top none))
      ((run patience limit [body] body).keepLeft eofAction) := by
  have hexpression : Below .tooDeep (run patience limit [] (expression none))
      (run patience limit [body] body) :=
    (run_below_layer limit [] (expression none)).trans
      (run_below_layer limit [] (.fix 0 body))
  refine (run_below_layer limit [] (top none)).trans ?_
  exact hexpression.keepLeft (run_below_layer limit [] .eof)

variable {text : List Char} {c d : Cursor text}

/-- An expression with nothing behind it is a whole text. -/
theorem keepLeft_of_end (hd : d.Valid) {x : Action Value} {v : Value} (hr : x.run c = (.value v, d))
    (h : d.visible = []) : (x.keepLeft eofAction).run c = (.value v, d.onto 0) := by
  have heof := eof_of_valid hd
  rw [h] at heof
  exact (bind_of_value hr).trans (mapValue_of_value (mapValue_of_value heof))

/-- An expression with something behind it is not a whole text. -/
theorem keepLeft_of_more (hd : d.Valid) {x : Action Value} {v : Value}
    (hr : x.run c = (.value v, d)) (h : d.visible ≠ []) :
    ∃ e, (x.keepLeft eofAction).run c = (.failure e, d.onto 0) := by
  obtain ⟨found, more, hv⟩ := List.exists_cons_of_ne_nil h
  have heof := eof_of_valid hd
  rw [hv] at heof
  exact ⟨_, (bind_of_value hr).trans (mapValue_of_failure (mapValue_of_failure heof))⟩

/-- What the whole rule comes to, unless it runs out of depth: the value of an expression that is
all there is to see, a failure, or a division by zero. -/
inductive Whole (c : Cursor text) : Outcome Value × Cursor text → Prop
  | value (tree : Tree (.chain .sum)) {n : Int} {d : Cursor text} (value_eq : tree.value = some n)
      (text_eq : tree.text = c.visible) : Whole c (.value (.int n), d)
  | failure {e : ParseError} {d : Cursor text} : Whole c (.failure e, d)
  | divisionByZero {d : Cursor text} : Whole c (.fault .divisionByZero, d)
  | tooDeep {d : Cursor text} : Whole c (.fault .tooDeep, d)

/-- A value of the whole rule is that of an expression. -/
theorem top_sound (hc : c.Valid) (hb : c.blanks = grammar.blanks) :
    Whole c ((run patience limit [] (top none)).run c) := by
  rcases (top_below limit).run_cases c with ⟨d, hd⟩ | heq
  · rw [hd]
    exact .tooDeep
  rw [heq]
  have hbody : Sound (.chain .sum) c ((run patience limit [body] body).run c) :=
    (reads_ruleAt limit (.chain .sum)).sound c hc hb
  rcases hr : (run patience limit [body] body).run c with ⟨o, d⟩
  rw [hr] at hbody
  cases hbody with
  | @value tree n rest value_eq ahead =>
    have hd : (c.onto tree.text.length).Valid := hc.onto _
    have hrest : (c.onto tree.text.length).visible = rest := visible_onto_append hc ahead
    -- the expression that was read is the whole text, or there is more behind it
    by_cases hnil : rest = []
    · rw [keepLeft_of_end hd hr (hrest.trans hnil)]
      refine .value tree value_eq ?_
      rw [ahead, hnil, List.append_nil]
    · obtain ⟨e, he⟩ := keepLeft_of_more hd hr (fun h => hnil (hrest.symm.trans h))
      rw [he]
      exact .failure
  | failure =>
    rw [Action.keepLeft, bind_of_failure hr]
    exact .failure
  | divisionByZero =>
    rw [Action.keepLeft, bind_of_fault hr]
    exact .divisionByZero
  | tooDeep =>
    rw [Action.keepLeft, bind_of_fault hr]
    exact .tooDeep

/-- The whole rule evaluates an expression that is all there is to see. -/
theorem top_complete (hc : c.Valid) (hb : c.blanks = grammar.blanks)
    {tree : Tree (.chain .sum)} (htext : tree.text = c.visible) :
    (∃ n d, tree.value = some n ∧
      (run patience limit [] (top none)).run c = (.value (.int n), d)) ∨
    (∃ d, tree.value = none ∧
      (run patience limit [] (top none)).run c = (.fault .divisionByZero, d)) ∨
    ∃ d, (run patience limit [] (top none)).run c = (.fault .tooDeep, d) := by
  rcases (top_below limit).run_cases c with ⟨d, hd⟩ | heq
  · exact .inr (.inr ⟨d, hd⟩)
  rw [heq]
  have hv : c.visible = tree.text ++ [] := by rw [htext, List.append_nil]
  have hbody : Evaluated tree c ((run patience limit [body] body).run c) :=
    (reads_ruleAt limit (.chain .sum)).complete c hc hb tree [] hv (stops_nil _)
  rcases hr : (run patience limit [body] body).run c with ⟨o, d⟩
  rw [hr] at hbody
  cases hbody with
  | @value n value_eq =>
    exact .inl ⟨n, _, value_eq, keepLeft_of_end (hc.onto _) hr (visible_onto_append hc hv)⟩
  | divisionByZero value_eq => exact .inr (.inl ⟨d, value_eq, bind_of_fault hr⟩)
  | tooDeep => exact .inr (.inr ⟨d, bind_of_fault hr⟩)

/-! ## The parser -/

/-- The characters of a text other than space, tab, carriage return and line end. -/
def squeezed (source : String) : List Char :=
  source.toList.filter fun x => !(x == ' ' || x == '\t' || x == '\r' || x == '\n')

theorem visible_cursor (source : String) :
    (grammar.cursor source.toList).visible = squeezed source := by
  show (source.toList.drop 0).filter (fun x => !grammar.blanks.skips x) = squeezed source
  rw [List.drop_zero, squeezed]
  refine List.filter_congr fun x _ => congrArg Bool.not ?_
  rw [Bool.eq_iff_iff, skips_iff]
  simp [or_assoc]

/-- Within the limit, the parser does what the whole rule does. -/
theorem parse_eq_attemptRule (limits : Limits) {source : String}
    (hlen : (source.length : Int) ≤ Parser.defaultLimit) :
    ((parserFor limits none).parse source).1 =
      Parser.attemptRule limits grammar (top none) source := by
  rw [Parser.parse, Parser.judge_of_le (by rw [parserFor, Parser.ofRule]; exact hlen), parserFor,
    Parser.ofRule]

/-- Let a text be within the limit, and let the calls of its parse not get too deep, whatever the
limits of a run are. If the text is an expression but for blank characters, the parser gives the
value of the expression, or divides by zero if the expression does. Otherwise the parser fails or
divides by zero. -/
theorem parse_expression (limits : Limits) (source : String)
    (hlen : (source.length : Int) ≤ Parser.defaultLimit)
    (hdeep : ((parserFor limits none).parse source).1 ≠ .faulted .tooDeep) :
    (∀ tree : Tree (.chain .sum), tree.text = squeezed source →
      (∀ n, tree.value = some n →
        ∃ whole, ((parserFor limits none).parse source).1 = .parsed (.int n) whole) ∧
      (tree.value = none → ((parserFor limits none).parse source).1 = .faulted .divisionByZero)) ∧
    ((¬ ∃ tree : Tree (.chain .sum), tree.text = squeezed source) →
      (∃ failure, ((parserFor limits none).parse source).1 = .failed failure) ∨
      ((parserFor limits none).parse source).1 = .faulted .divisionByZero) := by
  have hc : (grammar.cursor source.toList).Valid := ⟨Int.le_refl 0, Int.natCast_nonneg _⟩
  rw [parse_eq_attemptRule limits hlen] at hdeep ⊢
  constructor
  · intro tree htext
    rw [← visible_cursor] at htext
    rcases top_complete limits.depth hc rfl htext with
      ⟨n, d, hn, hr⟩ | ⟨d, hnone, hr⟩ | ⟨d, hr⟩
    · refine ⟨fun m hm => ?_, fun hnone => absurd (hn.symm.trans hnone) (by simp)⟩
      cases hn.symm.trans hm
      exact ⟨_, Parser.attemptRule_of_value hr⟩
    · exact ⟨fun m hm => absurd (hm.symm.trans hnone) (by simp),
        fun _ => Parser.attemptRule_of_fault hr⟩
    · exact absurd (Parser.attemptRule_of_fault hr) hdeep
  · -- a value would come with a tree for the whole text
    intro hnot
    have hwhole : Whole _ (((top none).call limits).run (grammar.cursor source.toList)) :=
      top_sound limits.depth hc rfl
    rcases hr : ((top none).call limits).run (grammar.cursor source.toList) with ⟨o, d⟩
    rw [hr] at hwhole
    cases hwhole with
    | value tree value_eq text_eq => exact absurd ⟨tree, text_eq.trans (visible_cursor source)⟩ hnot
    | failure => exact .inl ⟨_, Parser.attemptRule_of_failure hr⟩
    | divisionByZero => exact .inr (Parser.attemptRule_of_fault hr)
    | tooDeep => exact absurd (Parser.attemptRule_of_fault hr) hdeep

/-- The expression `12-7/(4-6)*3`, in which the division goes down to `-4`. -/
def difference : Tree (.chain .sum) :=
  let four : Tree (.chain .sum) := .single (.single (.number ⟨['4'], rfl⟩))
  let seven : Tree (.chain .product) := .single (.number ⟨['7'], rfl⟩)
  let divisor : Tree .factor := .group (.step four .minus (.single (.number ⟨['6'], rfl⟩)))
  .step (.single (.single (.number ⟨['1', '2'], rfl⟩))) .minus
    (.step (.step seven .dividedBy divisor) .times (.number ⟨['3'], rfl⟩))

theorem difference_parsed :
    ("1 2 - 7\t/ (4 - 6) * 3".length : Int) ≤ Parser.defaultLimit ∧
    ((parserFor ⟨10000, 0⟩ none).parse "1 2 - 7\t/ (4 - 6) * 3").1 ≠ .faulted .tooDeep ∧
    difference.text = squeezed "1 2 - 7\t/ (4 - 6) * 3" ∧ difference.value = some 24 ∧
    ∃ whole, ((parserFor ⟨10000, 0⟩ none).parse "1 2 - 7\t/ (4 - 6) * 3").1 =
      .parsed (.int 24) whole := by
  have hlen : ("1 2 - 7\t/ (4 - 6) * 3".length : Int) ≤ Parser.defaultLimit := by decide
  have hrun : ∃ v d, ((top none).call ⟨10000, 0⟩).run
      (grammar.cursor "1 2 - 7\t/ (4 - 6) * 3".toList) = (.value v, d) := ⟨_, _, rfl⟩
  have hdeep : ((parserFor ⟨10000, 0⟩ none).parse "1 2 - 7\t/ (4 - 6) * 3").1 ≠
      .faulted .tooDeep := by
    obtain ⟨v, d, hr⟩ := hrun
    rw [parse_eq_attemptRule _ hlen, Parser.attemptRule_of_value hr]
    exact Verdict.noConfusion
  have htext : difference.text = squeezed "1 2 - 7\t/ (4 - 6) * 3" := by decide
  exact ⟨hlen, hdeep, htext, rfl,
    ((parse_expression _ _ hlen hdeep).1 difference htext).1 24 rfl⟩

end Calculator

end Descent
