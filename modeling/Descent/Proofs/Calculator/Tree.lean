import Descent.Calculator

/-!
# Arithmetic expressions

Expressions as trees, by the grammar of a calculator: a sum is a term, or a sum, a sign and a term;
a term is a factor, or a term, an operator and a factor; a factor is a numeral or a sum in
parentheses. Each tree has a text, without blank characters, and a value, unless it divides by zero.

A chain of operations is a first operand and steps, each an operator and an operand. The text of a
chain is that of its parts in order, and its value comes from applying the steps from left to right.
-/

namespace Descent

namespace Calculator

/-! ## Trees -/

/-- The two kinds of chains of operations: products, which bind more tightly, and sums. -/
inductive Chain where
  | product
  | sum
deriving DecidableEq

/-- The operators of a chain. -/
inductive Operator : Chain → Type
  | times : Operator .product
  | dividedBy : Operator .product
  | plus : Operator .sum
  | minus : Operator .sum

/-- The kinds of expressions. -/
inductive Level where
  | factor
  | chain (c : Chain)
deriving DecidableEq

/-- What the operands of a chain are. -/
def Chain.operand : Chain → Level
  | .product => .factor
  | .sum => .chain .product

/-- At least one decimal digit. -/
structure Numeral where
  digits : List Char
  isNumeral : Calculator.isNumeral digits = true

/-- An expression. -/
inductive Tree : Level → Type
  | number (n : Numeral) : Tree .factor
  | group (inside : Tree (.chain .sum)) : Tree .factor
  | single {c : Chain} (operand : Tree c.operand) : Tree (.chain c)
  | step {c : Chain} (left : Tree (.chain c)) (op : Operator c) (right : Tree c.operand) :
      Tree (.chain c)

/-! ## Texts and values -/

namespace Operator

variable {c : Chain}

/-- The character for an operator. -/
def symbol : Operator c → Char
  | .times => '*'
  | .dividedBy => '/'
  | .plus => '+'
  | .minus => '-'

/-- What an operator makes of two numbers. Division goes down to the next integer, and there is
none by zero. -/
def apply : Operator c → Int → Int → Option Int
  | .times, a, b => some (a * b)
  | .dividedBy, a, b => if b = 0 then none else some (Int.fdiv a b)
  | .plus, a, b => some (a + b)
  | .minus, a, b => some (a - b)

end Operator

/-- The number with the given decimal digits. -/
def decimal (digits : List Char) : Nat :=
  digits.foldl (fun n d => n * 10 + (d.toNat - '0'.toNat)) 0

namespace Tree

/-- The text of an expression, without blank characters. -/
def text : {l : Level} → Tree l → List Char
  | _, .number n => n.digits
  | _, .group inside => '(' :: inside.text ++ [')']
  | _, .single operand => operand.text
  | _, .step left op right => left.text ++ op.symbol :: right.text

/-- The value of an expression, unless it divides by zero. -/
def value : {l : Level} → Tree l → Option Int
  | _, .number n => some (decimal n.digits)
  | _, .group inside => inside.value
  | _, .single operand => operand.value
  | _, .step left op right => left.value.bind fun a => right.value.bind fun b => op.apply a b

end Tree

/-! ## Chains as steps -/

section Steps

variable {c : Chain}

/-- The chain with a first operand and the given steps. -/
def extend (first : Tree c.operand) (steps : List (Operator c × Tree c.operand)) :
    Tree (.chain c) :=
  steps.foldl (fun left s => .step left s.1 s.2) (.single first)

/-- The text of steps. -/
def stepsText (steps : List (Operator c × Tree c.operand)) : List Char :=
  steps.flatMap fun s => s.1.symbol :: s.2.text

/-- The value of steps after a number, if there is one so far. -/
def stepsValue (sofar : Option Int) (steps : List (Operator c × Tree c.operand)) : Option Int :=
  steps.foldl (fun sofar s => sofar.bind fun a => s.2.value.bind fun b => s.1.apply a b) sofar

theorem stepsText_append (steps more : List (Operator c × Tree c.operand)) :
    stepsText (steps ++ more) = stepsText steps ++ stepsText more :=
  List.flatMap_append

theorem stepsText_singleton (op : Operator c) (operand : Tree c.operand) :
    stepsText [(op, operand)] = op.symbol :: operand.text := by
  rw [stepsText, List.flatMap_singleton]

theorem stepsText_cons (op : Operator c) (operand : Tree c.operand)
    (more : List (Operator c × Tree c.operand)) :
    stepsText ((op, operand) :: more) = op.symbol :: (operand.text ++ stepsText more) := by
  rw [stepsText, List.flatMap_cons, List.cons_append, stepsText]

theorem stepsValue_cons (sofar : Option Int) (op : Operator c) (operand : Tree c.operand)
    (more : List (Operator c × Tree c.operand)) :
    stepsValue sofar ((op, operand) :: more) =
      stepsValue (sofar.bind fun a => operand.value.bind fun b => op.apply a b) more := rfl

/-- Nothing comes of steps after a division by zero. -/
theorem stepsValue_none (steps : List (Operator c × Tree c.operand)) :
    stepsValue none steps = none := by
  induction steps with
  | nil => rfl
  | cons s more ih => exact ih

/-- Nothing comes of steps with an operand that divides by zero. -/
theorem stepsValue_of_mem {steps : List (Operator c × Tree c.operand)} {op : Operator c}
    {operand : Tree c.operand} (hmem : (op, operand) ∈ steps) (hvalue : operand.value = none)
    (sofar : Option Int) : stepsValue sofar steps = none := by
  induction steps generalizing sofar with
  | nil => cases hmem
  | cons s more ih =>
    obtain ⟨op', operand'⟩ := s
    rw [stepsValue_cons]
    rcases List.mem_cons.1 hmem with heq | hmem
    · cases heq
      have hnone : (sofar.bind fun a => operand.value.bind fun b => op.apply a b) = none := by
        cases sofar with
        | none => rfl
        | some a => rw [hvalue]; rfl
      rw [hnone, stepsValue_none]
    · exact ih hmem _

/-- Every chain is a first operand and steps. -/
theorem exists_extend : ∀ tree : Tree (.chain c),
    ∃ (first : Tree c.operand) (steps : List (Operator c × Tree c.operand)),
      tree = extend first steps
  | .single operand => ⟨operand, [], rfl⟩
  | .step left op right => by
    obtain ⟨first, steps, hleft⟩ := exists_extend left
    refine ⟨first, steps ++ [(op, right)], ?_⟩
    rw [hleft, extend, extend, List.foldl_append]
    rfl

/-- The text of a chain is that of its first operand and of its steps. -/
theorem text_extend (first : Tree c.operand) (steps : List (Operator c × Tree c.operand)) :
    (extend first steps).text = first.text ++ stepsText steps := by
  have grow : ∀ left : Tree (.chain c),
      (steps.foldl (fun left s => Tree.step left s.1 s.2) left).text =
        left.text ++ stepsText steps := by
    induction steps with
    | nil =>
      intro left
      rw [stepsText, List.flatMap_nil, List.append_nil, List.foldl_nil]
    | cons s more ih =>
      intro left
      rw [List.foldl_cons, ih, stepsText_cons, Tree.text, List.append_assoc, List.cons_append]
  exact grow (.single first)

/-- The value of a chain is that of its steps after its first operand. -/
theorem value_extend (first : Tree c.operand) (steps : List (Operator c × Tree c.operand)) :
    (extend first steps).value = stepsValue first.value steps := by
  have grow : ∀ left : Tree (.chain c),
      (steps.foldl (fun left s => Tree.step left s.1 s.2) left).value =
        stepsValue left.value steps := by
    induction steps with
    | nil => exact fun left => rfl
    | cons s more ih =>
      intro left
      rw [List.foldl_cons, ih, stepsValue_cons, Tree.value]
  exact grow (.single first)

end Steps

/-! ## What follows an expression -/

/-- Whether a character behind an expression could be more of it: another digit, or an operator that
goes on with a chain. -/
def Level.continues : Level → Char → Bool
  | .factor, x => x.isDigit
  | .chain .product, x => x.isDigit || x == '*' || x == '/'
  | .chain .sum, x => x.isDigit || x == '*' || x == '/' || x == '+' || x == '-'

/-- An expression cannot go on with what follows it. -/
def Stops (l : Level) (rest : List Char) : Prop := ∀ x, rest.head? = some x → l.continues x = false

theorem stops_nil (l : Level) : Stops l [] := fun _ h => by cases h

theorem stops_cons {l : Level} {x : Char} (h : l.continues x = false) (rest : List Char) :
    Stops l (x :: rest) := by
  intro y hy
  cases hy
  exact h

/-- What stops a chain stops its last operand. -/
theorem Stops.operand {c : Chain} {rest : List Char} (h : Stops (.chain c) rest) :
    Stops c.operand rest := by
  intro x hx
  have hstop := h x hx
  cases c <;> simp_all [Level.continues, Chain.operand]

/-- An operator stops the operand before it. -/
theorem continues_symbol {c : Chain} (op : Operator c) : c.operand.continues op.symbol = false := by
  cases op <;> decide

/-- Steps stop the operand before them. -/
theorem Stops.steps {c : Chain} {rest : List Char} (h : Stops (.chain c) rest)
    (steps : List (Operator c × Tree c.operand)) : Stops c.operand (stepsText steps ++ rest) := by
  cases steps with
  | nil => exact h.operand
  | cons s more =>
    rw [stepsText_cons, List.cons_append]
    exact stops_cons (continues_symbol s.1) _

/-- No operator of a chain comes next where the chain stops. -/
theorem Stops.ne_symbol {c : Chain} {rest : List Char} (h : Stops (.chain c) rest)
    (op : Operator c) : rest.head? ≠ some op.symbol := by
  intro hx
  have hstop := h _ hx
  cases op <;> revert hstop <;> decide

end Calculator

end Descent
