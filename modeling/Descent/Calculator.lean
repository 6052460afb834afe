import Descent.Parser

/-!
# A calculator

Integer arithmetic with the usual precedence: sums of products of numbers and expressions in
parentheses. Blank characters may stand anywhere, inside numbers too. Numbers may have any size,
or as many digits as a limit allows. The command line evaluates one expression within the limit,
or shows a few examples.
-/

namespace Descent

namespace Calculator

/-! ## The grammar -/

/-- A numeral: at least one decimal digit, and nothing else. -/
def isNumeral (token : List Char) : Bool := !token.isEmpty && token.all Char.isDigit

/-- A number, with at most so many digits. -/
def number (digits : Option Nat) : Rule :=
  .named "number"
    (.map (Transform.onLocation · fun l => Value.squeezedIntegerOf digits l.lexeme)
      (.regex "[0-9]+" isNumeral))

/-- The expression that everything else refers back to. -/
def inner : Rule := .ref 0 (some "expression")

/-- An expression in parentheses. -/
def group : Rule := .named "group" (.keepLeft (.keepRight (.tag "(") inner) (.tag ")"))

/-- What can be multiplied. -/
def factor (digits : Option Nat) : Rule := .choices (some "factor") [number digits, group]

/-- The operators that bind more tightly. -/
def multiplicative : Rule := .choices (some "operator") [.tag "*", .tag "/"]

/-- The operators that bind less tightly. -/
def additive : Rule := .choices (some "operator") [.tag "+", .tag "-"]

/-- Operands with operators between them, evaluated from left to right. -/
def chain (operator operand : Rule) : Rule :=
  .map Value.fold (.both operand (.many 0 none (.both operator operand)))

/-- What can be added. -/
def term (digits : Option Nat) : Rule := chain multiplicative (factor digits)

/-- A whole expression. -/
def expression (digits : Option Nat) : Rule :=
  .named "expression" (.fix 0 (chain additive (term digits)))

/-- An expression and nothing after it. -/
def top (digits : Option Nat) : Rule := .keepLeft (expression digits) .eof

/-- Space, tab, carriage return and line end are blank. -/
def grammar : Grammar := ⟨Blanks.ofList ["\n", " ", "\t", "\r"]⟩

/-- The parser of a calculator for numbers with at most so many digits. -/
def parserFor (limits : Limits) (digits : Option Nat) : Parser :=
  .ofRule limits grammar (top digits) Parser.defaultLimit

/-- The parser that the command line uses. -/
def parser (limits : Limits) : Parser := parserFor limits (some digitLimit)

/-! ## The command line -/

/-- What a run of the program writes, and how it exits. -/
structure Report where
  out : String
  err : String
  exitCode : Nat
deriving DecidableEq

/-- Lines, each with its line end. -/
def asLines (ls : List String) : String := String.join (ls.map (· ++ "\n"))

/-- Evaluates the expression that the arguments make. -/
def evaluate (limits : Limits) (args : List String) : Except Fault Report := do
  let (value, failure) ← ((parser limits).parseAsPair (" ".intercalate args)).1
  match failure with
  | some f => return ⟨"", asLines [f.error.caret], 1⟩
  | none => return ⟨asLines [← value.written], "", 0⟩

/-- A headline between two rules. -/
def headline (title : String) : List String :=
  let rule := String.ofList (List.replicate 60 '=')
  [rule, title, rule]

/-- The value of a text, or the fault or failure that there is instead. -/
def valueOf (p : Parser) (source : String) : Except Fault Value :=
  match (p.parse source).1 with
  | .parsed v _ => .ok v
  | .failed f => .error (.raised .rule (.plain f.error.message))
  | .faulted f => .error f

/-- Examples of evaluation. -/
def evaluationExamples (limits : Limits) : Except Fault (List String) := do
  let texts := ["10 + 22 * 9", "91 + 3 * 4 / 2 - 72", "(1 + 2) * (3 + 4)"]
  let results ← texts.mapM fun t => do
    return t ++ " = " ++ (← valueOf (parser limits) t).displayed
  return headline "Example 1: Evaluation" ++ results ++ [""]

/-- Examples of errors, with their notes. -/
def errorExamples (limits : Limits) : Except Fault (List String) := do
  let shown ← ["1 +", "(1 + 2", "1 + 2\n* x"].mapM fun t =>
    match ((parser limits).parse t).1 with
    | .parsed .. => .ok []
    | .failed f => .ok (f.error.caret :: f.error.notes.map ("  note: " ++ ·) ++ [""])
    | .faulted f => .error f
  return headline "Example 2: Error Reporting" ++ shown.flatten

/-- Examples of the other ways to ask for an outcome. -/
def variantExamples (limits : Limits) : Except Fault (List String) := do
  let missing ← ((parser limits).parseOrNull "2 *").1
  let (value, failure) ← ((parser limits).parseAsPair "2 * 21").1
  let error := (failure.map fun f => f.error.shown).getD Value.null.shown
  let (located, location) ← ((parser limits).parseWithLocation " 6 * 7 ").1
  let labelled := (parser limits).map fun v => .value (.text ("result: " ++ v.displayed))
  let text ← valueOf labelled "3 - 5"
  return headline "Example 3: Parse Variants" ++
    ["parse_or_none('2 *')      -> " ++ missing.displayed,
      s!"parse_as_pair('2 * 21')   -> value={value.displayed}, error={error}",
      s!"parse_with_location(...)  -> value={located.displayed}, span={location.span.shown}",
      "map(...).parse('3 - 5')   -> " ++ text.displayed,
      ""]

/-- All examples. -/
def examples (limits : Limits) : Except Fault Report := do
  let shown := [← evaluationExamples limits, ← errorExamples limits, ← variantExamples limits]
  let ending := headline "All examples completed successfully!"
  return ⟨asLines (shown.flatten ++ ending), "", 0⟩

/-- The program: evaluates its arguments, or shows the examples when there are none. -/
def commandLine (limits : Limits) (args : List String) : Except Fault Report :=
  if args.isEmpty then examples limits else evaluate limits args

end Calculator

end Descent
