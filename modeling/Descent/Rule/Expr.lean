import Descent.Blanks.Register
import Descent.Pattern.Matcher
import Descent.Pattern.Reader
import Descent.Rule.Run
import Descent.Value.Transform

/-!
# Expressions for rules

How the author of a grammar writes rules: with variables, patterns as text and bounds that still
have to be checked. Building an expression checks it from the inside out and gives the rule, or
the first thing that is wrong.
-/

namespace Descent

/-! ## Steps on the cursor -/

/-- A step that an author takes on the cursor directly. -/
inductive Step where
  /-- The position. -/
  | position
  /-- The next character that is not blank. -/
  | peek
  /-- Moves on. -/
  | advance (count : Int)
  /-- Moves to any position, unchecked. -/
  | jump (pos : Int)
  /-- Always the same value. -/
  | const (value : Value)
  /-- Registers blank characters. -/
  | addBlanks (values : Value)
  /-- Fails at the cursor, and may underline another range. -/
  | fail (message : String) (problem : Option (Int × Int))
  /-- A fault. -/
  | raise (kind : FaultKind) (message : String)

namespace Step

/-- A character that may be missing, as a value. -/
def characterValue : Option Char → Value
  | some c => .text (String.singleton c)
  | none => .null

/-- The action of a step. -/
def action : Step → Action Value
  | .position => ⟨fun c => (.value (.int c.pos), c)⟩
  | .peek => Action.peek.mapValue characterValue
  | .advance count => (Action.advance count).mapValue characterValue
  | .jump pos => ⟨fun c => (.value .null, c.moveTo pos)⟩
  | .const value => Action.pure value
  | .addBlanks values => ⟨fun c =>
    match c.blanks.registerItems values with
    | .ok blanks => (.value .null, { c with blanks })
    | .error f => (.fault f, c)⟩
  | .fail message problem => ⟨fun c =>
    ((Outcome.ofPosition (c.locate c.pos c.pos)).bind fun location =>
      (problemSpan problem).bind fun span =>
        .failure (.located (.expectedEnd message) location span), c)⟩
  | .raise kind message => Action.fault (.raised kind (.plain message))

end Step

/-! ## Expressions -/

/-- A rule as its author writes it. -/
inductive Expr where
  | tag (literal : String)
  | regex (pattern : String) (modes : List Pattern.Flag)
  | eof
  /-- Any action at all. -/
  | action (run : Action Value)
  | choices (name : Option String) (alternatives : List Expr)
  | many (min : Int) (max : Option Int) (rule : Expr)
  | seq (rules : List Expr)
  /-- A rule that may refer to itself by a variable. A definition that runs its own variable
  while it is being built is refused. -/
  | recursive (var : String) (name : Option String) (runsEarly : Bool) (body : Expr)
  /-- A rule under a variable in another one. -/
  | bind (var : String) (rule body : Expr)
  | var (name : String)
  | both (first second : Expr)
  | keepLeft (first second : Expr)
  | keepRight (first second : Expr)
  | orElse (first second : Expr)
  | map (f : Value → Outcome Value) (rule : Expr)
  | catching (handler : ParseError → Outcome Value) (rule : Expr)
  | optional (default : Value) (rule : Expr)
  | named (name : String) (rule : Expr)
  | ignored (rule : Expr)

/-- What is wrong with a pattern, as a fault. -/
def Fault.ofPattern (pattern : String) : Pattern.Error → Fault
  | .unreadable reason place =>
    .grammar (.invalidPattern pattern (Pattern.explanation pattern.toList reason place))
  | .countTooLarge => .countTooLarge
  | .countTooLong digits limit => .longNumeral digits limit
  | .contradictoryModes => .raised .value (.plain "ASCII and UNICODE flags are incompatible")
  | .lookBehindTooWide => .lookBehindTooWide

/-- A token described by a pattern, unless the pattern cannot be read. -/
def Rule.ofPattern (pattern : String) (modes : List Pattern.Flag) : Except Fault Rule :=
  match Pattern.compile pattern.toList modes with
  | .ok program => .ok (.regex pattern program.accepts)
  | .error e => .error (.ofPattern pattern e)

namespace Expr

mutual

/-- The rule of an expression, with the rules of the variables in scope, inside `level` recursive
definitions. -/
def build (scope : List (String × Rule)) (level : Nat) : Expr → Except Fault Rule
  | .tag literal => if literal.isEmpty then .error (.grammar .emptyLiteral) else .ok (.tag literal)
  | .regex pattern modes => Rule.ofPattern pattern modes
  | .eof => .ok .eof
  | .action run => .ok (.action run)
  | .choices name alternatives => do
    let rules ← buildAll scope level alternatives
    if rules.isEmpty then .error (.grammar .noAlternatives)
    return .choices name rules
  | .many min max rule => do
    let rule ← build scope level rule
    if min < 0 || max.any (· < min) then .error (.grammar (.invalidBounds min max))
    return .many min max rule
  | .seq rules => return .seq (← buildAll scope level rules)
  | .recursive x name runsEarly body => do
    if runsEarly then .error (.grammar (.unboundRule name))
    let body ← build ((x, .ref level name) :: scope) (level + 1) body
    return match name with
      | some n => .named n (.fix level body)
      | none => .fix level body
  | .bind x rule body => do
    let rule ← build scope level rule
    build ((x, rule) :: scope) level body
  | .var name =>
    match scope.lookup name with
    | some rule => .ok rule
    | none => .error (.unknownName name)
  | .both first second => return .both (← build scope level first) (← build scope level second)
  | .keepLeft first second =>
    return .keepLeft (← build scope level first) (← build scope level second)
  | .keepRight first second =>
    return .keepRight (← build scope level first) (← build scope level second)
  | .orElse first second =>
    return .orElse (← build scope level first) (← build scope level second)
  | .map f rule => return .map f (← build scope level rule)
  | .catching handler rule => return .catching handler (← build scope level rule)
  | .optional default rule => return .optional default (← build scope level rule)
  | .named name rule => return .named name (← build scope level rule)
  | .ignored rule => return .ignored (← build scope level rule)

/-- The rules of several expressions, in order. -/
def buildAll (scope : List (String × Rule)) (level : Nat) : List Expr → Except Fault (List Rule)
  | [] => return []
  | e :: rest => return (← build scope level e) :: (← buildAll scope level rest)

end

/-- The rule of an expression that stands by itself. -/
def rule (e : Expr) : Except Fault Rule := e.build [] 0

end Expr

/-! ## Running several rules on one cursor -/

/-- What came of one rule of a script: it could not be built, or it was run. -/
inductive ScriptStep where
  | unbuilt (fault : Fault)
  | ran (rule : Rule) (outcome : Outcome Value)

/-- Builds and runs rules one after another on the same cursor, for each what came of it and the
position of the cursor after it. -/
def runScript {text : List Char} (limits : Limits) (c : Cursor text) :
    List Expr → List (ScriptStep × Int)
  | [] => []
  | e :: rest =>
    match e.rule with
    | .error f => (.unbuilt f, c.pos) :: runScript limits c rest
    | .ok r =>
      let (outcome, c') := (r.call limits).run c
      (.ran r outcome, c'.pos) :: runScript limits c' rest

end Descent
