import Descent.Action.Combinator
import Descent.Action.Primitive

/-!
# Rules

Rules as trees. A rule has a name, by which messages speak of it, and may be marked as ignored,
so that a sequence drops its value. Recursion is written with levels: a recursive definition
stands at a level, the number of definitions around it, and a reference names the level of the
definition it stands for.
-/

namespace Descent

/-- A rule for matching text. -/
inductive Rule where
  /-- An exact literal. -/
  | tag (literal : String)
  /-- A token that grows for as long as it is accepted. -/
  | regex (pattern : String) (accepts : List Char → Bool)
  /-- The end of the text. -/
  | eof
  /-- Any action at all. -/
  | action (run : Action Value)
  /-- A rule whose value is put through a function. -/
  | map (f : Value → Outcome Value) (rule : Rule)
  /-- Two rules in order, for both values. -/
  | both (first second : Rule)
  /-- Two rules in order, for the first value. -/
  | keepLeft (first second : Rule)
  /-- Two rules in order, for the second value. -/
  | keepRight (first second : Rule)
  /-- The first alternative that matches. -/
  | choices (name : Option String) (alternatives : List Rule)
  /-- A rule repeated as often as it matches, with bounds on the count. -/
  | many (min : Int) (max : Option Int) (rule : Rule)
  /-- Rules in order, for the values of those that are not ignored. -/
  | seq (rules : List Rule)
  /-- A rule with a substitute for its failure. -/
  | catching (handler : ParseError → Outcome Value) (rule : Rule)
  /-- A rule under another name. -/
  | named (name : String) (rule : Rule)
  /-- A rule whose value a sequence drops. -/
  | ignored (rule : Rule)
  /-- A definition that may refer to itself by its level. -/
  | fix (level : Nat) (definition : Rule)
  /-- The definition at a level, under the name it was announced with. -/
  | ref (level : Nat) (name : Option String)

namespace Rule

/-! ## Names -/

/-- The name of a rule. Primitive rules are named for what they match; a repetition, a mapped
rule and one with a substitute keep the name of the rule inside. -/
def name : Rule → Option String
  | .tag literal => some literal
  | .regex pattern _ => some pattern
  | .eof => some Issue.endWord
  | .action _ => none
  | .map _ rule => rule.name
  | .both .. => none
  | .keepLeft .. => none
  | .keepRight .. => none
  | .choices name _ => name
  | .many _ _ rule => rule.name
  | .seq _ => none
  | .catching _ rule => rule.name
  | .named name _ => some name
  | .ignored rule => rule.name
  | .fix _ definition => definition.name
  | .ref _ name => name

/-- Whether a sequence drops the value of a rule. -/
def isIgnored : Rule → Bool
  | .ignored _ => true
  | .map _ rule => rule.isIgnored
  | .catching _ rule => rule.isIgnored
  | .named _ rule => rule.isIgnored
  | .fix _ definition => definition.isIgnored
  | _ => false

/-- What a rule without a name is called. -/
def anonymous : String := "<anonymous>"

/-- The name by which messages speak of a rule. -/
def label (r : Rule) : String := r.name.getD anonymous

/-- Ordered choice between two rules. -/
def orElse (first second : Rule) : Rule := .choices none [first, second]

/-- A rule or a default, without moving the cursor when the rule fails. -/
def optional (default : Value) (rule : Rule) : Rule := .catching (fun _ => .value default) rule

end Rule

end Descent
