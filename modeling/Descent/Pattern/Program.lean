import Descent.Pattern.CharTest
import Descent.Pattern.Error

/-!
# Programs

What a search does for a pattern: the tree with its modes resolved, as steps one after another.
Groups become marks at their two ends, and repetitions of a single character are told apart from
all others. Not every tree has a program: a condition on what stands before has to have a fixed
width, and the template mode allows no repetition.
-/

namespace Descent.Pattern

/-- A step of a search. -/
inductive Instr where
  /-- One character. -/
  | one (test : CharTest)
  /-- A condition on the position, in the multiline and ASCII modes or not. -/
  | anchor (anchor : Anchor) (multiline ascii : Bool)
  /-- Remembers the position under a number. -/
  | mark (index : Nat)
  /-- What a group has matched, again. -/
  | backref (folding : Folding) (group : Nat)
  /-- The first way that lets the rest match. -/
  | branch (ways : List (List Instr))
  /-- One of two ways, by whether a group has matched. -/
  | conditional (group : Nat) (yes no : List Instr)
  /-- One character several times over. If `next` is given, nothing else can stand after it. -/
  | stretch (greed : Greed) (min : Nat) (max : Option Nat) (test : CharTest) (next : Option Nat)
  /-- Steps several times over. -/
  | loop (greed : Greed) (min : Nat) (max : Option Nat) (body : List Instr)
  /-- Steps in their first way only. -/
  | atomic (body : List Instr)
  /-- A condition on what follows from `back` characters before the position on. -/
  | look (negated : Bool) (back : Nat) (body : List Instr)

/-- The one character that steps can go on with, if they begin with a character for which case
does not play a role; without steps, that of what follows them. -/
def leading? (follow : Option Nat) : List Instr → Option Nat
  | [] => follow
  | .one test :: _ => test.literal?
  | _ => none

/-! ## From trees to programs -/

/-- The test of a single character that a repetition repeats, also within groups that only turn
modes on and off. -/
def singleTest? (modes : List Flag) : List Node → Option CharTest
  | [.char negated code] => some (.char (foldingOf modes) negated code)
  | [.any] => some (.any (modes.contains .dotAll))
  | [.set negated items] =>
    some (.set (foldingOf modes) (modes.contains .ascii) negated items)
  | [.group none on off body] => singleTest? (scopedModes modes on off) body
  | _ => none

mutual

/-- The steps of a node, where `follow` is the one character that can stand after it, if that is
known. -/
def Node.steps (modes : List Flag) (follow : Option Nat) : Node → List Instr
  | .char negated code => [.one (.char (foldingOf modes) negated code)]
  | .any => [.one (.any (modes.contains .dotAll))]
  | .set negated items => [.one (.set (foldingOf modes) (modes.contains .ascii) negated items)]
  | .anchor a => [.anchor a (modes.contains .multiline) (modes.contains .ascii)]
  | .group none on off body => stepsOf (scopedModes modes on off) follow body
  | .group (some index) on off body =>
    .mark (2 * (index - 1)) ::
      stepsOf (scopedModes modes on off) none body ++ [.mark (2 * (index - 1) + 1)]
  | .atomic body => [.atomic (stepsOf modes none body)]
  | .backref group _ => [.backref (foldingOf modes) group]
  | .alternatives branches => [.branch (waysOf modes branches)]
  | .repetition greed min max body =>
    match singleTest? modes body with
    | some test => [.stretch greed min max test follow]
    | none => [.loop greed min max (stepsOf modes none body)]
  | .look behind negated body =>
    [.look negated (if behind then (widthOf body).least else 0) (stepsOf modes none body)]
  | .conditional group yes none => [.conditional group (stepsOf modes follow yes) []]
  | .conditional group yes (some no) =>
    [.conditional group (stepsOf modes (if no.isEmpty then follow else none) yes)
      (stepsOf modes follow no)]

/-- The steps of nodes one after another. -/
def stepsOf (modes : List Flag) (follow : Option Nat) : List Node → List Instr
  | [] => []
  | node :: rest =>
    let after := stepsOf modes follow rest
    node.steps modes (leading? follow after) ++ after

/-- The steps of several branches. -/
def waysOf (modes : List Flag) : List (List Node) → List (List Instr)
  | [] => []
  | branch :: rest => stepsOf modes none branch :: waysOf modes rest

end

/-! ## Trees without programs -/

mutual

/-- Why a node has no program, in the order of the pattern. -/
def Node.flaws (modes : List Flag) : Node → List Reason
  | .group _ on off body => flawsOf (scopedModes modes on off) body
  | .atomic body => flawsOf modes body
  | .alternatives branches => flawsOfBranches modes branches
  | .repetition greed _ _ body =>
    (if modes.contains .template then [.templateRepetition greed] else []) ++ flawsOf modes body
  | .look behind _ body =>
    let width := widthOf body
    (if behind && width.least != width.most then [.variableLookBehind] else []) ++
      flawsOf modes body
  | .conditional _ yes none => flawsOf modes yes
  | .conditional _ yes (some no) => flawsOf modes yes ++ flawsOf modes no
  | _ => []

/-- Why nodes one after another have no program. -/
def flawsOf (modes : List Flag) : List Node → List Reason
  | [] => []
  | node :: rest => node.flaws modes ++ flawsOf modes rest

/-- Why branches have no program. -/
def flawsOfBranches (modes : List Flag) : List (List Node) → List Reason
  | [] => []
  | branch :: rest => flawsOf modes branch ++ flawsOfBranches modes rest

end

mutual

/-- How far back a step looks. -/
def Instr.furthestBack : Instr → Nat
  | .branch ways => furthestBackOfWays ways
  | .conditional _ yes no => max (furthestBackOf yes) (furthestBackOf no)
  | .loop _ _ _ body => furthestBackOf body
  | .atomic body => furthestBackOf body
  | .look _ back body => max back (furthestBackOf body)
  | _ => 0

/-- How far back steps look. -/
def furthestBackOf : List Instr → Nat
  | [] => 0
  | step :: rest => max step.furthestBack (furthestBackOf rest)

/-- How far back the steps of several ways look. -/
def furthestBackOfWays : List (List Instr) → Nat
  | [] => 0
  | way :: rest => max (furthestBackOf way) (furthestBackOfWays rest)

end

/-! ## Programs -/

/-- The steps of a whole pattern, and the length that a text has to have at least. -/
structure Program where
  least : Nat
  steps : List Instr

namespace Program

/-- No step looks back as far as this. -/
def backCap : Nat := 2147483648

/-- The program of a tree. -/
def ofTree (nodes : List Node) (modes : List Flag) : Except Error Program :=
  match flawsOf modes nodes with
  | reason :: _ => .error (.unreadable reason none)
  | [] =>
    let program := ⟨(widthOf nodes).least, stepsOf modes none nodes⟩
    if furthestBackOf program.steps < backCap then .ok program else .error .lookBehindTooWide

end Program

end Descent.Pattern
