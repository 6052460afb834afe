import Descent.Pattern.Flag

/-!
# Pattern trees

What a pattern says, as a tree: characters and sets of characters, anchors, groups and references
to them, alternatives, repetitions and assertions. What a node matches also depends on the modes
around it.
-/

namespace Descent.Pattern

/-! ## Characters -/

/-- The classes of characters that have an escape of their own. -/
inductive Category where
  | digit
  | space
  | word
deriving DecidableEq

/-- What a set of characters is made of. -/
inductive SetItem where
  | single (code : Nat)
  | range (first last : Nat)
  | category (category : Category) (negated : Bool)
deriving DecidableEq

/-! ## Positions and repetitions -/

/-- Conditions on a position of the text. -/
inductive Anchor where
  /-- The start of the text, or of a line in the multiline mode. -/
  | lineStart
  /-- The end of the text or of its last line, or of any line in the multiline mode. -/
  | lineEnd
  /-- The start of the text. -/
  | textStart
  /-- The end of the text. -/
  | textEnd
  /-- Between a word character and another one, or everywhere else. -/
  | wordEdge (negated : Bool)
deriving DecidableEq

/-- Which count a repetition tries first. -/
inductive Greed where
  /-- The largest first. -/
  | greedy
  /-- The smallest first. -/
  | reluctant
  /-- The largest only. -/
  | possessive
deriving DecidableEq

/-- The least and the greatest number of characters that something matches. -/
structure Width where
  least : Nat
  most : Nat
deriving DecidableEq

/-! ## Nodes -/

/-- A part of a pattern. -/
inductive Node where
  /-- A character, or any but that one. -/
  | char (negated : Bool) (code : Nat)
  /-- Any character. -/
  | any
  /-- A character of a set, or any outside it. -/
  | set (negated : Bool) (items : List SetItem)
  /-- A condition on the position. -/
  | anchor (anchor : Anchor)
  /-- A part that is remembered under a number, if it has one, with modes turned on and off. -/
  | group (index : Option Nat) (on off : List Flag) (body : List Node)
  /-- A part that is matched in the first way only. -/
  | atomic (body : List Node)
  /-- What a group has matched, whose width is given. -/
  | backref (group : Nat) (width : Width)
  /-- The first alternative that lets the rest match. -/
  | alternatives (branches : List (List Node))
  /-- A part several times over. -/
  | repetition (greed : Greed) (min : Nat) (max : Option Nat) (body : List Node)
  /-- A condition on what follows, or on what stands right before. -/
  | look (behind negated : Bool) (body : List Node)
  /-- One of two parts, by whether a group has matched. -/
  | conditional (group : Nat) (yes : List Node) (no : Option (List Node))

namespace Node

/-- Whether a node is a condition on the position alone. -/
def isAnchor : Node → Bool
  | .anchor _ => true
  | _ => false

/-- Whether a node is a repetition. -/
def isRepetition : Node → Bool
  | .repetition .. => true
  | _ => false

/-- The nodes that a node stands for: those inside a group without number and modes, and else
itself. -/
def unwrapped : Node → List Node
  | .group none [] [] body => body
  | node => [node]

/-- Whether two nodes without parts are equal. Nodes with parts are taken as different. -/
def sameLeaf : Node → Node → Bool
  | .char n c, .char n' c' => n == n' && c == c'
  | .any, .any => true
  | .set n items, .set n' items' => n == n' && items == items'
  | .anchor a, .anchor b => a == b
  | .backref g _, .backref h _ => g == h
  | _, _ => false

/-- What a node offers to a set of characters that replaces alternatives. -/
def setItems? : Node → Option (List SetItem)
  | .char false code => some [.single code]
  | .set false items => some items
  | _ => none

end Node

/-! ## Alternatives -/

/-- The node that all branches begin with, and what is left of the branches. -/
def commonHead? (branches : List (List Node)) : Option (Node × List (List Node)) :=
  match branches.head?.bind List.head? with
  | none => none
  | some first =>
    if branches.all fun b => b.head?.any first.sameLeaf then some (first, branches.map List.tail)
    else none

/-- The alternatives of branches, after at most `bound` nodes that all of them begin with.
Branches of one character each are a set. -/
def factored (branches : List (List Node)) : Nat → List Node
  | 0 => [.alternatives branches]
  | bound + 1 =>
    match commonHead? branches with
    | some (first, rest) => first :: factored rest bound
    | none =>
      let items? := branches.mapM fun
        | [node] => node.setItems?
        | _ => none
      match items? with
      | some items => [.set false items.flatten.eraseDups]
      | none => [.alternatives branches]

/-- The nodes of alternatives. The bound is one that no common beginning reaches. -/
def joinBranches : List (List Node) → List Node
  | [only] => only
  | branches => factored branches (((branches.head?.map List.length).getD 0) + 1)

/-! ## Widths -/

namespace Width

/-- No least width is counted beyond this. -/
def leastCap : Nat := 4294967294

/-- No greatest width is counted beyond this, and a repetition without bound counts for so many
times. -/
def mostCap : Nat := 4294967295

/-- One after the other. -/
def add (a b : Width) : Width := ⟨a.least + b.least, a.most + b.most⟩

/-- One or the other. -/
def either (a b : Width) : Width := ⟨min a.least b.least, max a.most b.most⟩

/-- A width within the caps. -/
def capped (a : Width) : Width := ⟨min a.least leastCap, min a.most mostCap⟩

/-- Between `least` and `most` times over. -/
def times (a : Width) (least : Nat) (most : Option Nat) : Width :=
  ⟨a.least * least, a.most * most.getD mostCap⟩

end Width

mutual

/-- How many characters a node matches. -/
def Node.width : Node → Width
  | .char .. => ⟨1, 1⟩
  | .any => ⟨1, 1⟩
  | .set .. => ⟨1, 1⟩
  | .anchor _ => ⟨0, 0⟩
  | .group _ _ _ body => (totalWidth body).capped
  | .atomic body => (totalWidth body).capped
  | .backref _ width => width
  | .alternatives branches => (widthOfBranches branches).getD ⟨0, 0⟩
  | .repetition _ min max body => (totalWidth body).capped.times min max
  | .look .. => ⟨0, 0⟩
  | .conditional _ yes (some no) => (totalWidth yes).capped.either (totalWidth no).capped
  | .conditional _ yes none => ⟨0, (totalWidth yes).capped.most⟩

/-- How many characters nodes match one after another, without the caps. -/
def totalWidth : List Node → Width
  | [] => ⟨0, 0⟩
  | node :: rest => node.width.add (totalWidth rest)

/-- How many characters one of several branches matches. -/
def widthOfBranches : List (List Node) → Option Width
  | [] => none
  | branch :: rest =>
    match widthOfBranches rest with
    | none => some (totalWidth branch).capped
    | some width => some ((totalWidth branch).capped.either width)

end

/-- How many characters nodes match one after another. -/
def widthOf (nodes : List Node) : Width := (totalWidth nodes).capped

end Descent.Pattern
