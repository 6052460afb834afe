import Descent.Action.Basic

/-!
# Primitive actions

The actions that read characters: a literal, a token described by a predicate, and the end of the
text. Characters are read past blank ones, so blank characters may stand before, inside and after
what is matched; the location spans them, and its lexeme has none at its ends.
-/

namespace Descent

namespace Action

/-! ## Literals -/

/-- Matches the remaining characters of a literal whose match began at `start`. The cursor stays
where the match stopped. -/
def tagFrom (literal : String) (start : Int) : List Char → Action Location
  | [] => locateFrom start
  | expected :: rest => do
    match ← peek with
    | none => fail (.literalAtEnd literal) (← locateFrom start)
    | some found =>
      if found = expected then
        let _ ← advance 1
        tagFrom literal start rest
      else
        let location ← locateFrom start
        fail (.expectedLiteral literal location.lexeme) location

/-- Matches a literal character by character. -/
def tag (literal : String) : Action Location := do
  tagFrom literal (← mark) literal.toList

/-! ## Tokens -/

/-- How many more characters a token takes, blank ones included: it grows by one character at a
time for as long as all of it is accepted, and then takes the blank characters that follow. -/
def growth (accepts : List Char → Bool) (skips : Char → Bool) (token : List Char) :
    List Char → Nat
  | [] => 0
  | c :: rest =>
    if skips c then growth accepts skips token rest + 1
    else if accepts (token ++ [c]) then growth accepts skips (token ++ [c]) rest + 1
    else 0

/-- Matches a token: the first character that is not blank has to be accepted by itself, and then
the token grows for as long as all of it is accepted. The cursor moves only on success. -/
def regex (pattern : String) (accepts : List Char → Bool) : Action Location := ⟨fun {text} c =>
  match c.checked, c.peek with
  | .error e, _ => (.fault (.position e), c)
  | .ok _, (.error e, _) => (.fault (.position e), c)
  | .ok _, (.ok none, scan) =>
    ((locate c.pos scan.pos).bind (fail (.patternAtEnd pattern))).run c
  | .ok _, (.ok (some first), scan) =>
    if accepts [first] then
      let rest := text.drop (scan.pos.toNat + 1)
      let stop := scan.pos + 1 + growth accepts c.blanks.skips [first] rest
      (locate c.pos stop).run (c.moveTo stop)
    else
      ((locate c.pos scan.pos).bind
        (fail (.expectedPattern pattern (String.singleton first)))).run c⟩

@[simp] theorem growth_nil (accepts : List Char → Bool) (skips : Char → Bool)
    (token : List Char) : growth accepts skips token [] = 0 := rfl

/-! ## The end of the text -/

/-- Matches the end of the text, past blank characters. -/
def eof : Action Location := do
  let start ← mark
  match ← peek with
  | none => locateFrom start
  | some found => fail (.expectedEnd (String.singleton found)) (← locateFrom start)

end Action

end Descent
