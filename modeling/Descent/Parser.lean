import Descent.Grammar
import Descent.Rule.Expr

/-!
# Parsers

A rule tied to its grammar: from a text to a value, or to an error that says where the text goes
wrong. Parsers are derived from others by transforming values or errors, and there are four ways
to ask for the outcome. Every parser refuses texts beyond its limit before any rule is run.
-/

namespace Descent

/-! ## The log -/

/-- How urgent a record of the log is. -/
inductive LogLevel where
  | debug
  | warning
deriving DecidableEq

/-- A record of the log. -/
structure LogRecord where
  level : LogLevel
  message : String
deriving DecidableEq

/-! ## Verdicts -/

/-- A parse error, with the one that it was made from, if it was made from one. -/
structure Failure where
  error : ParseError
  cause : Option ParseError

/-- How a parse of a whole text ends: with a value and the location of the text, with a parse
error, or with a fault. -/
inductive Verdict where
  | parsed (value : Value) (whole : Location)
  | failed (failure : Failure)
  | faulted (fault : Fault)

namespace Verdict

/-- Puts the value through a function, which may fail. An error made so has no cause. -/
def map (f : Value → Outcome Value) : Verdict → Verdict
  | .parsed v whole =>
    match f v with
    | .value w => .parsed w whole
    | .failure e => .failed ⟨e, none⟩
    | .fault e => .faulted e
  | .failed failure => .failed failure
  | .faulted e => .faulted e

/-- Puts the error through a function. The new error has the received one as its cause. -/
def mapError (g : ParseError → Outcome ParseError) : Verdict → Verdict
  | .parsed v whole => .parsed v whole
  | .failed failure =>
    match g failure.error with
    | .value e => .failed ⟨e, some failure.error⟩
    | .failure e => .failed ⟨e, none⟩
    | .fault e => .faulted e
  | .faulted e => .faulted e

end Verdict

/-- From a text to a verdict, for texts up to a limit; no limit is in force unless it is
positive. -/
structure Parser where
  limit : Int
  attempt : String → Verdict

namespace Parser

/-- The limit on texts unless something else is asked for. -/
def defaultLimit : Int := 10 * 1024 * 1024

/-! ## Making parsers -/

/-- Runs a rule on a text from its start. -/
def attemptRule (limits : Limits) (g : Grammar) (top : Rule) (source : String) : Verdict :=
  let text := source.toList
  match (top.call limits).run (g.cursor text) with
  | (.value v, c) =>
    match c.locate 0 text.length with
    | .ok whole => .parsed v whole
    | .error e => .faulted (.position e)
  | (.failure e, _) => .failed ⟨e, none⟩
  | (.fault f, _) => .faulted f

/-- The parser of a rule. -/
def ofRule (limits : Limits) (g : Grammar) (top : Rule) (limit : Int) : Parser :=
  ⟨limit, attemptRule limits g top⟩

/-- The record that tells of a new grammar. -/
def builtRecord (g : Grammar) (top : Rule) : LogRecord :=
  ⟨.debug, s!"Built grammar (top rule {top.label}, whitespace {quoted g.blanks.joined})"⟩

/-- A parser with the grammar and the rule that it was made from. -/
structure Built where
  grammar : Grammar
  top : Rule
  parser : Parser
  log : List LogRecord

/-- Registers blank characters list by list, builds the rule and makes its parser. -/
def build (limits : Limits) (blanks : List (List Value)) (top : Expr) (limit : Option Int) :
    Except Fault Built := do
  let grammar ← blanks.foldlM Grammar.whitespace Grammar.empty
  let top ← top.rule
  let parser := ofRule limits grammar top (limit.getD defaultLimit)
  return ⟨grammar, top, parser, [builtRecord grammar top]⟩

/-! ## Derived parsers -/

/-- The parser whose values go through a function. -/
def map (f : Value → Outcome Value) (p : Parser) : Parser :=
  { p with attempt := fun source => (p.attempt source).map f }

/-- The parser whose errors go through a function. -/
def mapError (g : ParseError → Outcome ParseError) (p : Parser) : Parser :=
  { p with attempt := fun source => (p.attempt source).mapError g }

/-- What to make of a parse error. -/
inductive Rework where
  /-- The same error. -/
  | same
  /-- Another issue at the same location. -/
  | issue (issue : Issue)
  /-- The same issue at the same location, with another range underlined. -/
  | problem (start stop : Int)
  /-- A fault. -/
  | raise (kind : FaultKind) (message : String)

/-- Applies a rework to an error. -/
def Rework.apply : Rework → ParseError → Outcome ParseError
  | .same, e => .value e
  | .issue i, e => (Outcome.ofExcept i.told).bind fun i => .value (.located i e.location none)
  | .problem start stop, e =>
    (Outcome.ofPosition (Span.between start stop)).bind fun span =>
      .value (.located e.issue e.location (some span))
  | .raise kind message, _ => .fault (.raised kind (.plain message))

/-- A way to derive a parser from another one. -/
inductive Derivation where
  | map (f : Transform)
  | mapError (g : Rework)

/-- Derives a parser. -/
def derive (p : Parser) : Derivation → Parser
  | .map f => p.map f.apply
  | .mapError g => p.mapError g.apply

/-- Derives a parser step by step. -/
def deriveAll (p : Parser) (ds : List Derivation) : Parser := ds.foldl derive p

/-! ## Asking for the outcome -/

/-- Whether a text of a length is beyond the limit. -/
def refuses (p : Parser) (length : Nat) : Bool := 0 < p.limit && p.limit < length

/-- The verdict on a text, and what the log says about it. -/
def judge (p : Parser) (source : String) : Verdict × List LogRecord :=
  let length := source.length
  if p.refuses length then
    (.faulted (.oversized length p.limit.toNat),
      [⟨.warning, s!"Rejected input of {length} characters (limit {p.limit})"⟩])
  else (p.attempt source, [])

/-- The record that tells of a failed parse. -/
def failedRecord (f : Failure) : LogRecord := ⟨.debug, s!"Parse failed: {f.error.message}"⟩

/-- The verdict as it is. -/
def parse (p : Parser) (source : String) : Verdict × List LogRecord := p.judge source

/-- The value, or nothing if the text does not match. -/
def parseOrNull (p : Parser) (source : String) : Except Fault Value × List LogRecord :=
  match p.judge source with
  | (.parsed v _, log) => (.ok v, log)
  | (.failed f, log) => (.ok .null, log ++ [failedRecord f])
  | (.faulted f, log) => (.error f, log)

/-- The value and the location of the whole text, or nothing and the location of the failure. -/
def parseWithLocation (p : Parser) (source : String) :
    Except Fault (Value × Location) × List LogRecord :=
  match p.judge source with
  | (.parsed v whole, log) => (.ok (v, whole), log)
  | (.failed f, log) => (.ok (.null, f.error.location), log ++ [failedRecord f])
  | (.faulted f, log) => (.error f, log)

/-- The value and no failure, or nothing and the failure. -/
def parseAsPair (p : Parser) (source : String) :
    Except Fault (Value × Option Failure) × List LogRecord :=
  match p.judge source with
  | (.parsed v _, log) => (.ok (v, none), log)
  | (.failed f, log) => (.ok (.null, some f), log ++ [failedRecord f])
  | (.faulted f, log) => (.error f, log)

/-- A rule that matches gives its value, with the location of the whole text. -/
theorem attemptRule_of_value {limits : Limits} {g : Grammar} {top : Rule} {source : String}
    {v : Value} {c : Cursor source.toList}
    (h : (top.call limits).run (g.cursor source.toList) = (.value v, c)) :
    attemptRule limits g top source =
      .parsed v ⟨source.toList, ⟨0, source.toList.length, Nat.zero_le _⟩,
        String.ofList (c.lexeme ⟨0, source.toList.length, Nat.zero_le _⟩), c.moveTo 0⟩ := by
  have hwhole := Cursor.locate_of_le (c := c) (Nat.zero_le source.toList.length) (Nat.zero_le _)
  simp only [attemptRule, h]
  rw [show c.locate 0 source.toList.length = _ from hwhole]
  rfl

theorem attemptRule_of_failure {limits : Limits} {g : Grammar} {top : Rule} {source : String}
    {e : ParseError} {c : Cursor source.toList}
    (h : (top.call limits).run (g.cursor source.toList) = (.failure e, c)) :
    attemptRule limits g top source = .failed ⟨e, none⟩ := by
  simp only [attemptRule, h]

theorem attemptRule_of_fault {limits : Limits} {g : Grammar} {top : Rule} {source : String}
    {f : Fault} {c : Cursor source.toList}
    (h : (top.call limits).run (g.cursor source.toList) = (.fault f, c)) :
    attemptRule limits g top source = .faulted f := by
  simp only [attemptRule, h]

/-- A text beyond the limit is refused, whatever the parser makes of texts. -/
theorem judge_of_refuses {p : Parser} {source : String} (h : p.refuses source.length = true) :
    (p.judge source).1 = .faulted (.oversized source.length p.limit.toNat) := by
  simp [judge, h]

/-- A text within the limit is attempted. -/
theorem judge_of_le {p : Parser} {source : String} (h : (source.length : Int) ≤ p.limit) :
    (p.judge source).1 = p.attempt source := by
  have hfits : p.refuses source.length = false := by
    rw [refuses, decide_eq_false (by omega : ¬ p.limit < source.length), Bool.and_false]
  simp [judge, hfits]

end Parser

end Descent
