import Descent.Proofs.Propagation
import Descent.Proofs.Visible

/-!
# The verdicts of derived parsers

A parser is derived from another one by a function that its values go through, or by one that its
parse errors go through, and this may be done again and again. The verdict of such a parser on a
text is that of its rule, put through the functions in the order of the derivations
(`Verdict.Passes`): a function sees what the earlier ones have left, and is run only if this is a
value, or only if it is a parse error. All four methods answer by the same verdict. A text beyond
the limit is refused by all of them before anything is run (`Parser.adaptAll_answers`).
-/

namespace Descent

/-! ## Verdicts along a chain of derivations -/

namespace Verdict

/-- The verdict on a text by the run of a rule over it. A value comes with the location of the whole
text. -/
def ofRun {text : List Char} : Outcome Value × Cursor text → Verdict
  | (.value v, c) => .parsed v ((c.moveTo 0).stretch text.length)
  | (.failure e, _) => .failed ⟨e, none⟩
  | (.fault f, _) => .faulted f

/-- The location that comes with a value is that of the whole text. -/
theorem span_of_ofRun {text : List Char} {result : Outcome Value × Cursor text} {v : Value}
    {whole : Location} (h : ofRun result = .parsed v whole) :
    whole.span.start = 0 ∧ whole.span.stop = text.length := by
  obtain ⟨o, c⟩ := result
  cases o with
  | value w =>
    cases h
    exact ⟨rfl, Nat.zero_add _⟩
  | failure e => cases h
  | fault f => cases h

/-- What becomes of a verdict by one derivation. -/
inductive Becomes : Verdict → Adaptation → Verdict → Prop
  /-- A value goes through a function for values, and the location stays. -/
  | mapped {f : Value → Outcome Value} {v w : Value} {whole : Location} (h : f v = .value w) :
      Becomes (.parsed v whole) (.map f) (.parsed w whole)
  /-- A function for values may fail; its error was made from no other one. -/
  | rejected {f : Value → Outcome Value} {v : Value} {whole : Location} {e : ParseError}
      (h : f v = .failure e) : Becomes (.parsed v whole) (.map f) (.failed ⟨e, none⟩)
  | mapFaults {f : Value → Outcome Value} {v : Value} {whole : Location} {x : Fault}
      (h : f v = .fault x) : Becomes (.parsed v whole) (.map f) (.faulted x)
  /-- A function for errors does not see a value. -/
  | valueStays {g : ParseError → Outcome ParseError} {v : Value} {whole : Location} :
      Becomes (.parsed v whole) (.mapError g) (.parsed v whole)
  /-- A function for values does not see an error. -/
  | errorStays {f : Value → Outcome Value} {failure : Failure} :
      Becomes (.failed failure) (.map f) (.failed failure)
  /-- An error goes through a function for errors, and is the cause of the new one. -/
  | reworked {g : ParseError → Outcome ParseError} {failure : Failure} {e : ParseError}
      (h : g failure.error = .value e) :
      Becomes (.failed failure) (.mapError g) (.failed ⟨e, some failure.error⟩)
  /-- A function for errors may fail itself. -/
  | replaced {g : ParseError → Outcome ParseError} {failure : Failure} {e : ParseError}
      (h : g failure.error = .failure e) :
      Becomes (.failed failure) (.mapError g) (.failed ⟨e, none⟩)
  | reworkFaults {g : ParseError → Outcome ParseError} {failure : Failure} {x : Fault}
      (h : g failure.error = .fault x) : Becomes (.failed failure) (.mapError g) (.faulted x)
  /-- No function sees a fault. -/
  | faultStays {x : Fault} {a : Adaptation} : Becomes (.faulted x) a (.faulted x)

/-- What becomes of a verdict by derivations one after another. -/
inductive Passes : Verdict → List Adaptation → Verdict → Prop
  | nil {b : Verdict} : Passes b [] b
  | cons {b b' v : Verdict} {a : Adaptation} {as : List Adaptation} (first : Becomes b a b')
      (rest : Passes b' as v) : Passes b (a :: as) v

variable {b v w : Verdict} {a : Adaptation} {as : List Adaptation}

/-- One derivation makes one verdict of a verdict. -/
theorem Becomes.unique (hv : Becomes b a v) (hw : Becomes b a w) : v = w := by
  cases hv <;> cases hw <;> grind

/-- Derivations one after another make one verdict of a verdict. -/
theorem Passes.unique (hv : Passes b as v) (hw : Passes b as w) : v = w := by
  induction hv with
  | nil =>
    cases hw
    rfl
  | cons first _ ih =>
    cases hw with
    | cons first' rest' =>
      cases first.unique first'
      exact ih rest'

/-- The location of the text stays along the derivations. -/
theorem Passes.exists_parsed (h : Passes b as v) {u : Value} {whole : Location}
    (hv : v = .parsed u whole) : ∃ u', b = .parsed u' whole := by
  induction h with
  | nil => exact ⟨u, hv⟩
  | cons first _ ih =>
    obtain ⟨u', rfl⟩ := ih hv
    cases first with
    | mapped h => exact ⟨_, rfl⟩
    | valueStays => exact ⟨_, rfl⟩

end Verdict

/-! ## Methods by verdicts -/

namespace Parser

/-- The four methods of a parser answer a text by a verdict, after records that are in the log
already. -/
def Answers (p : Parser) (source : String) (log : List LogRecord) : Verdict → Prop
  | .parsed v whole =>
    p.parse source = (.parsed v whole, log) ∧
      p.parseOrNull source = (.ok v, log) ∧
      p.parseWithLocation source = (.ok (v, whole), log) ∧
      p.parseAsPair source = (.ok (v, none), log)
  | .failed failure =>
    p.parse source = (.failed failure, log) ∧
      p.parseOrNull source = (.ok .null, log ++ [failedRecord failure]) ∧
      p.parseWithLocation source =
        (.ok (.null, failure.error.location), log ++ [failedRecord failure]) ∧
      p.parseAsPair source = (.ok (.null, some failure), log ++ [failedRecord failure])
  | .faulted x =>
    p.parse source = (.faulted x, log) ∧
      p.parseOrNull source = (.error x, log) ∧
      p.parseWithLocation source = (.error x, log) ∧
      p.parseAsPair source = (.error x, log)

/-- All methods answer by what the parser judges. -/
theorem answers_of_judge {p : Parser} {source : String} {v : Verdict} {log : List LogRecord}
    (h : p.judge source = (v, log)) : p.Answers source log v := by
  cases v <;> simp [Answers, parse, parseOrNull, parseWithLocation, parseAsPair, h]

/-- A parser that is derived attempts a text with what becomes of the attempt that it is derived
from. -/
theorem becomes_adapt (p : Parser) (a : Adaptation) (source : String) :
    (p.attempt source).Becomes a ((p.adapt a).attempt source) := by
  cases a with
  | map f =>
    show (p.attempt source).Becomes (.map f) ((p.attempt source).map f)
    cases p.attempt source with
    | parsed v whole =>
      rw [Verdict.map]
      cases h : f v with
      | value w => exact .mapped h
      | failure e => exact .rejected h
      | fault x => exact .mapFaults h
    | failed failure => exact .errorStays
    | faulted x => exact .faultStays
  | mapError g =>
    show (p.attempt source).Becomes (.mapError g) ((p.attempt source).mapError g)
    cases p.attempt source with
    | parsed v whole => exact .valueStays
    | failed failure =>
      rw [Verdict.mapError]
      cases h : g failure.error with
      | value e => exact .reworked h
      | failure e => exact .replaced h
      | fault x => exact .reworkFaults h
    | faulted x => exact .faultStays

/-- The same for derivations one after another. -/
theorem passes_adaptAll (p : Parser) (as : List Adaptation) (source : String) :
    (p.attempt source).Passes as ((p.adaptAll as).attempt source) := by
  induction as generalizing p with
  | nil => exact .nil
  | cons a as ih => exact .cons (becomes_adapt p a source) (ih (p.adapt a))

/-- A rule attempts a text by its run over it. -/
theorem attemptRule_eq_ofRun (limits : Limits) (g : Grammar) (top : Rule) (source : String) :
    attemptRule limits g top source = .ofRun ((top.call limits).run (g.cursor source.toList)) := by
  rcases hr : (top.call limits).run (g.cursor source.toList) with ⟨o, c⟩
  cases o with
  | value v =>
    have start : (c.moveTo 0).Valid := ⟨Int.le_refl 0, Int.natCast_nonneg _⟩
    have hwhole := Cursor.locate_eq_stretch (d := c) start rfl source.toList.length
    rw [Cursor.pos_moveTo, Int.zero_add] at hwhole
    simp only [attemptRule, hr, hwhole]
    rfl
  | failure e => exact attemptRule_of_failure hr
  | fault f => exact attemptRule_of_fault hr

/-- Let a parser be derived from that of a rule in any number of steps. A text beyond the limit is
refused by all four methods, with one warning in the log, and nothing has been invoked but the check
of the size. On any other text, the verdict of the rule passes through the functions of the steps,
in their order, and all four methods answer by what has become of it. If this is a value, then the
location with it is that of the whole text. -/
theorem adaptAll_answers (limits : Limits) (g : Grammar) (top : Rule) (limit : Int)
    (as : List Adaptation) (source : String) :
    (0 < limit ∧ limit < source.length →
      ((ofRule limits g top limit).adaptAll as).Answers source
        [⟨.warning, s!"Rejected input of {source.length} characters (limit {limit})"⟩]
        (.faulted (.oversized source.length limit.toNat)) ∧
      ((Logged.parse limits top limit as).run (g.cursor source.toList)).1 =
        [.start .size (g.cursor source.toList),
          .finish .size (.fault (.oversized source.length limit.toNat))
            (g.cursor source.toList)]) ∧
    (¬ (0 < limit ∧ limit < source.length) →
      (∃ v, (Verdict.ofRun ((top.call limits).run (g.cursor source.toList))).Passes as v) ∧
      ∀ v, (Verdict.ofRun ((top.call limits).run (g.cursor source.toList))).Passes as v →
        ((ofRule limits g top limit).adaptAll as).Answers source [] v ∧
        ∀ u whole, v = .parsed u whole →
          whole.span.start = 0 ∧ whole.span.stop = source.length) := by
  have hlimit : ((ofRule limits g top limit).adaptAll as).limit = limit := limit_adaptAll _ as
  refine ⟨fun hbig => ⟨answers_of_judge ?_, ?_⟩, fun hfits => ?_⟩
  · simp only [judge, refuses_adaptAll_iff.mpr hbig, if_true, hlimit]
  · show (((Logged.fitting limit).bind fun _ => _).run _).1 = _
    rw [← String.length_toList] at hbig ⊢
    rw [Logged.run_bind, Logged.fitting, Logged.run_invoke_alone]
    simp only [if_pos hbig]
    rfl
  · -- the size is in order, so the verdict is that of the rule after all steps
    have hjudge : ((ofRule limits g top limit).adaptAll as).judge source =
        (((ofRule limits g top limit).adaptAll as).attempt source, []) :=
      if_neg (mt refuses_adaptAll_iff.mp hfits)
    have hpasses : (Verdict.ofRun ((top.call limits).run (g.cursor source.toList))).Passes as
        (((ofRule limits g top limit).adaptAll as).attempt source) := by
      rw [← attemptRule_eq_ofRun]
      exact passes_adaptAll (ofRule limits g top limit) as source
    refine ⟨⟨_, hpasses⟩, fun v hv => ⟨?_, fun u whole hu => ?_⟩⟩
    · rw [hv.unique hpasses]
      exact answers_of_judge hjudge
    · obtain ⟨u', hrun⟩ := hv.exists_parsed hu
      rw [← String.length_toList]
      exact Verdict.span_of_ofRun hrun

/-- Marks errors, rejects what was read, marks errors once more, and drops values. -/
def marking : List Adaptation :=
  [.mapError fun e => .value { e with notes := ["early"] },
    .map fun
      | .location l => .failure (.located (.expectedEnd l.lexeme) l none)
      | v => .value v,
    .mapError fun e => .value { e with notes := e.notes ++ ["late"] },
    .map fun _ => .value .null]

/-- A letter is rejected after it was read. Only the second mark is put on the error, whose cause is
the error without it. Three letters are beyond the limit of two. -/
theorem marking_answers :
    (∃ failure : Failure,
      ((ofRule ⟨20, 0⟩ .empty (.tag "a") 2).adaptAll marking).parseAsPair "a" =
        (.ok (.null, some failure), [failedRecord failure]) ∧
      failure.error.notes = ["late"] ∧ failure.cause.map (·.notes) = some []) ∧
    0 < (2 : Int) ∧ (2 : Int) < "aaa".length ∧
    ((ofRule ⟨20, 0⟩ .empty (.tag "a") 2).adaptAll marking).parseAsPair "aaa" =
      (.error (.oversized 3 2), [⟨.warning, "Rejected input of 3 characters (limit 2)"⟩]) := by
  have answers := adaptAll_answers ⟨20, 0⟩ .empty (.tag "a") 2 marking
  have passes : ∃ failure : Failure,
      (Verdict.ofRun
        (((Rule.tag "a").call ⟨20, 0⟩).run (Grammar.empty.cursor "a".toList))).Passes marking
        (.failed failure) ∧
      failure.error.notes = ["late"] ∧ failure.cause.map (·.notes) = some [] :=
    ⟨_, .cons .valueStays (.cons (.rejected rfl) (.cons (.reworked rfl) (.cons .errorStays .nil))),
      rfl, rfl⟩
  obtain ⟨failure, hpasses, hnotes, hcause⟩ := passes
  obtain ⟨⟨-, -, -, hpair⟩, -⟩ := ((answers "a").2 (by decide)).2 _ hpasses
  obtain ⟨⟨-, -, -, hrefused⟩, -⟩ := (answers "aaa").1 (by decide)
  exact ⟨⟨failure, hpair, hnotes, hcause⟩, by decide, by decide, hrefused⟩

end Parser

end Descent
