import Descent.Proofs.Everywhere
import Descent.Proofs.Matching
import Descent.Text.Integer

/-!
# Errors on a single line

The rendering of an error with line, column and message has no line end of its own, but a message
quotes the text: a literal what it had read before the mismatch, a token and the end of the text the
character that they have met. Where the line end is a blank character, no token and no end of the
text ever meets it, and a literal reads over it between two of its characters. Where it is not, no
literal that is itself on one line reads it, and a token and the end of the text quote it when they
fail on it. So one look at where an error ends tells whether its rendering is a single line.

What an action raises is followed through each way of combining actions, and from there through all
runs by induction on their depth.
-/

namespace Descent

variable {text : List Char} {b : Blanks}

/-! ## Messages -/

theorem lineEnd_not_mem_toString (n : Int) : '\n' ∉ (toString n).toList := by
  intro h
  rcases mem_toString h with h | h
  · revert h
    decide
  · revert h
    decide

theorem lineEnd_not_mem_intercalate {words : List String}
    (h : ∀ word ∈ words, '\n' ∉ word.toList) : '\n' ∉ (", ".intercalate words).toList := by
  have hcomma : '\n' ∉ ", ".toList := by decide
  induction words with
  | nil => exact List.not_mem_nil
  | cons word rest ih =>
    have hrest := ih fun w hw => h w (List.mem_cons_of_mem word hw)
    have hword := h word List.mem_cons_self
    cases rest with
    | nil =>
      rw [String.intercalate_singleton]
      exact hword
    | cons next rest =>
      rw [String.intercalate_cons_cons, String.toList_append, String.toList_append]
      simp only [List.mem_append, not_or]
      exact ⟨⟨hword, hcomma⟩, hrest⟩

/-- What was expected is told on one line, so that a line end can only be in what was found. -/
theorem lineEnd_mem_expected {wanted found : String} (h : '\n' ∉ wanted.toList) :
    '\n' ∈ ("expected " ++ wanted ++ " found " ++ found).toList ↔ '\n' ∈ found.toList := by
  have hexpected : '\n' ∉ "expected ".toList := by decide
  have hfound : '\n' ∉ " found ".toList := by decide
  simp only [String.toList_append, List.mem_append, h, hexpected, hfound, false_or]

theorem lineEnd_not_mem_endWord : '\n' ∉ Issue.endWord.toList := by decide

theorem lineEnd_mem_singleton {c : Char} : '\n' ∈ (String.singleton c).toList ↔ c = '\n' := by
  rw [String.toList_singleton, List.mem_singleton]
  exact eq_comm

namespace ParseError

/-- Line and column are written without a line end. -/
theorem lineEnd_mem_simple (e : ParseError) :
    '\n' ∈ e.simple.toList ↔ '\n' ∈ e.message.toList := by
  have hline : '\n' ∉ (toString e.location.snapshot.line).toList :=
    lineEnd_not_mem_toString (e.location.snapshot.line : Int)
  have hcolumn := lineEnd_not_mem_toString e.location.snapshot.column
  have hcolon : '\n' ∉ ":".toList := by decide
  have hspace : '\n' ∉ ": ".toList := by decide
  show '\n' ∈ (toString e.location.snapshot.line ++ ":" ++ toString e.location.snapshot.column ++
    ": " ++ e.message).toList ↔ _
  simp only [String.toList_append, List.mem_append, hline, hcolumn, hcolon, hspace, false_or]

/-! ## Where a message quotes a line end -/

/-- A literal has read over a line end, or a token or the end of the text has met one. -/
def ShowsLineEnd (e : ParseError) : Prop :=
  match e.issue with
  | .expectedLiteral .. => '\n' ∈ e.location.lexeme.toList
  | .expectedPattern .. => e.location.text[e.location.span.stop]? = some '\n'
  | .expectedEnd _ => e.location.text[e.location.span.stop]? = some '\n'
  | _ => False

/-- An error has a line end in its rendering exactly if it shows one. One that is blank has been
read over by a literal, of which it parts two characters, and one that is not has been met. -/
structure TellsLineEnds (b : Blanks) (e : ParseError) : Prop where
  mem_simple_iff : '\n' ∈ e.simple.toList ↔ e.ShowsLineEnd
  of_blank : b.skips '\n' = true → e.ShowsLineEnd →
    ∃ literal found, e.issue = .expectedLiteral literal found ∧ 3 ≤ literal.length
  of_not_blank : b.skips '\n' = false → e.ShowsLineEnd →
    e.code = .expectedPattern ∨ e.code = .expectedEnd

/-- An error of which the message quotes nothing tells of no line ends. -/
theorem tellsLineEnds_of_not_mem {e : ParseError} (hmessage : '\n' ∉ e.message.toList)
    (hshows : ¬ e.ShowsLineEnd) : e.TellsLineEnds b where
  mem_simple_iff := by
    rw [lineEnd_mem_simple]
    exact ⟨fun h => absurd h hmessage, fun h => absurd h hshows⟩
  of_blank _ h := absurd h hshows
  of_not_blank _ h := absurd h hshows

theorem tellsLineEnds_noMatch {labels notes : List String} {location : Location}
    (h : ∀ label ∈ labels, '\n' ∉ label.toList) :
    TellsLineEnds b { located (.noMatch labels) location none with notes } := by
  apply tellsLineEnds_of_not_mem
  · have hwords := lineEnd_not_mem_intercalate h
    have hstart : '\n' ∉ "no match: expected one of ".toList := by decide
    show '\n' ∉ ("no match: expected one of " ++ ", ".intercalate labels).toList
    rw [String.toList_append, List.mem_append, not_or]
    exact ⟨hstart, hwords⟩
  · exact id

theorem tellsLineEnds_countMismatch {min : Int} {max : Option Int} {found : Int}
    {location : Location} :
    TellsLineEnds b (located (.countMismatch min max found) location none) := by
  apply tellsLineEnds_of_not_mem
  · have hbound : '\n' ∉ (Issue.boundText max).toList := by
      cases max with
      | none => decide
      | some n => exact lineEnd_not_mem_toString n
    have hmin := lineEnd_not_mem_toString min
    have hfound := lineEnd_not_mem_toString found
    show '\n' ∉ ("expected " ++ toString min ++ ".." ++ Issue.boundText max ++ " found " ++
      toString found).toList
    simp only [String.toList_append, List.mem_append, hbound, hmin, hfound, or_false]
    decide
  · exact id

end ParseError

/-! ## What is quoted -/

theorem Blanks.trims_of_skips {c : Char} (h : b.skips c = true) : b.trims c = true := by
  unfold Blanks.skips at h
  unfold Blanks.trims
  rw [List.any_eq_true] at h ⊢
  obtain ⟨entry, hentry, hc⟩ := h
  refine ⟨entry, hentry, ?_⟩
  rw [beq_iff_eq.1 hc]
  simp

/-- A character that is trimmed from the ends stands between two that are not. -/
theorem two_le_length_visible {trims : Char → Bool} {cs : List Char} {x : Char}
    (htrims : trims x = true) (hx : x ∈ trimBoth trims cs) : 2 ≤ (visible trims cs).length := by
  match h : visible trims cs with
  | [] =>
    have hhead := head?_trimBoth trims cs
    rw [h, List.head?_nil, List.head?_eq_none_iff] at hhead
    rw [hhead] at hx
    exact absurd hx List.not_mem_nil
  | [y] =>
    rw [trimBoth_of_visible_eq_singleton h] at hx
    have hy : y ∈ visible trims cs := by
      rw [h]
      exact List.mem_cons_self
    have hkept := (List.mem_filter.1 hy).2
    rw [← List.mem_singleton.1 hx, htrims] at hkept
    cases hkept
  | _ :: _ :: rest =>
    rw [List.length_cons, List.length_cons]
    omega

theorem length_visible_le {p q : Char → Bool} (h : ∀ c, q c = true → p c = true)
    (cs : List Char) : (visible p cs).length ≤ (visible q cs).length := by
  unfold visible
  rw [← List.countP_eq_length_filter, ← List.countP_eq_length_filter]
  apply List.countP_mono_left
  intro c _ hc
  cases hq : q c with
  | false => rfl
  | true =>
    rw [h c hq] at hc
    exact hc

namespace Cursor

variable {c : Cursor text}

/-- Behind the location of the characters before a visible one stands that one. -/
theorem getElem?_stop_stretch (c : Cursor text) (k : Nat) :
    text[(c.stretch (c.gap k)).span.stop]? = c.visible[k]? := by
  have hhead : (c.rest.drop (c.gap k)).head? = c.visible[k]? := head?_drop_offset k c.rest
  rw [← hhead, List.head?_drop, rest, List.getElem?_drop]
  rfl

/-- The characters of a lexeme stand in the text, where they are visible or blank. -/
theorem mem_visible_of_mem_lexeme {k : Nat} {x : Char}
    (hx : x ∈ (c.stretch (c.gap k)).lexeme.toList) (hvisible : c.blanks.skips x = false) :
    x ∈ c.visible.take k := by
  have hmem : x ∈ c.rest.take (c.gap k) := by
    apply mem_of_mem_trimBoth (p := c.blanks.trims)
    rw [stretch, String.toList_ofList] at hx
    exact hx
  have htake : Descent.visible c.blanks.skips (c.rest.take (c.gap k)) = c.visible.take k :=
    visible_take_offset k c.rest
  rw [← htake]
  apply List.mem_filter.2
  exact ⟨hmem, by rw [hvisible]; rfl⟩

/-- A blank character stays in a lexeme only between two visible ones. -/
theorem two_le_of_mem_lexeme {k : Nat} {x : Char}
    (hx : x ∈ (c.stretch (c.gap k)).lexeme.toList) (hblank : c.blanks.skips x = true) : 2 ≤ k := by
  have hmem : x ∈ trimBoth c.blanks.trims (c.rest.take (c.gap k)) := by
    rw [stretch, String.toList_ofList] at hx
    exact hx
  have htake : Descent.visible c.blanks.skips (c.rest.take (c.gap k)) = c.visible.take k :=
    visible_take_offset k c.rest
  have htwo := two_le_length_visible (Blanks.trims_of_skips hblank) hmem
  have hle := length_visible_le (fun y => Blanks.trims_of_skips (b := c.blanks) (c := y))
    (c.rest.take (c.gap k))
  rw [htake, List.length_take] at hle
  omega

end Cursor

/-! ## What is raised -/

/-- A run has left the cursor valid and with its blank characters, and its error has a property. -/
structure Cursor.Leaves {α : Type} (P : ParseError → Prop) (b : Blanks)
    (result : Outcome α × Cursor text) : Prop where
  valid : result.2.Valid
  blanks_eq : result.2.blanks = b
  failure : ∀ e, result.1 = .failure e → P e

namespace Action

variable {α β : Type} {P : ParseError → Prop}

/-- From valid cursors with the blank characters, the errors of an action have a property, and the
cursor stays valid. -/
def Raises (text : List Char) (b : Blanks) (P : ParseError → Prop) (x : Action α) : Prop :=
  ∀ c : Cursor text, c.Valid → c.blanks = b → Cursor.Leaves P b (x.run c)

/-- Ending on the spot with a value raises nothing. -/
theorem leaves_value {c : Cursor text} (hc : c.Valid) (hb : c.blanks = b) (a : α) :
    Cursor.Leaves P b (.value a, c) := by
  refine ⟨hc, hb, fun e he => ?_⟩
  cases he

/-- Ending on the spot with a fault raises no parse error. -/
theorem leaves_fault {c : Cursor text} (hc : c.Valid) (hb : c.blanks = b) (f : Fault) :
    Cursor.Leaves P b ((.fault f : Outcome α), c) := by
  refine ⟨hc, hb, fun e he => ?_⟩
  cases he

theorem raises_fault (f : Fault) : Raises text b P (fault f : Action α) :=
  fun _ hc hb => leaves_fault hc hb f

theorem raises_pure (a : α) : Raises text b P (pure a) :=
  fun _ hc hb => leaves_value hc hb a

theorem raises_mark : Raises text b P mark := by
  intro c hc hb
  rw [mark_of_valid hc]
  exact leaves_value hc hb c.pos

theorem raises_locateFrom (start : Int) : Raises text b P (locateFrom start) := by
  intro c hc hb
  show Cursor.Leaves P b (Outcome.ofPosition (c.locate start c.pos), c)
  cases c.locate start c.pos with
  | ok l => exact leaves_value hc hb l
  | error e => exact leaves_fault hc hb (.position e)

theorem raises_fail {issue : Issue} {location : Location}
    (h : P (.located issue location none)) : Raises text b P (fail issue location : Action α) := by
  intro c hc hb
  refine ⟨hc, hb, fun e he => ?_⟩
  cases he
  exact h

/-- What two actions in order raise, one of them raises. -/
theorem Raises.bind {x : Action α} {f : α → Action β} (hx : Raises text b P x)
    (hf : ∀ a, Raises text b P (f a)) : Raises text b P (x.bind f) := by
  intro c hc hb
  have hleaves := hx c hc hb
  rcases hr : x.run c with ⟨o, d⟩
  rw [hr] at hleaves
  cases o with
  | value a =>
    rw [bind_of_value hr]
    exact hf a d hleaves.valid hleaves.blanks_eq
  | failure e =>
    rw [bind_of_failure hr]
    exact ⟨hleaves.valid, hleaves.blanks_eq, fun e' he => hleaves.failure e' (by cases he; rfl)⟩
  | fault f =>
    rw [bind_of_fault hr]
    exact leaves_fault hleaves.valid hleaves.blanks_eq f

/-- A function raises errors of its own at most. -/
theorem Raises.transform {x : Action α} {f : α → Outcome β} (hx : Raises text b P x)
    (hf : ∀ a e, f a = .failure e → P e) : Raises text b P (x.transform f) := by
  intro c hc hb
  have hleaves := hx c hc hb
  rcases hr : x.run c with ⟨o, d⟩
  rw [hr] at hleaves
  cases o with
  | value a =>
    rw [transform_of_value hr]
    exact ⟨hleaves.valid, hleaves.blanks_eq, fun e he => hf a e he⟩
  | failure e =>
    rw [transform_of_failure hr]
    exact ⟨hleaves.valid, hleaves.blanks_eq, fun e' he => hleaves.failure e' (by cases he; rfl)⟩
  | fault f =>
    rw [transform_of_fault hr]
    exact leaves_fault hleaves.valid hleaves.blanks_eq f

theorem Raises.mapValue {x : Action α} (hx : Raises text b P x) (f : α → β) :
    Raises text b P (x.mapValue f) := by
  apply hx.transform
  intro a e h
  cases h

theorem raises_seqFrom {actions : List (Bool × Action α)}
    (hall : ∀ entry ∈ actions, Raises text b P entry.2) (values : List α) :
    Raises text b P (seqFrom values actions) := by
  induction actions generalizing values with
  | nil => exact raises_pure values
  | cons entry rest ih =>
    have hrest := fun e he => hall e (List.mem_cons_of_mem entry he)
    exact (hall entry List.mem_cons_self).bind fun v => ih hrest _

/-- A choice raises only that no alternative matches. -/
theorem raises_choices {alternatives : List (String × Action α)}
    (hall : ∀ entry ∈ alternatives, Raises text b P entry.2)
    (hP : ∀ location notes,
      P { ParseError.located (.noMatch (alternatives.map Prod.fst)) location none with notes }) :
    Raises text b P (choices alternatives) := by
  intro s hs hsb
  rw [choices_of_valid hs]
  -- from here on the labels are those of all alternatives, and the induction is on what is left
  generalize alternatives.map Prod.fst = labels at hP
  have hfrom : ∀ (p : Int) (notes : List String) (c : Cursor text), c.blanks = b →
      Cursor.Leaves P b ((choicesFrom labels s.pos p notes alternatives).run c) := by
    induction alternatives with
    | nil =>
      intro p notes c hb
      have hback : (c.moveTo s.pos).Valid := hs
      cases hl : c.locate s.pos p with
      | ok location =>
        simp only [choicesFrom, hl]
        refine ⟨hback, hb, fun e he => ?_⟩
        cases he
        exact hP location notes
      | error e =>
        simp only [choicesFrom, hl]
        exact leaves_fault hback hb (.position e)
    | cons entry rest ih =>
      intro p notes c hb
      obtain ⟨label, action⟩ := entry
      have hleaves := hall _ List.mem_cons_self (c.moveTo s.pos) hs hb
      rcases hr : action.run (c.moveTo s.pos) with ⟨o, d⟩
      rw [hr] at hleaves
      cases o with
      | value a =>
        rw [choicesFrom_cons_of_value hr]
        exact hleaves
      | failure e =>
        rw [choicesFrom_cons_of_failure hr]
        exact ih (fun e he => hall e (List.mem_cons_of_mem _ he)) _ _ d hleaves.blanks_eq
      | fault f =>
        rw [choicesFrom_cons_of_fault hr]
        exact hleaves
  exact hfrom s.pos [] s hsb

theorem raises_manyFrom {x : Action α} (hx : Raises text b P x) (limit : Nat) (values : List α) :
    Raises text b P (manyFrom x limit values) := by
  induction limit generalizing values with
  | zero => exact raises_fault _
  | succ limit ih =>
    intro c hc hb
    have hleaves := hx c hc hb
    rcases hr : x.run c with ⟨o, d⟩
    rw [hr] at hleaves
    cases o with
    | value a =>
      by_cases hm : d.pos = c.pos
      · rw [manyFrom_of_still hc hr hm]
        exact leaves_value hleaves.valid hleaves.blanks_eq _
      · rw [manyFrom_of_value hc hr hm]
        exact ih _ d hleaves.valid hleaves.blanks_eq
    | failure e =>
      have hback : (d.moveTo c.pos).Valid := hc
      rw [manyFrom_of_failure hc hr]
      exact leaves_value hback hleaves.blanks_eq values
    | fault f =>
      rw [manyFrom_of_fault hc hr]
      exact leaves_fault hleaves.valid hleaves.blanks_eq f

/-- What is reported of a stretch of the text is a parse error at most. -/
theorem raises_failFrom {start : Int} {issue : Issue}
    (hP : ∀ location, P (.located issue location none)) :
    Raises text b P (failFrom start issue : Action α) := by
  intro c hc hb
  rcases Nat.lt_or_ge digitLimit issue.mostDigits with hlong | hshort
  · rw [failFrom_of_lt hlong]
    exact leaves_fault hc hb _
  · rw [failFrom_of_le hshort]
    exact ((raises_locateFrom start).bind fun location => raises_fail (hP location)) c hc hb

/-- A repetition raises only that its count is out of bounds. -/
theorem raises_many {x : Action α} (hx : Raises text b P x) (patience : Nat) {min : Int}
    {max : Option Int}
    (hP : ∀ found location, P (.located (.countMismatch min max found) location none)) :
    Raises text b P (many patience min max x) := by
  have hrepeated : Raises text b P (repeated patience x) := raises_manyFrom hx _ []
  apply raises_mark.bind
  intro start
  apply hrepeated.bind
  intro values
  by_cases hwithin : withinBounds min max values.length = true
  · show Raises text b P (if withinBounds min max values.length then pure values else _)
    rw [if_pos hwithin]
    exact raises_pure values
  · show Raises text b P (if withinBounds min max values.length then pure values
      else failFrom start (.countMismatch min max values.length))
    rw [if_neg hwithin]
    exact raises_failFrom (hP values.length)

theorem raises_catching {x : Action α} {handler : ParseError → Outcome α}
    (hx : Raises text b P x) (hh : ∀ e e', P e → handler e = .failure e' → P e') :
    Raises text b P (catching handler x) := by
  intro c hc hb
  have hleaves := hx c hc hb
  rcases hr : x.run c with ⟨o, d⟩
  rw [hr] at hleaves
  cases o with
  | value a =>
    rw [catching_of_value hc hr]
    exact hleaves
  | failure e =>
    have hback : (d.moveTo c.pos).Valid := hc
    rw [catching_of_failure hc hr]
    exact ⟨hback, hleaves.blanks_eq, fun e' he => hh e e' (hleaves.failure e rfl) he⟩
  | fault f =>
    rw [catching_of_fault hc hr]
    exact hleaves

/-! ## Primitive actions -/

open ParseError

/-- The message of a literal quotes what has been read of it. -/
theorem raises_tag {literal : String} (hne : literal.toList ≠ []) (hline : '\n' ∉ literal.toList) :
    Raises text b (TellsLineEnds b) (tag literal) := by
  intro c hc hb
  rw [tag_of_valid hc hne]
  refine ⟨hc.onto _, hb, fun e he => ?_⟩
  have htake := take_agreement literal.toList c.visible
  have hlen := agreement_le_length literal.toList c.visible
  generalize agreement literal.toList c.visible = k at he htake hlen
  unfold tagOutcome at he
  split at he
  · cases he
  next hk =>
    cases hy : c.visible[k]? with
    | none =>
      rw [hy] at he
      cases he
      apply tellsLineEnds_of_not_mem
      · exact (lineEnd_mem_expected hline).not.2 lineEnd_not_mem_endWord
      · exact id
    | some y =>
      rw [hy] at he
      cases he
      refine ⟨?_, fun hblank hshows => ?_, fun hnot hshows => ?_⟩
      · rw [lineEnd_mem_simple]
        exact lineEnd_mem_expected hline
      · have htwo : 2 ≤ k := Cursor.two_le_of_mem_lexeme hshows (hb ▸ hblank)
        refine ⟨literal, _, rfl, ?_⟩
        rw [← String.length_toList]
        omega
      · have hmem := Cursor.mem_visible_of_mem_lexeme hshows (hb ▸ hnot)
        rw [← htake] at hmem
        exact absurd (List.mem_of_mem_take hmem) hline

/-- A message that quotes the visible character ahead tells of it. -/
theorem tellsLineEnds_of_head {c : Cursor text} {issue : Issue} {first : Char}
    (hfirst : c.visible.head? = some first) (hb : c.blanks = b)
    (hmessage : '\n' ∈ issue.message.toList ↔ first = '\n')
    (hcode : issue.code = .expectedPattern ∨ issue.code = .expectedEnd)
    (hshows : ShowsLineEnd (.located issue (c.stretch (c.gap 0)) none) ↔
      text[(c.stretch (c.gap 0)).span.stop]? = some '\n') :
    TellsLineEnds b (.located issue (c.stretch (c.gap 0)) none) := by
  have hstop : text[(c.stretch (c.gap 0)).span.stop]? = some first := by
    rw [Cursor.getElem?_stop_stretch, ← List.head?_eq_getElem?, hfirst]
  have hvisible : b.skips first = false := by
    rw [← hb]
    exact Cursor.skips_of_mem_visible (List.mem_of_mem_head? hfirst)
  rw [hstop, Option.some.injEq] at hshows
  refine ⟨?_, fun hblank h => ?_, fun _ _ => hcode⟩
  · rw [lineEnd_mem_simple, hshows]
    exact hmessage
  · rw [hshows.1 h, hblank] at hvisible
    cases hvisible

theorem raises_regex {pattern : String} (hline : '\n' ∉ pattern.toList)
    (accepts : List Char → Bool) : Raises text b (TellsLineEnds b) (regex pattern accepts) := by
  intro c hc hb
  rw [regex_of_valid hc]
  split
  · refine ⟨hc, hb, fun e he => ?_⟩
    cases hfirst : c.visible.head? with
    | none =>
      rw [hfirst] at he
      cases he
      apply tellsLineEnds_of_not_mem
      · exact (lineEnd_mem_expected hline).not.2 lineEnd_not_mem_endWord
      · exact id
    | some first =>
      rw [hfirst] at he
      cases he
      exact tellsLineEnds_of_head hfirst hb
        ((lineEnd_mem_expected hline).trans lineEnd_mem_singleton) (.inl rfl) Iff.rfl
  · exact leaves_value (hc.onto _) hb _

theorem raises_eof : Raises text b (TellsLineEnds b) eof := by
  intro c hc hb
  rw [eof_of_valid hc]
  refine ⟨hc.onto 0, hb, fun e he => ?_⟩
  cases hfirst : c.visible.head? with
  | none =>
    rw [hfirst] at he
    cases he
  | some first =>
    rw [hfirst] at he
    cases he
    exact tellsLineEnds_of_head hfirst hb
      ((lineEnd_mem_expected lineEnd_not_mem_endWord).trans lineEnd_mem_singleton) (.inr rfl)
      Iff.rfl

end Action

/-! ## Rules -/

namespace Rule

/-- A rule is spoken of on one line. -/
def LabelOnLine (_env : List Rule) (r : Rule) : Prop := '\n' ∉ r.label.toList

/-- The functions of a rule raise no parse errors of their own: one on values raises none, and one
on errors none but the error that it is given. -/
def PassesOn (_env : List Rule) : Rule → Prop
  | .action _ => False
  | .map f _ => ∀ v e, f v ≠ .failure e
  | .catching handler _ => ∀ e e', handler e = .failure e' → e' = e
  | _ => True

/-- What is asked of a rule for its errors to tell of line ends. -/
structure OnLine (env : List Rule) (r : Rule) : Prop where
  wellFormed : WellFormed env r
  label : LabelOnLine env r
  passesOn : PassesOn env r

open Descent.Action ParseError

/-- The errors of all runs of a rule tell of the line ends that they show. -/
theorem run_raises {env : List Rule} {r : Rule} (h : Throughout OnLine env r) (text : List Char)
    (b : Blanks) (patience limit : Nat) :
    Raises text b (TellsLineEnds b) (run patience limit env r) := by
  induction limit generalizing env r with
  | zero => exact raises_fault .tooDeep
  | succ limit ih =>
    rw [run_succ]
    cases r with
    | tag literal => exact (raises_tag h.here.wellFormed h.here.label).mapValue _
    | regex pattern accepts => exact (raises_regex h.here.label accepts).mapValue _
    | eof => exact raises_eof.mapValue _
    | action x => exact h.here.passesOn.elim
    | map f r =>
      apply (ih h.map).transform
      intro v e hfailure
      exact absurd hfailure (h.here.passesOn v e)
    | both r s => exact ((ih h.both.1).bind fun v => (ih h.both.2).mapValue _).mapValue _
    | keepLeft r s => exact (ih h.keepLeft.1).bind fun v => (ih h.keepLeft.2).mapValue _
    | keepRight r s => exact (ih h.keepRight.1).bind fun v => ih h.keepRight.2
    | choices name rs =>
      apply raises_choices
      · intro entry hentry
        obtain ⟨s, hs, rfl⟩ := List.mem_map.1 hentry
        exact ih (h.choices s hs)
      · intro location notes
        apply tellsLineEnds_noMatch
        intro label hlabel
        obtain ⟨entry, hentry, rfl⟩ := List.mem_map.1 hlabel
        obtain ⟨s, hs, rfl⟩ := List.mem_map.1 hentry
        exact (h.choices s hs).here.label
    | many min max r =>
      apply Raises.mapValue
      apply raises_many (ih h.many) patience
      intro found location
      exact tellsLineEnds_countMismatch
    | seq rs =>
      apply Raises.mapValue
      apply raises_seqFrom
      intro entry hentry
      obtain ⟨s, hs, rfl⟩ := List.mem_map.1 hentry
      exact ih (h.seq s hs)
    | catching handler r =>
      apply raises_catching (ih h.catching)
      intro e e' he hfailure
      rw [h.here.passesOn e e' hfailure]
      exact he
    | named name r => exact ih h.named
    | ignored r => exact ih h.ignored
    | fix level d => exact ih h.fix
    | ref level name =>
      obtain ⟨d, hd, hdef⟩ := h.definition h.here.wellFormed
      rw [layer, hd]
      exact ih hdef

end Rule

/-! ## Several errors -/

theorem mem_intersperse {α : Type} {sep a : α} {as : List α} (h : a ∈ as) :
    a ∈ as.intersperse sep := by
  induction as with
  | nil => exact absurd h List.not_mem_nil
  | cons a' rest ih =>
    cases rest with
    | nil => exact h
    | cons next rest =>
      rw [List.intersperse_cons_cons]
      rcases List.mem_cons.1 h with rfl | h
      · exact List.mem_cons_self
      · exact List.mem_cons_of_mem _ (List.mem_cons_of_mem _ (ih h))

/-- Texts with blank lines between them are as many lines, and the blank ones, exactly if each of
them is a single line. -/
theorem lines_intercalate_iff {words : List (List Char)} (hne : words ≠ []) :
    lines (['\n', '\n'].intercalate words) = words.intersperse [] ↔ ∀ w ∈ words, '\n' ∉ w := by
  constructor
  · intro h w hw
    have hmem : w ∈ lines (['\n', '\n'].intercalate words) := by
      rw [h]
      exact mem_intersperse hw
    exact not_mem_of_mem_lines hmem
  · intro h
    induction words with
    | nil => exact absurd rfl hne
    | cons w rest ih =>
      have hw := h w List.mem_cons_self
      cases rest with
      | nil =>
        rw [List.intercalate_singleton]
        exact lines_of_not_mem hw
      | cons next rest =>
        have hrest := ih (List.cons_ne_nil next rest) fun v hv => h v (List.mem_cons_of_mem w hv)
        have hblank := lines_append_lineEnd [] (['\n', '\n'].intercalate (next :: rest))
        rw [List.intercalate_cons_cons, List.intersperse_cons_cons, List.append_assoc]
        show lines (w ++ '\n' :: ([] ++ '\n' :: ['\n', '\n'].intercalate (next :: rest))) = _
        rw [lines_append_lineEnd, lines_of_not_mem hw, hblank, hrest]
        rfl

namespace ParseError

open Rule

/-- An error has been raised by a rule from a valid cursor with the blank characters: a rule that
has been built, is spoken of on one line in all its parts, and whose functions pass errors on. -/
def Raised (b : Blanks) (e : ParseError) : Prop :=
  ∃ (text : List Char) (c d : Cursor text) (r : Rule) (patience limit : Nat),
    Everywhere WellFormed [] r ∧ Everywhere LabelOnLine [] r ∧ Everywhere PassesOn [] r ∧
      c.Valid ∧ c.blanks = b ∧ (run patience limit [] r).run c = (.failure e, d)

theorem Raised.tellsLineEnds {e : ParseError} (h : e.Raised b) : e.TellsLineEnds b := by
  obtain ⟨text, c, d, r, patience, limit, built, labels, passes, hc, hb, hr⟩ := h
  have onLine : Throughout OnLine [] r :=
    .of_everywhere ((built.and (labels.and passes)).mono fun env r h => ⟨h.1, h.2.1, h.2.2⟩)
  have hleaves := run_raises onLine text b patience limit c hc hb
  rw [hr] at hleaves
  exact hleaves.failure e rfl

/-- The rendering with line, column and message of an error has a line end exactly if the error
shows one. Where the line end is a blank character, this is the error of a literal with three
characters or more, and where it is not, that of a token or of the end of the text. So several
errors are as many lines, with blank lines between them, exactly if none of them shows a line
end. -/
theorem formatAll_simple_lines {es : List ParseError} (raised : ∀ e ∈ es, ∃ b, e.Raised b) :
    (∀ e ∈ es, ('\n' ∈ e.simple.toList ↔ e.ShowsLineEnd) ∧
      ∀ b, e.Raised b → e.ShowsLineEnd →
        if b.skips '\n' then
          ∃ literal found, e.issue = .expectedLiteral literal found ∧ 3 ≤ literal.length
        else e.code = .expectedPattern ∨ e.code = .expectedEnd) ∧
      ∀ room, formatAll room .simple [] = .ok "" ∧
        (es ≠ [] → ∃ all, formatAll room .simple es = .ok all ∧
          (lines all.toList = (es.map fun e => e.simple.toList).intersperse [] ↔
            ∀ e ∈ es, ¬ e.ShowsLineEnd)) := by
  have tells : ∀ e ∈ es, ('\n' ∈ e.simple.toList ↔ e.ShowsLineEnd) := by
    intro e he
    obtain ⟨b, hb⟩ := raised e he
    exact hb.tellsLineEnds.mem_simple_iff
  refine ⟨fun e he => ⟨tells e he, fun b hb hshows => ?_⟩,
    fun room => ⟨rfl, fun hne => ⟨_, formatAll_simple room es, ?_⟩⟩⟩
  · split
    next hblank => exact hb.tellsLineEnds.of_blank hblank hshows
    next hnot => exact hb.tellsLineEnds.of_not_blank (Bool.eq_false_of_not_eq_true hnot) hshows
  · -- joined by two line ends, the renderings are lines of their own if none has a line end
    have hall : ("\n\n".intercalate (es.map simple)).toList =
        ['\n', '\n'].intercalate (es.map fun e => e.simple.toList) := by
      rw [String.toList_intercalate, List.map_map]
      rfl
    have hwords : (es.map fun e => e.simple.toList) ≠ [] := by
      intro h
      exact hne (List.map_eq_nil_iff.1 h)
    rw [hall, lines_intercalate_iff hwords, List.forall_mem_map]
    constructor
    · intro h e he hshows
      exact h e he ((tells e he).2 hshows)
    · intro h e he hmem
      exact h e he ((tells e he).1 hmem)

/-- What a word of three letters raises on a text that ends inside it. -/
def endedWord : ParseError :=
  .located (.literalAtEnd "abc")
    ((⟨0, .ofList ["\n"]⟩ : Cursor ['a', '\n', 'b']).stretch 3) none

/-- What it raises on a text that goes on otherwise. -/
def brokenWord : ParseError :=
  .located (.expectedLiteral "abc" "a\nb")
    ((⟨0, .ofList ["\n"]⟩ : Cursor ['a', '\n', 'b', 'x']).stretch 3) none

/-- Where line ends are blank and one stands behind the first letter of a word, a text that ends
inside the word is told of on one line. One that goes on otherwise is not, as the letters that were
read are quoted with the line end between them. -/
theorem words_lines :
    (∀ e ∈ [endedWord, brokenWord], ∃ b, e.Raised b) ∧ '\n' ∉ endedWord.simple.toList ∧
      '\n' ∈ brokenWord.simple.toList ∧
      ∀ room, ∃ all, formatAll room .simple [endedWord, brokenWord] = .ok all ∧
        lines all.toList ≠ [endedWord.simple.toList, [], brokenWord.simple.toList] := by
  have built : Everywhere WellFormed [] (.tag "abc") := by simp [WellFormed]
  have labels : Everywhere LabelOnLine [] (.tag "abc") := by
    simp [LabelOnLine, Rule.label, Rule.name]
  have passes : Everywhere PassesOn [] (.tag "abc") := by simp [PassesOn]
  have ended : endedWord.Raised (.ofList ["\n"]) :=
    ⟨['a', '\n', 'b'], ⟨0, _⟩, _, .tag "abc", 0, 20, built, labels, passes, by decide, rfl, rfl⟩
  have broken : brokenWord.Raised (.ofList ["\n"]) :=
    ⟨['a', '\n', 'b', 'x'], ⟨0, _⟩, _, .tag "abc", 0, 20, built, labels, passes, by decide, rfl,
      rfl⟩
  have raised : ∀ e ∈ [endedWord, brokenWord], ∃ b, e.Raised b := by
    intro e he
    simp only [List.mem_cons, List.not_mem_nil, or_false] at he
    rcases he with rfl | rfl
    · exact ⟨_, ended⟩
    · exact ⟨_, broken⟩
  have shows : brokenWord.ShowsLineEnd := by
    show '\n' ∈ "a\nb".toList
    decide
  obtain ⟨each, several⟩ := formatAll_simple_lines raised
  refine ⟨raised, ?_, (each brokenWord (by simp)).1.2 shows, fun room => ?_⟩
  · intro hmem
    exact (each endedWord (by simp)).1.1 hmem
  · obtain ⟨all, hall, hlines⟩ := (several room).2 (List.cons_ne_nil _ _)
    exact ⟨all, hall, fun h => hlines.1 h brokenWord (by simp) shows⟩

/-- What the end of the text raises at a line end that is not blank. -/
def atLineEnd : ParseError :=
  .located (.expectedEnd "\n") ((⟨0, .empty⟩ : Cursor ['\n']).stretch 0) none

/-- The end of the text, which has no name with a line end in it, raises an error whose rendering
takes two lines. -/
theorem atLineEnd_takes_two_lines :
    Everywhere WellFormed [] .eof ∧ Everywhere LabelOnLine [] .eof ∧ Everywhere PassesOn [] .eof ∧
      (⟨0, .empty⟩ : Cursor ['\n']).Valid ∧
      (run 0 20 [] .eof).run (⟨0, .empty⟩ : Cursor ['\n']) = (.failure atLineEnd, ⟨0, .empty⟩) ∧
      '\n' ∈ atLineEnd.simple.toList ∧
      ∀ room, ∃ all, formatAll room .simple [atLineEnd] = .ok all ∧
        lines all.toList = ["0:1: expected eof found ".toList, []] := by
  refine ⟨by simp [WellFormed], ?_, by simp [PassesOn], by decide, rfl, by decide,
    fun room => ⟨_, formatAll_simple room _, by decide⟩⟩
  simp [LabelOnLine, Rule.label, Rule.name, Issue.endWord]

end ParseError

end Descent
