import Descent.Grammar
import Descent.Proofs.Checkpoints
import Descent.Proofs.Matching

/-!
# Registrations

A grammar and the cursors that are made from it are used in any order, and blank characters are
registered with all of them on the way. A registration is all or nothing: either every value is a
single character and exactly these are added, or the first one that is not is named, unless its
integers are too long for that, and nothing changes (`Registers`). One step adds only single
characters, so by induction every set that is reached has only these, and what peeking steps over is
what is trimmed from lexemes. Of all that is done, only what is registered with the grammar itself
makes its set (`Session.run_registers`).
-/

namespace Descent

/-! ## Blank characters -/

namespace Blanks

variable {b : Blanks}

/-- Every entry is a single character. So what peeking steps over is what is trimmed from lexemes:
from any position of a text it finds the first character of the lexeme of all that lies ahead. -/
structure WellFormed (b : Blanks) : Prop where
  single : ∀ e ∈ b.entries, e.length = 1
  skips_eq_trims : ∀ x, b.skips x = b.trims x
  peek_eq_head : ∀ {text : List Char} (c : Cursor text), c.Valid → c.blanks = b →
    ∃ l, c.locate c.pos text.length = .ok l ∧ c.peek.1 = .ok l.lexeme.toList.head?

/-- From a position of a text, peeking finds the first character of the lexeme of the rest. -/
theorem exists_head_lexeme {text : List Char} {c : Cursor text} (h : c.Valid)
    (single : ∀ e ∈ c.blanks.entries, e.length = 1) :
    ∃ l, c.locate c.pos text.length = .ok l ∧ c.peek.1 = .ok l.lexeme.toList.head? := by
  have hlocate := Cursor.locate_of_pos_le h rfl h.2
  refine ⟨_, hlocate, ?_⟩
  have hall : c.rest.take (text.length - c.pos).toNat = c.rest := by
    apply List.take_of_length_le
    have := h.1
    rw [Cursor.length_rest]
    omega
  rw [Cursor.lexeme_stretch single, hall, head?_trimBoth, Cursor.peek_of_valid h]
  rfl

theorem wellFormed_of_single (single : ∀ e ∈ b.entries, e.length = 1) : b.WellFormed where
  single := single
  skips_eq_trims := Blanks.skips_eq_trims single
  peek_eq_head _ hc hb := exists_head_lexeme hc (hb ▸ single)

end Blanks

/-! ## All or nothing -/

/-- Values have been registered in a state that has blank characters. It was refused exactly if some
value is not a single character; then this is a fault of the grammar that names the first such
value, unless that has an integer of more digits than can be written, and the state is as before.
Otherwise the values have been added, and nothing else. -/
structure Registers {σ ρ : Type} (blanks : σ → Blanks) (s : σ) (values : List Value)
    (done : Except Fault ρ × σ) : Prop where
  refused_iff : (∃ f, done.1 = .error f) ↔ ∃ v ∈ values, ¬ v.IsCharacter
  first_named : ∀ f, done.1 = .error f →
    ∃ before first behind, values = before ++ first :: behind ∧ (∀ v ∈ before, v.IsCharacter) ∧
      ¬ first.IsCharacter ∧
      (first.mostDigits ≤ digitLimit → f.kind = .grammar ∧
        f.diagnostic? = some (Issue.invalidBlank first).diagnostic ∧
        f.message = "Whitespace must be a single character, got " ++ first.shown) ∧
      (digitLimit < first.mostDigits → f = .longInteger digitLimit)
  unchanged : ∀ f, done.1 = .error f → done.2 = s
  added : ∀ r, done.1 = .ok r →
    ∀ e, e ∈ (blanks done.2).entries ↔ .text e ∈ values ∨ e ∈ (blanks s).entries

/-- Whoever takes over the blank characters that come of a registration, and keeps its state if the
registration is refused, registers values all or nothing. -/
theorem registers_of_register {σ ρ : Type} {blanks : σ → Blanks} {s : σ} {values : List Value}
    {done : Except Fault ρ × σ}
    (hok : ∀ b, (blanks s).register values = .ok b → (∃ r, done.1 = .ok r) ∧ blanks done.2 = b)
    (herror : ∀ f, (blanks s).register values = .error f → done = (.error f, s)) :
    Registers blanks s values done := by
  rcases (blanks s).register_cases values with
    ⟨b, hb, hall, hmem⟩ | ⟨before, first, behind, hsplit, hall, hfirst, hf⟩
  · -- all values are single characters
    obtain ⟨⟨r, hr⟩, hblanks⟩ := hok b hb
    have accepted : ∀ f, done.1 ≠ .error f := by
      intro f hf
      rw [hr] at hf
      cases hf
    constructor
    · constructor
      · rintro ⟨f, hf⟩
        exact absurd hf (accepted f)
      · rintro ⟨v, hv, hnot⟩
        exact absurd (hall v hv) hnot
    · intro f hf
      exact absurd hf (accepted f)
    · intro f hf
      exact absurd hf (accepted f)
    · intro _ _
      rw [hblanks]
      exact hmem
  · -- the first value that is not one is refused, and those behind it are not looked at
    have refused : done = (.error (.grammar (.invalidBlank first)), s) := herror _ hf
    have hmem : first ∈ values := by
      rw [hsplit]
      exact List.mem_append_right _ List.mem_cons_self
    subst refused
    constructor
    · constructor
      · intro _
        exact ⟨first, hmem, hfirst⟩
      · intro _
        exact ⟨_, rfl⟩
    · intro f hf'
      cases hf'
      refine ⟨before, first, behind, hsplit, hall, hfirst, fun hfits => ?_, fun hlong => ?_⟩
      · rw [Fault.message_grammar (.invalidBlank first) hfits,
          Fault.grammar_of_le (.invalidBlank first) hfits]
        exact ⟨rfl, rfl, rfl⟩
      · exact Fault.grammar_of_lt (.invalidBlank first) hlong
    · intro _ _
      rfl
    · intro r hr
      cases hr

namespace Grammar

/-- A grammar registers the values that are given, or the usual ones if there are none. -/
theorem registers_whitespace (g : Grammar) (values : List Value) :
    Registers Grammar.blanks g (if values.isEmpty then defaultBlanks else values)
      (g.perform (.whitespace values)) := by
  apply registers_of_register
  · intro b hb
    simp only [perform, whitespace, hb]
    exact ⟨⟨_, rfl⟩, rfl⟩
  · intro f hf
    simp only [perform, whitespace, hf]
    rfl

/-- Only a registration changes a grammar, and only its blank characters. -/
theorem perform_cases (g : Grammar) (op : Operation) :
    (g.perform op).2 = g ∨ ∃ values given b, op = .whitespace values ∧
      g.blanks.register given = .ok b ∧ (g.perform op).2 = ⟨b⟩ := by
  cases op with
  | whitespace values =>
    cases hb : g.blanks.register (if values.isEmpty then defaultBlanks else values) with
    | error f =>
      left
      simp only [perform, whitespace, hb]
      rfl
    | ok b =>
      right
      refine ⟨values, _, b, rfl, hb, ?_⟩
      simp only [perform, whitespace, hb]
      rfl
  | peek text => exact .inl rfl
  | leak text values =>
    left
    cases h : g.blanks.registerItems values with
    | error f => simp only [perform, h]
    | ok b => simp only [perform, h]
  | validate values =>
    left
    cases h : values.items? with
    | none => simp only [perform, h]
    | some items => simp only [perform, h]

end Grammar

namespace Machine

variable {text : List Char}

/-- A machine registers values for all its cursors. -/
theorem registers_register (m : Machine text) (values : List Value) :
    Registers (fun m : Machine text => m.cursor.blanks) m values
      (m.register (m.cursor.blanks.register values)) := by
  apply registers_of_register
  · intro b hb
    rw [hb]
    exact ⟨⟨_, rfl⟩, rfl⟩
  · intro f hf
    rw [hf]
    rfl

theorem registers_addBlank (m : Machine text) (v : Value) :
    Registers (fun m : Machine text => m.cursor.blanks) m [v] (m.perform (.addBlank v)) :=
  m.registers_register [v]

theorem registers_addBlanks (m : Machine text) {v : Value} {items : List Value}
    (h : v.items? = some items) :
    Registers (fun m : Machine text => m.cursor.blanks) m items (m.perform (.addBlanks v)) := by
  simp only [perform, Blanks.registerItems, h]
  exact m.registers_register items

/-- A value without parts has none to register. -/
theorem addBlanks_of_no_items (m : Machine text) {v : Value} (h : v.items? = none) :
    m.perform (.addBlanks v) = (.error .mistyped, m) := by
  simp only [perform, Blanks.registerItems, h, register]

/-- All cursors look at the same blank characters, which are single characters. -/
structure Sound (m : Machine text) : Prop where
  coherent : m.Coherent
  single : ∀ e ∈ m.cursor.blanks.entries, e.length = 1

/-- An operation keeps a machine sound. -/
theorem Sound.perform {m : Machine text} (h : m.Sound) (op : Operation) :
    (m.perform op).2.Sound := by
  refine ⟨h.coherent.perform op, ?_⟩
  rcases m.perform_cases op with ⟨values, b, hb, hshare⟩ | origin
  · rw [hshare]
    exact Blanks.single_of_register h.single hb
  · rw [(origin _ (cursor_mem_cursors _)).blanks_eq h.coherent]
    exact h.single

end Machine

/-! ## A grammar and its cursors -/

/-- A grammar and the cursors that have been made from it, each with its checkpoints. -/
structure Session where
  grammar : Grammar
  machines : List ((text : List Char) × Machine text)

namespace Session

/-- What can be done in a session. -/
inductive Operation where
  /-- Something is done with the grammar. -/
  | grammar (op : Grammar.Operation)
  /-- A cursor for a text is made from the grammar. -/
  | cursor (text : List Char)
  /-- Something is done with the cursor of a number, if there is one. -/
  | machine (number : Nat) (op : Machine.Operation)

/-- Whether blank characters are registered with the grammar. -/
def Operation.isWhitespace : Operation → Bool
  | .grammar (.whitespace _) => true
  | _ => false

/-- A new grammar from which no cursor has been made. -/
def start : Session := ⟨Grammar.empty, []⟩

/-- The session after an operation. -/
def perform (s : Session) : Operation → Session
  | .grammar op => { s with grammar := (s.grammar.perform op).2 }
  | .cursor text => { s with machines := s.machines ++ [⟨text, ⟨s.grammar.cursor text, []⟩⟩] }
  | .machine number op =>
    { s with machines := s.machines.modify number fun m => ⟨m.1, (m.2.perform op).2⟩ }

/-- The session after some operations. -/
def after (s : Session) (ops : List Operation) : Session := ops.foldl perform s

theorem after_cons (s : Session) (op : Operation) (ops : List Operation) :
    s.after (op :: ops) = (s.perform op).after ops := rfl

/-- Only what is registered with a grammar changes it. -/
theorem grammar_perform {s : Session} {op : Operation} (h : op.isWhitespace = false) :
    (s.perform op).grammar = s.grammar := by
  cases op with
  | grammar op =>
    rcases s.grammar.perform_cases op with hkept | ⟨values, _, _, rfl, -, -⟩
    · exact hkept
    · cases h
  | cursor text => rfl
  | machine number op => rfl

/-- What is registered with the grammar of two sessions is registered alike. -/
theorem grammar_perform_congr {s t : Session} (h : s.grammar = t.grammar) {op : Operation}
    (hop : op.isWhitespace = true) : (s.perform op).grammar = (t.perform op).grammar := by
  cases op with
  | grammar op =>
    show (s.grammar.perform op).2 = (t.grammar.perform op).2
    rw [h]
  | cursor text => cases hop
  | machine number op => cases hop

/-- The grammar is what the registrations with it alone make it. -/
theorem grammar_after_filter {s t : Session} (h : s.grammar = t.grammar) (ops : List Operation) :
    (s.after ops).grammar = (t.after (ops.filter Operation.isWhitespace)).grammar := by
  induction ops generalizing s t with
  | nil => exact h
  | cons op rest ih =>
    rw [after_cons]
    cases hop : op.isWhitespace with
    | true =>
      rw [List.filter_cons_of_pos hop, after_cons]
      exact ih (grammar_perform_congr h hop)
    | false =>
      rw [List.filter_cons_of_neg (by simp [hop])]
      exact ih ((grammar_perform hop).trans h)

/-! ## The invariant -/

/-- All blank characters of a session are single characters. -/
structure Sound (s : Session) : Prop where
  grammar : ∀ e ∈ s.grammar.blanks.entries, e.length = 1
  machine : ∀ {text : List Char} {m : Machine text}, ⟨text, m⟩ ∈ s.machines → m.Sound

theorem sound_start : start.Sound where
  grammar _ h := absurd h List.not_mem_nil
  machine h := absurd h List.not_mem_nil

/-- A machine after something has been done with one of them is one that was there, or the one with
which it was done. -/
theorem mem_of_mem_modify {s : Session} {number : Nat} {op : Machine.Operation} {text : List Char}
    {m : Machine text} (h : ⟨text, m⟩ ∈ (s.perform (.machine number op)).machines) :
    ⟨text, m⟩ ∈ s.machines ∨ ∃ m', ⟨text, m'⟩ ∈ s.machines ∧ m = (m'.perform op).2 := by
  obtain ⟨i, hi⟩ := List.mem_iff_getElem?.1 h
  simp only [perform, List.getElem?_modify] at hi
  obtain ⟨⟨text', m'⟩, hm', heq⟩ := Option.map_eq_some_iff.1 hi
  have hmem := List.mem_of_getElem? hm'
  split at heq
  · cases heq
    exact .inr ⟨m', hmem, rfl⟩
  · cases heq
    exact .inl hmem

/-- An operation keeps a session sound. -/
theorem Sound.perform {s : Session} (h : s.Sound) (op : Operation) : (s.perform op).Sound := by
  cases op with
  | grammar op =>
    refine ⟨?_, h.machine⟩
    show ∀ e ∈ (s.grammar.perform op).2.blanks.entries, e.length = 1
    rcases s.grammar.perform_cases op with hkept | ⟨_, _, b, -, hb, hnew⟩
    · rw [hkept]
      exact h.grammar
    · rw [hnew]
      exact Blanks.single_of_register h.grammar hb
  | cursor text =>
    have valid : (s.grammar.cursor text).Valid := ⟨Int.le_refl 0, Int.natCast_nonneg _⟩
    refine ⟨h.grammar, fun {text' m} hm => ?_⟩
    rcases List.mem_append.1 hm with hm | hm
    · exact h.machine hm
    · cases List.mem_singleton.1 hm
      exact ⟨Machine.coherent_single valid, h.grammar⟩
  | machine number op =>
    refine ⟨h.grammar, fun {text m} hm => ?_⟩
    rcases mem_of_mem_modify hm with hm | ⟨m', hm', rfl⟩
    · exact h.machine hm
    · exact (h.machine hm').perform op

/-- Operations keep a session sound. -/
theorem Sound.after {s : Session} (h : s.Sound) (ops : List Operation) : (s.after ops).Sound := by
  induction ops generalizing s with
  | nil => exact h
  | cons op rest ih =>
    rw [after_cons]
    exact ih (h.perform op)

end Session

end Descent
