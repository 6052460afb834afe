import Descent.Cursor.Machine

/-!
# Cursors and their checkpoints

A machine that begins with one valid cursor is run through any operations. The only ones that bring
a cursor to a new position are peeking and advancing; all others pass positions on from one cursor
to another. So every position comes from a few bounds on peeking and advancing: no cursor is ever
beyond the end, and none is before the text unless a count was negative. All cursors look at the
same blank characters throughout.

Which operations are refused, and for what, depends on the state alone, and a refused operation
changes nothing, except that advancing has moved the cursor before it is refused.
-/

namespace Descent

variable {text : List Char}

/-! ## Bounds on reading -/

namespace Cursor

/-- Reading from a position from which there is nothing to read is refused. -/
theorem ahead_eq_none_iff {c : Cursor text} : c.ahead = none ↔ c.pos < -text.length := by
  unfold ahead
  split
  · simp
    omega
  · split
    · simp
      omega
    · simp
      omega

/-- What lies ahead reaches at most up to the end of the text. -/
theorem pos_add_length_le_of_ahead {c : Cursor text} (h : c.pos ≤ text.length) {rest : List Char}
    (hr : c.ahead = some rest) : c.pos + rest.length ≤ text.length := by
  unfold ahead at hr
  split at hr
  · cases hr
    rw [List.length_drop]
    omega
  · split at hr
    · cases hr
      rw [List.length_append, List.length_drop]
      omega
    · cases hr

/-- Peeking does not move beyond the end. -/
theorem pos_peek_le {c : Cursor text} (h : c.pos ≤ text.length) : c.peek.2.pos ≤ text.length := by
  unfold peek
  cases hr : c.ahead with
  | none => exact h
  | some rest =>
    have hlen := pos_add_length_le_of_ahead h hr
    have htake : (rest.takeWhile c.blanks.skips).length ≤ rest.length :=
      (List.takeWhile_sublist _).length_le
    show c.pos + (rest.takeWhile c.blanks.skips).length ≤ text.length
    omega

/-- Advancing does not move beyond the end. -/
theorem pos_advance_le (c : Cursor text) (n : Int) : (c.advance n).2.pos ≤ text.length := by
  apply pos_peek_le
  rw [pos_moveTo]
  omega

/-- Advancing over a number of characters that is not negative does not move back. -/
theorem le_pos_advance {c : Cursor text} (h : c.pos ≤ text.length) {n : Int} (hn : 0 ≤ n) :
    c.pos ≤ (c.advance n).2.pos := by
  have hpeek := pos_le_pos_peek (c.moveTo (min (c.pos + n) text.length))
  rw [pos_moveTo] at hpeek
  unfold advance
  omega

/-- Peeking is refused exactly where there is nothing to read, and does not move then. -/
theorem peek_of_lt {c : Cursor text} (h : c.pos < -text.length) :
    c.peek = (.error .beforeText, c) := by
  rw [peek, ahead_eq_none_iff.2 h]

theorem exists_peek_of_le {c : Cursor text} (h : -text.length ≤ c.pos) :
    ∃ found d, c.peek = (.ok found, d) := by
  unfold peek
  cases hr : c.ahead with
  | none =>
    have := ahead_eq_none_iff.1 hr
    omega
  | some rest => exact ⟨_, _, rfl⟩

end Cursor

namespace Machine

/-! ## Running a machine -/

/-- All cursors of a machine. -/
def cursors (m : Machine text) : List (Cursor text) := m.cursor :: m.registers.map Prod.snd

/-- A machine after some operations. -/
def after (m : Machine text) (ops : List Operation) : Machine text :=
  ops.foldl (fun m op => (m.perform op).2) m

/-- One more operation is performed in the state after the ones before it. -/
theorem performAll_concat (m : Machine text) (ops : List Operation) (op : Operation) :
    m.performAll (ops ++ [op]) =
      m.performAll ops ++
        [(((m.after ops).perform op).1, ((m.after ops).perform op).2.cursor.pos)] := by
  induction ops generalizing m with
  | nil => rfl
  | cons first rest ih => exact congrArg (_ :: ·) (ih (m.perform first).2)

/-! ## What an operation does to the cursors -/

/-- Where a cursor of a machine can come from when an operation is performed that registers no blank
characters. -/
inductive Origin (m : Machine text) (op : Operation) : Cursor text → Prop
  | kept {c : Cursor text} (hc : c ∈ m.cursors) : Origin m op c
  | restored {d : Cursor text} (hd : d ∈ m.cursors) : Origin m op (m.cursor.moveTo d.pos)
  | peeked : Origin m op m.cursor.peek.2
  | advanced {n : Int} (hop : op = .advance n) : Origin m op (m.cursor.advance n).2

theorem cursor_mem_cursors (m : Machine text) : m.cursor ∈ m.cursors := List.mem_cons_self

/-- The cursor in a register is one of the machine's. -/
theorem mem_cursors_of_get {m : Machine text} {name : String} {c : Cursor text}
    (h : m.get name = .ok c) : c ∈ m.cursors := by
  unfold get at h
  split at h
  · next d hd =>
    cases h
    obtain ⟨before, behind, hsplit, -⟩ := List.lookup_eq_some_iff.1 hd
    have hmem : (name, c) ∈ m.registers := by
      rw [hsplit]
      simp
    exact List.mem_cons_of_mem _ (List.mem_map_of_mem hmem)
  · cases h

/-- The cursors of a machine with another cursor of its own. -/
theorem mem_cursors_of_mem {m : Machine text} {d c : Cursor text}
    (h : c ∈ ({ m with cursor := d } : Machine text).cursors) : c = d ∨ c ∈ m.cursors := by
  rcases List.mem_cons.1 h with rfl | h
  · exact .inl rfl
  · exact .inr (List.mem_cons_of_mem _ h)

/-- Saving the cursor adds none that is not there. -/
theorem mem_cursors_of_mem_put {m : Machine text} {name : String} {c : Cursor text}
    (h : c ∈ (m.put name m.cursor).cursors) : c ∈ m.cursors := by
  rcases List.mem_cons.1 h with rfl | h
  · exact m.cursor_mem_cursors
  · obtain ⟨entry, hentry, rfl⟩ := List.mem_map.1 h
    rcases List.mem_cons.1 hentry with rfl | hentry
    · exact m.cursor_mem_cursors
    · have hmem : entry ∈ m.registers := (List.mem_filter.1 hentry).1
      exact List.mem_cons_of_mem _ (List.mem_map_of_mem hmem)

/-- Other blank characters are those of all cursors, and no cursor moves. -/
theorem mem_cursors_share {m : Machine text} {blanks : Blanks} {c : Cursor text}
    (h : c ∈ (m.share blanks).cursors) : c.blanks = blanks ∧ ∃ d ∈ m.cursors, c.pos = d.pos := by
  rcases List.mem_cons.1 h with rfl | h
  · exact ⟨rfl, m.cursor, m.cursor_mem_cursors, rfl⟩
  · simp only [share, List.map_map, List.mem_map] at h
    obtain ⟨entry, hentry, rfl⟩ := h
    exact ⟨rfl, entry.2, List.mem_cons_of_mem _ (List.mem_map_of_mem hentry), rfl⟩

/-- A registration changes the blank characters for all cursors, or nothing. -/
theorem register_cases (m : Machine text) (blanks : Except Fault Blanks) :
    (∃ b, blanks = .ok b ∧ (m.register blanks).2 = m.share b) ∨ (m.register blanks).2 = m := by
  cases blanks with
  | error f => exact .inr rfl
  | ok b => exact .inl ⟨b, rfl, rfl⟩

/-- Locating changes nothing. -/
theorem perform_locate (m : Machine text) (name : String) : (m.perform (.locate name)).2 = m := by
  cases hr : m.get name with
  | error f =>
    simp only [perform, hr]
    rfl
  | ok d =>
    simp only [perform, hr]
    rfl

/-- An operation either registers blank characters for all cursors, or each cursor afterwards is
an earlier one, or the machine's own one moved to where another stands, or where reading led. -/
theorem perform_cases (m : Machine text) (op : Operation) :
    (∃ values b, m.cursor.blanks.register values = .ok b ∧ (m.perform op).2 = m.share b) ∨
      ∀ c ∈ (m.perform op).2.cursors, Origin m op c := by
  have unchanged : ∀ m' : Machine text, m' = m → ∀ c ∈ m'.cursors, Origin m op c := by
    rintro m' rfl c hc
    exact .kept hc
  cases op with
  | peek =>
    right
    intro c hc
    rcases mem_cursors_of_mem hc with rfl | hc
    · exact .peeked
    · exact .kept hc
  | advance n =>
    right
    intro c hc
    rcases mem_cursors_of_mem hc with rfl | hc
    · exact .advanced rfl
    · exact .kept hc
  | save name =>
    right
    by_cases hv : m.cursor.Valid
    · simp only [perform, Cursor.checked_of_valid hv]
      intro c hc
      exact .kept (mem_cursors_of_mem_put hc)
    · simp only [perform, Cursor.checked_of_not_valid hv]
      exact unchanged m rfl
  | restore name =>
    right
    cases hr : m.get name with
    | error f =>
      simp only [perform, hr]
      exact unchanged m rfl
    | ok d =>
      simp only [perform, hr]
      intro c hc
      rcases mem_cursors_of_mem hc with rfl | hc
      · exact .restored (mem_cursors_of_get hr)
      · exact .kept hc
  | swap name =>
    right
    cases hr : m.get name with
    | error f =>
      simp only [perform, hr]
      exact unchanged m rfl
    | ok d =>
      simp only [perform, hr]
      intro c hc
      rcases mem_cursors_of_mem hc with rfl | hc
      · exact .kept (mem_cursors_of_get hr)
      · exact .kept (mem_cursors_of_mem_put hc)
  | locate name => exact .inr (unchanged _ (m.perform_locate name))
  | addBlank v =>
    rcases m.register_cases (m.cursor.blanks.register [v]) with ⟨b, hb, h⟩ | h
    · exact .inl ⟨[v], b, hb, h⟩
    · exact .inr (unchanged _ h)
  | addBlanks v =>
    rcases m.register_cases (m.cursor.blanks.registerItems v) with ⟨b, hb, h⟩ | h
    · obtain ⟨values, hvalues⟩ := Blanks.exists_register_of_registerItems hb
      exact .inl ⟨values, b, hvalues, h⟩
    · exact .inr (unchanged _ h)
  | _ => exact .inr (unchanged m rfl)

/-! ## The invariant -/

/-- No cursor is beyond the end, and all look at the same blank characters. -/
structure Coherent (m : Machine text) : Prop where
  pos_le : ∀ c ∈ m.cursors, c.pos ≤ text.length
  blanks_eq : ∀ c ∈ m.cursors, c.blanks = m.cursor.blanks

/-- A machine with one valid cursor is coherent. -/
theorem coherent_single {c : Cursor text} (h : c.Valid) : Coherent ⟨c, []⟩ := by
  constructor
  · intro d hd
    rw [List.mem_singleton.1 hd]
    exact h.2
  · intro d hd
    rw [List.mem_singleton.1 hd]

namespace Origin

variable {m : Machine text} {op : Operation} {c : Cursor text}

theorem pos_le (h : Origin m op c) (hm : m.Coherent) : c.pos ≤ text.length := by
  cases h with
  | kept hc => exact hm.pos_le c hc
  | @restored d hd => exact hm.pos_le d hd
  | peeked => exact Cursor.pos_peek_le (hm.pos_le _ m.cursor_mem_cursors)
  | advanced => exact Cursor.pos_advance_le m.cursor _

theorem blanks_eq (h : Origin m op c) (hm : m.Coherent) : c.blanks = m.cursor.blanks := by
  cases h with
  | kept hc => exact hm.blanks_eq c hc
  | restored hd => rfl
  | peeked => exact m.cursor.blanks_peek
  | advanced => exact m.cursor.blanks_advance _

theorem nonneg (h : Origin m op c) (hm : m.Coherent) (hnonneg : ∀ d ∈ m.cursors, 0 ≤ d.pos)
    (hop : ∀ n, op = .advance n → 0 ≤ n) : 0 ≤ c.pos := by
  have own : 0 ≤ m.cursor.pos := hnonneg _ m.cursor_mem_cursors
  cases h with
  | kept hc => exact hnonneg c hc
  | @restored d hd => exact hnonneg d hd
  | peeked => exact Int.le_trans own m.cursor.pos_le_pos_peek
  | advanced hadv =>
    have hle := hm.pos_le _ m.cursor_mem_cursors
    exact Int.le_trans own (Cursor.le_pos_advance hle (hop _ hadv))

end Origin

/-- An operation keeps a machine coherent. -/
theorem Coherent.perform {m : Machine text} (h : m.Coherent) (op : Operation) :
    (m.perform op).2.Coherent := by
  rcases m.perform_cases op with ⟨-, b, -, hb⟩ | origin
  · rw [hb]
    constructor
    · intro c hc
      obtain ⟨-, d, hd, hpos⟩ := mem_cursors_share hc
      rw [hpos]
      exact h.pos_le d hd
    · intro c hc
      exact (mem_cursors_share hc).1
  · constructor
    · intro c hc
      exact (origin c hc).pos_le h
    · intro c hc
      have own := (origin _ (cursor_mem_cursors _)).blanks_eq h
      exact ((origin c hc).blanks_eq h).trans own.symm

/-- An operation without a negative count moves no cursor before the text. -/
theorem nonneg_perform {m : Machine text} (h : m.Coherent) (hm : ∀ c ∈ m.cursors, 0 ≤ c.pos)
    {op : Operation} (hop : ∀ n, op = .advance n → 0 ≤ n) :
    ∀ c ∈ (m.perform op).2.cursors, 0 ≤ c.pos := by
  intro c hc
  rcases m.perform_cases op with ⟨-, b, -, hb⟩ | origin
  · rw [hb] at hc
    obtain ⟨-, d, hd, hpos⟩ := mem_cursors_share hc
    rw [hpos]
    exact hm d hd
  · exact (origin c hc).nonneg h hm hop

/-- Operations keep a machine coherent. -/
theorem Coherent.after {m : Machine text} (h : m.Coherent) (ops : List Operation) :
    (m.after ops).Coherent := by
  induction ops generalizing m with
  | nil => exact h
  | cons op rest ih => exact ih (h.perform op)

/-- Operations without negative counts move no cursor before the text. -/
theorem nonneg_after {m : Machine text} (h : m.Coherent) (hm : ∀ c ∈ m.cursors, 0 ≤ c.pos)
    {ops : List Operation} (hops : ∀ n, .advance n ∈ ops → 0 ≤ n) :
    ∀ c ∈ (m.after ops).cursors, 0 ≤ c.pos := by
  induction ops generalizing m with
  | nil => exact hm
  | cons op rest ih =>
    have hop : ∀ n, op = .advance n → 0 ≤ n := by
      intro n hn
      apply hops
      rw [hn]
      exact List.mem_cons_self
    have hrest : ∀ n, .advance n ∈ rest → 0 ≤ n := by
      intro n hn
      apply hops
      exact List.mem_cons_of_mem _ hn
    exact ih (h.perform op) (nonneg_perform h hm hop) hrest

/-! ## Refusals -/

/-- The family of the fault with which something is refused. -/
def faultKind? {α : Type} : Except Fault α → Option FaultKind
  | .ok _ => none
  | .error f => some f.kind

/-- For what values are not registered, if they are not: for the first that is no single character,
which is named in a message, unless an integer in it has too many digits for that. -/
def registerRefusal (values : List Value) : Option FaultKind :=
  (values.find? (·.singleCharacter?.isNone)).map fun first =>
    if digitLimit < first.mostDigits then .value else .grammar

/-- For what an operation is refused in a state, if it is. Reading needs a character, or the end of
the text, where the cursor stands; a checkpoint and a location need a cursor that is not before the
text, and a location must not end before it begins. -/
def refusal (m : Machine text) : Operation → Option FaultKind
  | .peek => if m.cursor.pos < -text.length then some .index else none
  | .advance n => if m.cursor.pos + n < -text.length then some .index else none
  | .save _ => if m.cursor.pos < 0 then some .value else none
  | .restore name | .swap name | .equals name =>
    match m.registers.lookup name with
    | none => some .key
    | some _ => none
  | .locate name =>
    match m.registers.lookup name with
    | none => some .key
    | some c => if m.cursor.pos < 0 ∨ c.pos < m.cursor.pos then some .value else none
  | .addBlank v => registerRefusal [v]
  | .addBlanks v =>
    match v.items? with
    | none => some .type
    | some items => registerRefusal items
  | .atEnd | .line | .column | .lines | .blanks => none

/-- The machine that a refused operation leaves. -/
def afterRefusal (m : Machine text) : Operation → Machine text
  | .advance n => m.moveTo (m.cursor.pos + n)
  | _ => m

variable {m : Machine text}

/-- Reading is refused exactly from before the first character that there is. -/
theorem faultKind?_read (m : Machine text) (c : Cursor text) :
    faultKind? (m.read c.peek).1 = if c.pos < -text.length then some .index else none := by
  by_cases hlt : c.pos < -text.length
  · rw [if_pos hlt, Cursor.peek_of_lt hlt]
    rfl
  · obtain ⟨found, d, hpeek⟩ := Cursor.exists_peek_of_le (Int.not_lt.1 hlt)
    rw [if_neg hlt, hpeek]
    rfl

/-- Values are registered exactly if all are single characters. -/
theorem faultKind?_register (m : Machine text) (b : Blanks) (values : List Value) :
    faultKind? (m.register (b.register values)).1 = registerRefusal values := by
  rcases b.register_cases values with
    ⟨b', hok, hall, -⟩ | ⟨before, first, behind, rfl, hall, hfirst, hf⟩
  · have hnone : values.find? (·.singleCharacter?.isNone) = none := by
      rw [List.find?_eq_none]
      intro v hv hmissing
      exact Value.singleCharacter?_eq_none_iff.1 (Option.isNone_iff_eq_none.1 hmissing) (hall v hv)
    rw [hok, registerRefusal, hnone]
    rfl
  · have hfound : (before ++ first :: behind).find? (·.singleCharacter?.isNone) = some first := by
      rw [List.find?_eq_some_iff_append]
      refine ⟨?_, before, behind, rfl, fun v hv => ?_⟩
      · rw [Option.isNone_iff_eq_none, Value.singleCharacter?_eq_none_iff]
        exact hfirst
      · have hthere : v.singleCharacter? ≠ none := fun hmissing =>
          Value.singleCharacter?_eq_none_iff.1 hmissing (hall v hv)
        simpa [Option.isSome_iff_ne_none] using hthere
    rw [hf, registerRefusal, hfound]
    by_cases hlong : digitLimit < first.mostDigits
    · rw [Fault.grammar_of_lt (.invalidBlank first) hlong, Option.map_some, if_pos hlong]
      rfl
    · rw [Fault.grammar_of_le (.invalidBlank first) (Nat.not_lt.1 hlong), Option.map_some,
        if_neg hlong]
      rfl

/-- A cursor that is not beyond the end locates what is ahead of it, if it is not before the
text. -/
theorem faultKind?_locate (m : Machine text) {c : Cursor text} (h : c.pos ≤ text.length) (q : Int) :
    faultKind? (m.answer (((c.locate c.pos q).mapError Fault.position).map .location)).1 =
      if c.pos < 0 ∨ q < c.pos then some .value else none := by
  by_cases hneg : c.pos < 0
  · rw [if_pos (.inl hneg), Cursor.locate, Span.between, dif_pos hneg]
    rfl
  · by_cases hlt : q < c.pos
    · rw [if_pos (.inr hlt), Cursor.locate, Span.between, dif_neg hneg, dif_pos hlt]
      rfl
    · have hv : (c.moveTo c.pos).Valid := ⟨Int.not_lt.1 hneg, h⟩
      rw [if_neg (not_or.2 ⟨hneg, hlt⟩), Cursor.locate, Span.between, dif_neg hneg, dif_neg hlt]
      simp only [Cursor.checked_of_valid hv]
      rfl

/-- In a coherent state an operation is refused exactly for the reasons given. -/
theorem faultKind?_perform (h : m.Coherent) (op : Operation) :
    faultKind? (m.perform op).1 = m.refusal op := by
  have hle : m.cursor.pos ≤ text.length := h.pos_le _ m.cursor_mem_cursors
  cases op with
  | peek => exact m.faultKind?_read m.cursor
  | advance n =>
    refine (m.faultKind?_read (m.cursor.moveTo (min (m.cursor.pos + n) text.length))).trans ?_
    have hmin : min (m.cursor.pos + n) text.length < -(text.length : Int) ↔
        m.cursor.pos + n < -text.length := by omega
    simp only [Cursor.pos_moveTo, hmin, refusal]
  | save name =>
    by_cases hneg : m.cursor.pos < 0
    · have hv : ¬ m.cursor.Valid := fun hv => Int.not_le.2 hneg hv.1
      simp only [perform, Cursor.checked_of_not_valid hv, refusal, if_pos hneg]
      rfl
    · have hv : m.cursor.Valid := ⟨Int.not_lt.1 hneg, hle⟩
      simp only [perform, Cursor.checked_of_valid hv, refusal, if_neg hneg]
      rfl
  | restore name =>
    cases hl : m.registers.lookup name with
    | none =>
      simp only [perform, get, hl, refusal]
      rfl
    | some c =>
      simp only [perform, get, hl, refusal]
      rfl
  | swap name =>
    cases hl : m.registers.lookup name with
    | none =>
      simp only [perform, get, hl, refusal]
      rfl
    | some c =>
      simp only [perform, get, hl, refusal]
      rfl
  | equals name =>
    cases hl : m.registers.lookup name with
    | none =>
      simp only [perform, get, hl, refusal]
      rfl
    | some c =>
      simp only [perform, get, hl, refusal]
      rfl
  | locate name =>
    cases hl : m.registers.lookup name with
    | none =>
      simp only [perform, get, hl, refusal]
      rfl
    | some c =>
      simp only [perform, get, hl, refusal]
      exact m.faultKind?_locate hle c.pos
  | addBlank v =>
    exact m.faultKind?_register m.cursor.blanks [v]
  | addBlanks v =>
    simp only [perform, refusal, Blanks.registerItems]
    cases v.items? with
    | none => rfl
    | some items => exact m.faultKind?_register m.cursor.blanks items
  | _ => rfl

/-- A refused registration changes nothing. -/
theorem register_of_refused {blanks : Except Fault Blanks}
    (h : faultKind? (m.register blanks).1 ≠ none) : (m.register blanks).2 = m := by
  cases blanks with
  | error f => rfl
  | ok b => exact absurd rfl h

/-- A refused operation changes nothing, except that advancing has moved the cursor. -/
theorem perform_of_refusal {op : Operation} (h : m.refusal op ≠ none) :
    (m.perform op).2 = m.afterRefusal op := by
  cases op with
  | peek =>
    have hlt : m.cursor.pos < -text.length := by simpa [refusal] using h
    simp only [perform, Cursor.peek_of_lt hlt]
    rfl
  | advance n =>
    have hlt : m.cursor.pos + n < -text.length := by simpa [refusal] using h
    have hmin : min (m.cursor.pos + n) text.length = m.cursor.pos + n := by omega
    have hadvance : m.cursor.advance n =
        (.error .beforeText, m.cursor.moveTo (m.cursor.pos + n)) := by
      rw [Cursor.advance, hmin]
      exact Cursor.peek_of_lt hlt
    simp only [perform, hadvance]
    rfl
  | save name =>
    have hneg : m.cursor.pos < 0 := by simpa [refusal] using h
    have hv : ¬ m.cursor.Valid := fun hv => Int.not_le.2 hneg hv.1
    simp only [perform, Cursor.checked_of_not_valid hv]
    rfl
  | restore name =>
    cases hl : m.registers.lookup name with
    | none =>
      simp only [perform, get, hl]
      rfl
    | some c => exact absurd (by simp only [refusal, hl]) h
  | swap name =>
    cases hl : m.registers.lookup name with
    | none =>
      simp only [perform, get, hl]
      rfl
    | some c => exact absurd (by simp only [refusal, hl]) h
  | locate name => exact m.perform_locate name
  | addBlank v =>
    apply register_of_refused
    rwa [faultKind?_register]
  | addBlanks v =>
    apply register_of_refused
    cases hv : v.items? with
    | none => simp [Blanks.registerItems, hv, register, faultKind?]
    | some items =>
      rw [Blanks.registerItems, hv, faultKind?_register]
      simpa only [refusal, hv] using h
  | _ => rfl

/-- A machine that begins with one valid cursor is run through any operations. Then no cursor is
beyond the end, all of them look at the same blank characters, and if no count was negative, none is
before the text. The next operation is refused exactly for the reasons given, and if it is, it
changes nothing, except that advancing has moved the cursor by its count. -/
theorem run_coherent {c : Cursor text} (hc : c.Valid) (ops : List Operation) :
    let start : Machine text := ⟨c, []⟩
    let m := start.after ops
    (∀ d ∈ m.cursors, d.pos ≤ text.length ∧ d.blanks = m.cursor.blanks) ∧
      ((∀ n, .advance n ∈ ops → 0 ≤ n) → ∀ d ∈ m.cursors, 0 ≤ d.pos) ∧
      ∀ op,
        start.performAll (ops ++ [op]) =
          start.performAll ops ++ [((m.perform op).1, (m.perform op).2.cursor.pos)] ∧
        faultKind? (m.perform op).1 = m.refusal op ∧
        (m.refusal op ≠ none → (m.perform op).2 = m.afterRefusal op) := by
  intro start m
  have hstart : start.Coherent := coherent_single hc
  have hm : m.Coherent := hstart.after ops
  refine ⟨fun d hd => ⟨hm.pos_le d hd, hm.blanks_eq d hd⟩, fun hops => ?_, fun op => ?_⟩
  · apply nonneg_after hstart _ hops
    intro d hd
    rw [List.mem_singleton.1 hd]
    exact hc.1
  · exact ⟨start.performAll_concat ops op, faultKind?_perform hm op, perform_of_refusal⟩

/-- Before a letter behind a blank, a checkpoint is taken, the cursor goes onto the letter, which is
made blank, the two change places, and the cursor is moved back so far that this is refused. It has
moved all the same: now no checkpoint and no location can be taken from it, and moving back further
is refused again. -/
theorem rewound_coherent :
    (⟨0, .ofList [" "]⟩ : Cursor [' ', 'x']).Valid ∧
      let start : Machine [' ', 'x'] := ⟨⟨0, .ofList [" "]⟩, []⟩
      let ops : List Operation :=
        [.save "here", .peek, .addBlank (.text "x"), .swap "here", .advance (-5)]
      let m := start.after ops
      m.cursors.map Cursor.pos = [-5, 1] ∧
        (∀ d ∈ m.cursors, d.pos ≤ 2 ∧ d.blanks = m.cursor.blanks) ∧
        m.refusal (.save "there") = some .value ∧ (m.perform (.save "there")).2 = m ∧
        m.refusal (.locate "here") = some .value ∧ (m.perform (.locate "here")).2 = m ∧
        m.refusal (.advance (-1)) = some .index ∧
        (m.perform (.advance (-1))).2.cursor.pos = -6 := by
  have valid : (⟨0, .ofList [" "]⟩ : Cursor [' ', 'x']).Valid := by decide
  obtain ⟨cursors, -, next⟩ := run_coherent valid
    [.save "here", .peek, .addBlank (.text "x"), .swap "here", .advance (-5)]
  refine ⟨valid, by decide, cursors, by decide, ?_, by decide, ?_, by decide, ?_⟩
  · exact (next (.save "there")).2.2 (by decide)
  · exact (next (.locate "here")).2.2 (by decide)
  · exact congrArg (·.cursor.pos) ((next (.advance (-1))).2.2 (by decide))

end Machine

end Descent
