import Descent.Action.Primitive
import Descent.Proofs.Visible

/-!
# What the primitive actions do

From a valid cursor, a literal, a token and the end of the text are matched against the visible
characters ahead. For each of the three the outcome and the cursor afterwards are given outright:
how many visible characters agree decides which it is, and the cursor is moved onto the first one
that does not.
-/

namespace Descent

/-! ## Measures on visible characters -/

/-- The length of the longest common beginning of two texts. -/
def agreement : List Char → List Char → Nat
  | x :: xs, y :: ys => if x = y then agreement xs ys + 1 else 0
  | _, _ => 0

/-- How many of the characters ahead a token takes that has been read so far: it takes one more
for as long as all of it is accepted. -/
def tokenLength (accepts : List Char → Bool) (token : List Char) : List Char → Nat
  | [] => 0
  | c :: rest =>
    if accepts (token ++ [c]) then tokenLength accepts (token ++ [c]) rest + 1 else 0

/-- All of a text agrees exactly with the texts that begin with it. -/
theorem agreement_eq_length_iff {xs ys : List Char} :
    agreement xs ys = xs.length ↔ xs <+: ys := by
  induction xs generalizing ys with
  | nil => cases ys <;> simp [agreement]
  | cons x xs ih =>
    cases ys with
    | nil => simp [agreement]
    | cons y ys =>
      rw [List.cons_prefix_cons, ← ih, agreement, List.length_cons]
      by_cases hxy : x = y
      · rw [if_pos hxy]
        simp [hxy]
      · rw [if_neg hxy]
        simp [hxy]

/-- A token takes no more characters than there are. -/
theorem tokenLength_le_length (accepts : List Char → Bool) (token rest : List Char) :
    tokenLength accepts token rest ≤ rest.length := by
  induction rest generalizing token with
  | nil => exact Nat.le_refl _
  | cons c rest ih =>
    rw [tokenLength, List.length_cons]
    split
    · exact Nat.succ_le_succ (ih _)
    · exact Nat.zero_le _

/-- Every stage of a token is accepted. -/
theorem accepts_of_le_tokenLength {accepts : List Char → Bool} {token rest : List Char} {i : Nat}
    (hpos : 0 < i) (hi : i ≤ tokenLength accepts token rest) :
    accepts (token ++ rest.take i) = true := by
  induction rest generalizing token i with
  | nil =>
    rw [tokenLength] at hi
    omega
  | cons c rest ih =>
    obtain ⟨i, rfl⟩ : ∃ n, i = n + 1 := ⟨i - 1, by omega⟩
    rw [tokenLength] at hi
    split at hi
    case isFalse => omega
    case isTrue hc =>
      rw [List.take_succ_cons]
      cases i with
      | zero => simpa using hc
      | succ i =>
        have longer : accepts (token ++ [c] ++ rest.take (i + 1)) = true :=
          ih (Nat.succ_pos i) (by omega)
        simpa using longer

/-- A token that takes no more characters is at the end of the text, or would not be accepted with
one more. -/
theorem not_accepts_of_tokenLength {accepts : List Char → Bool} {token rest : List Char}
    (h : tokenLength accepts token rest < rest.length) :
    accepts (token ++ rest.take (tokenLength accepts token rest + 1)) = false := by
  induction rest generalizing token with
  | nil => simp at h
  | cons c rest ih =>
    rw [tokenLength] at h ⊢
    split at h
    case isTrue hc =>
      rw [if_pos hc, List.take_succ_cons]
      have longer : accepts (token ++ [c] ++
          rest.take (tokenLength accepts (token ++ [c]) rest + 1)) = false :=
        ih (by simpa using h)
      simpa using longer
    case isFalse hc =>
      rw [if_neg hc]
      simpa using hc

/-- A token grows over the blank characters between the visible ones that it takes and behind
them. -/
theorem growth_eq_offset (accepts : List Char → Bool) (skips : Char → Bool)
    (token rest : List Char) :
    Action.growth accepts skips token rest =
      offset skips (tokenLength accepts token (visible skips rest)) rest := by
  induction rest generalizing token with
  | nil => simp
  | cons c rest ih =>
    rw [Action.growth]
    cases hc : skips c with
    | true => rw [if_pos rfl, ih, visible_cons_of_blank hc, offset_cons_of_blank hc]
    | false =>
      rw [if_neg Bool.false_ne_true, visible_cons_of_not_blank hc, tokenLength]
      split
      · rw [ih, offset_succ_cons_of_not_blank hc]
      · rw [offset_zero_cons_of_not_blank hc]

/-! ## Reading from a valid cursor -/

namespace Action

variable {text : List Char} {c : Cursor text}

/-- Peeking finds the first visible character ahead and moves onto it. -/
theorem run_peek_of_valid (h : c.Valid) : peek.run c = (.value c.visible.head?, c.onto 0) := by
  show (Outcome.ofPosition c.peek.1, c.peek.2) = _
  rw [Cursor.peek_of_valid h]
  rfl

/-- Peeking from a visible character finds it and stays. -/
theorem peek_onto (h : c.Valid) (k : Nat) :
    peek.run (c.onto k) = (.value c.visible[k]?, c.onto k) := by
  rw [run_peek_of_valid (h.onto k), Cursor.visible_onto h, Cursor.onto_onto h, List.head?_drop,
    Nat.add_zero]

/-- Advancing from a visible character leads onto the next one. -/
theorem advance_onto (h : c.Valid) {k : Nat} {x : Char} (hx : c.visible[k]? = some x) :
    (advance 1).run (c.onto k) = (.value c.visible[k + 1]?, c.onto (k + 1)) := by
  have hk : (c.onto k).visible = x :: c.visible.drop (k + 1) := by
    obtain ⟨hlt, rfl⟩ := List.getElem?_eq_some_iff.1 hx
    rw [Cursor.visible_onto h, List.drop_eq_getElem_cons hlt]
  have here : (c.onto k).onto 0 = c.onto k := Cursor.onto_onto h k 0
  show (Outcome.ofPosition ((c.onto k).advance 1).1, ((c.onto k).advance 1).2) = _
  rw [Cursor.advance_one (h.onto k) here hk, Cursor.onto_onto h, List.head?_drop]
  rfl

/-- The location of the next characters from a valid cursor is found from any other one. -/
theorem locate_stretch (h : c.Valid) {d : Cursor text} (hb : d.blanks = c.blanks) (n : Nat) :
    (locate c.pos (c.pos + n)).run d = (.value (c.stretch n), d) := by
  show (Outcome.ofPosition (d.locate c.pos (c.pos + n)), d) = _
  rw [Cursor.locate_eq_stretch h hb]
  rfl

/-- The location from a position in the text up to one that is not before it, wherever the cursor
stands. -/
theorem run_locate_of_le {p q : Int} (hp : 0 ≤ p ∧ p ≤ text.length) (hle : p ≤ q)
    (c : Cursor text) :
    (locate p q).run c = (.value ((c.moveTo p).stretch (q - p).toNat), c) := by
  have hvalid : (c.moveTo p).Valid := hp
  have hlocate : c.locate p q = .ok ((c.moveTo p).stretch (q - p).toNat) :=
    Cursor.locate_of_pos_le hvalid rfl hle
  show (Outcome.ofPosition (c.locate p q), c) = _
  rw [hlocate]
  rfl

/-- The location from a valid cursor to where the cursor stands now, which is not before it. -/
theorem locateFrom_of_pos_le (h : c.Valid) {d : Cursor text} (hb : d.blanks = c.blanks)
    (hle : c.pos ≤ d.pos) :
    (locateFrom c.pos).run d = (.value (c.stretch (d.pos - c.pos).toNat), d) := by
  show (Outcome.ofPosition (d.locate c.pos d.pos), d) = _
  rw [Cursor.locate_of_pos_le h hb hle]
  rfl

/-- The location from a valid cursor up to one of the visible characters ahead. -/
theorem locateFrom_onto (h : c.Valid) (k : Nat) :
    (locateFrom c.pos).run (c.onto k) = (.value (c.stretch (c.gap k)), c.onto k) :=
  locate_stretch h (Cursor.blanks_onto c k) (c.gap k)

/-! ## Literals -/

/-- What is wrong with a literal, by the visible character on which it fails. -/
def tagIssue (literal : String) (location : Location) : Option Char → Issue
  | none => .literalAtEnd literal
  | some _ => .expectedLiteral literal location.lexeme

/-- How a literal ends when its first `k` characters agree with the visible ones ahead. -/
def tagOutcome (literal : String) (c : Cursor text) (k : Nat) : Outcome Location :=
  if k = literal.toList.length then .value (c.stretch (c.gap k))
  else
    .failure (.located (tagIssue literal (c.stretch (c.gap k)) c.visible[k]?)
      (c.stretch (c.gap k)) none)

/-- The remaining characters of a literal, `j` of them having been matched, agree up to the first
visible character that differs. -/
theorem tagFrom_onto (h : c.Valid) (literal : String) (expected : List Char) (j : Nat)
    (hj : j + expected.length = literal.toList.length) :
    (tagFrom literal c.pos expected).run (c.onto j) =
      (tagOutcome literal c (j + agreement expected (c.visible.drop j)),
        c.onto (j + agreement expected (c.visible.drop j))) := by
  induction expected generalizing j with
  | nil =>
    rw [tagFrom, locateFrom_onto h]
    simp only [agreement, Nat.add_zero]
    rw [tagOutcome, if_pos (by simpa using hj)]
  | cons x xs ih =>
    rw [List.length_cons] at hj
    refine (bind_of_value (peek_onto h j)).trans ?_
    cases hy : c.visible[j]? with
    | none =>
      have hd : c.visible.drop j = [] := by
        rw [List.drop_eq_nil_iff]
        exact List.getElem?_eq_none_iff.1 hy
      rw [hd, agreement, Nat.add_zero, tagOutcome, if_neg (by omega), hy]
      · exact bind_of_value (locateFrom_onto h j)
      · intro x xs y ys _ hnil
        cases hnil
    | some y =>
      obtain ⟨hlt, rfl⟩ := List.getElem?_eq_some_iff.1 hy
      rw [List.drop_eq_getElem_cons hlt, agreement]
      by_cases hxy : c.visible[j] = x
      · rw [if_pos hxy.symm, ← Nat.add_assoc, Nat.add_right_comm]
        show (if c.visible[j] = x then (advance 1).bind fun _ => tagFrom literal c.pos xs
          else _).run (c.onto j) = _
        rw [if_pos hxy, bind_of_value (advance_onto h hy), ih (j + 1) (by omega)]
      · rw [if_neg (Ne.symm hxy), Nat.add_zero, tagOutcome, if_neg (by omega), hy]
        show (if c.visible[j] = x then _
          else (locateFrom c.pos).bind fun l => fail (.expectedLiteral literal l.lexeme) l).run
            (c.onto j) = _
        rw [if_neg hxy, bind_of_value (locateFrom_onto h j)]
        rfl

/-- A literal is compared with the visible characters ahead; the cursor ends on the first one that
differs, or behind the last one and the blank characters that follow. -/
theorem tag_of_valid (h : c.Valid) {literal : String} (hne : literal.toList ≠ []) :
    (tag literal).run c =
      (tagOutcome literal c (agreement literal.toList c.visible),
        c.onto (agreement literal.toList c.visible)) := by
  have start : ∀ expected, expected ≠ [] →
      (tagFrom literal c.pos expected).run c = (tagFrom literal c.pos expected).run (c.onto 0) := by
    intro expected hexp
    cases expected with
    | nil => exact absurd rfl hexp
    | cons x xs =>
      rw [tagFrom]
      show (peek.bind _).run c = (peek.bind _).run (c.onto 0)
      rw [run_bind, run_bind, run_peek_of_valid h, peek_onto h, List.head?_eq_getElem?]
  refine (bind_of_value (mark_of_valid h)).trans ?_
  rw [start _ hne, tagFrom_onto h literal literal.toList 0 (by simp), List.drop_zero, Nat.zero_add]

/-! ## Tokens -/

/-- What is wrong with a token, by the first visible character ahead. -/
def regexIssue (pattern : String) : Option Char → Issue
  | none => .patternAtEnd pattern
  | some first => .expectedPattern pattern (String.singleton first)

/-- A token takes the visible characters ahead for as long as all stages of it are accepted. One
that takes none fails on the first visible character, and the cursor stays. -/
theorem regex_of_valid (h : c.Valid) (pattern : String) (accepts : List Char → Bool) :
    (regex pattern accepts).run c =
      if tokenLength accepts [] c.visible = 0 then
        (.failure (.located (regexIssue pattern c.visible.head?) (c.stretch (c.gap 0)) none), c)
      else
        (.value (c.stretch (c.gap (tokenLength accepts [] c.visible))),
          c.onto (tokenLength accepts [] c.visible)) := by
  unfold regex
  simp only [Cursor.checked_of_valid h, Cursor.peek_of_valid h]
  cases hv : c.visible with
  | nil =>
    rw [tokenLength, if_pos rfl]
    exact bind_of_value (locate_stretch h rfl (c.gap 0))
  | cons first more =>
    rw [tokenLength, List.nil_append, List.head?_cons]
    by_cases ha : accepts [first] = true
    · -- The token goes on behind its first character, which stands where peeking has led.
      obtain ⟨ys, hys, hblank, hmore⟩ := Cursor.exists_rest_onto h hv
      have hdrop : text.drop ((c.onto 0).pos.toNat + 1) = ys := by
        rw [← List.drop_drop, ← Cursor.rest, hys]
        rfl
      have hgap := Cursor.gap_succ h hblank hys (tokenLength accepts [first] more)
      have hstop : (c.onto 0).pos + 1 + growth accepts c.blanks.skips [first] ys =
          c.pos + c.gap (tokenLength accepts [first] more + 1) := by
        rw [growth_eq_offset, hmore, hgap, Cursor.pos_onto]
        omega
      simp only [if_pos ha, if_neg (Nat.succ_ne_zero _), hdrop, hstop]
      exact locateFrom_onto h _
    · simp only [if_neg ha, if_pos]
      exact bind_of_value (locate_stretch h rfl (c.gap 0))

/-! ## The end of the text -/

/-- The end of the text is matched where no visible character is left. -/
theorem eof_of_valid (h : c.Valid) :
    eof.run c =
      (match c.visible.head? with
        | none => .value (c.stretch (c.gap 0))
        | some found =>
          .failure (.located (.expectedEnd (String.singleton found)) (c.stretch (c.gap 0)) none),
        c.onto 0) := by
  refine (bind_of_value (mark_of_valid h)).trans ?_
  refine (bind_of_value (run_peek_of_valid h)).trans ?_
  cases c.visible.head? with
  | none => exact locateFrom_onto h 0
  | some found => exact bind_of_value (locateFrom_onto h 0)

end Action

end Descent
