import Mathlib.Data.List.TakeWhile
import Mathlib.Order.Bounds.Basic
import Descent.Proofs.Checkpoints
import Descent.Proofs.Visible

/-!
# Scanning

Peeking passes over blank characters one at a time until the cursor is settled: until it is at the
end of its text, or on a character that is not blank. Positions before the text count from its end,
so from there the way leads through the last characters, round to the first one and through all of
them. Two facts about a single step, that a settled cursor stays and that from a blank character
peeking goes on behind it, say by induction on the distance to the end where peeking leads from any
position (`Cursor.peek_least`).

From a position of the text, peeking and advancing by one in turn find the visible characters ahead
one after the other, until none is left (`Cursor.scan_finds_visible`).
-/

namespace Descent

namespace Cursor

variable {text : List Char} {c : Cursor text}

/-! ## One character at a time -/

/-- The character on which a cursor stands. Before the text, the characters count from its end. -/
def here (c : Cursor text) : Option Char :=
  if 0 ≤ c.pos then text[c.pos.toNat]?
  else if -(text.length : Int) ≤ c.pos then text[(text.length + c.pos).toNat]?
  else none

/-- Nothing is to be passed over: the cursor is at the end of its text, or on a character that is
not blank. -/
def Settled (c : Cursor text) : Prop :=
  c.pos = text.length ∨ ∃ x, c.here = some x ∧ String.singleton x ∉ c.blanks.entries

/-- No character stands at the end of the text. -/
theorem here_of_pos_eq (h : c.pos = text.length) : c.here = none := by
  rw [here, if_pos (by omega), List.getElem?_eq_none_iff]
  omega

/-- Everywhere else there is one, from as far before the text as the text is long. -/
theorem exists_here (h : -text.length ≤ c.pos) (hlt : c.pos < text.length) :
    ∃ x, c.here = some x := by
  unfold here
  split
  · exact ⟨_, List.getElem?_eq_getElem (by omega)⟩
  · exact ⟨_, List.getElem?_eq_getElem (by omega)⟩

/-- Reading from a character meets it, and then what reading meets from the next position on. -/
theorem ahead_of_here {x : Char} (h : c.here = some x) :
    ∃ rest, c.ahead = some (x :: rest) ∧ (c.moveTo (c.pos + 1)).ahead = some rest := by
  unfold here at h
  split at h
  case isTrue hnonneg =>
    obtain ⟨hlt, rfl⟩ := List.getElem?_eq_some_iff.1 h
    refine ⟨text.drop (c.pos.toNat + 1), ?_, ?_⟩
    · rw [ahead_of_nonneg hnonneg, List.drop_eq_getElem_cons hlt]
    · rw [ahead_of_nonneg (by rw [pos_moveTo]; omega), pos_moveTo]
      congr 2
      omega
  case isFalse hneg =>
    split at h
    case isFalse hlow => cases h
    case isTrue hlow =>
      obtain ⟨hlt, rfl⟩ := List.getElem?_eq_some_iff.1 h
      refine ⟨text.drop ((text.length + c.pos).toNat + 1) ++ text, ?_, ?_⟩
      · rw [ahead, if_neg hneg, if_pos hlow, List.drop_eq_getElem_cons hlt, List.cons_append]
      · by_cases hlast : c.pos + 1 = 0
        · -- behind the last character stands the first one
          have hall : text.drop ((text.length + c.pos).toNat + 1) = [] :=
            List.drop_eq_nil_of_le (by omega)
          rw [hall, hlast, ahead_of_nonneg (Int.le_refl 0)]
          rfl
        · rw [ahead, pos_moveTo, if_neg (by omega), if_pos (by omega)]
          congr 3
          omega

/-- A settled cursor stays where it is. -/
theorem peek_of_settled (h : c.Settled) : c.peek = (.ok c.here, c) := by
  rcases h with hend | ⟨x, hx, hblank⟩
  · have hnone : c.ahead = some [] := by
      rw [ahead_of_nonneg (by omega), List.drop_eq_nil_of_le (by omega)]
    rw [peek, hnone, here_of_pos_eq hend]
    simp
  · obtain ⟨rest, hrest, -⟩ := ahead_of_here hx
    have hskip : ¬ c.blanks.skips x = true := fun hskip => hblank (Blanks.skips_iff_mem.1 hskip)
    rw [peek, hrest, hx]
    simp [hskip]

/-- From a blank character peeking goes on behind it. -/
theorem peek_of_blank {x : Char} (hx : c.here = some x)
    (hblank : String.singleton x ∈ c.blanks.entries) :
    c.peek = (c.moveTo (c.pos + 1)).peek := by
  obtain ⟨rest, hrest, hnext⟩ := ahead_of_here hx
  have hskip : c.blanks.skips x = true := Blanks.skips_iff_mem.2 hblank
  rw [peek, peek, hrest, hnext]
  simp only [List.dropWhile_cons_of_pos hskip, List.takeWhile_cons_of_pos hskip, List.length_cons,
    blanks_moveTo, pos_moveTo, moveTo_moveTo]
  congr 2
  omega

/-! ## From any position -/

/-- A blank character is no place to stop. -/
theorem not_settled_of_blank {x : Char} (hx : c.here = some x)
    (hblank : String.singleton x ∈ c.blanks.entries) : ¬ c.Settled := by
  rintro (hend | ⟨y, hy, hnot⟩)
  · rw [here_of_pos_eq hend] at hx
    cases hx
  · rw [hx, Option.some.injEq] at hy
    exact hnot (hy ▸ hblank)

/-- A settled cursor is the first place to stop from where it is. -/
theorem isLeast_of_settled (h : c.Settled) :
    IsLeast {i | c.pos ≤ i ∧ (c.moveTo i).Settled} c.pos := by
  constructor
  · exact ⟨Int.le_refl _, h⟩
  · intro i hi
    exact hi.1

/-- From a blank character the first place to stop is that from behind it. -/
theorem isLeast_of_blank {x : Char} {j : Int} (hx : c.here = some x)
    (hblank : String.singleton x ∈ c.blanks.entries)
    (h : IsLeast {i | c.pos + 1 ≤ i ∧ (c.moveTo i).Settled} j) :
    IsLeast {i | c.pos ≤ i ∧ (c.moveTo i).Settled} j := by
  obtain ⟨⟨hj, hsettled⟩, hleast⟩ := h
  constructor
  · exact ⟨by omega, hsettled⟩
  · rintro i ⟨hi, hstop⟩
    have hne : i ≠ c.pos := by
      rintro rfl
      exact not_settled_of_blank hx hblank hstop
    exact hleast ⟨by omega, hstop⟩

/-- Peeking leads to the first place to stop and finds the character there. -/
theorem exists_isLeast (hlow : -text.length ≤ c.pos) (hle : c.pos ≤ text.length) :
    ∃ j, IsLeast {i | c.pos ≤ i ∧ (c.moveTo i).Settled} j ∧
      c.peek = (.ok (c.moveTo j).here, c.moveTo j) := by
  -- by induction on the number of characters up to the end of the text
  obtain ⟨n, hn⟩ : ∃ n : Nat, c.pos + n = text.length := ⟨(text.length - c.pos).toNat, by omega⟩
  induction n generalizing c with
  | zero =>
    have settled : c.Settled := .inl (by omega)
    exact ⟨c.pos, isLeast_of_settled settled, peek_of_settled settled⟩
  | succ n ih =>
    obtain ⟨x, hx⟩ := exists_here hlow (by omega)
    by_cases hblank : String.singleton x ∈ c.blanks.entries
    · have hpos : (c.moveTo (c.pos + 1)).pos = c.pos + 1 := rfl
      obtain ⟨j, hleast, hpeek⟩ :=
        ih (c := c.moveTo (c.pos + 1)) (by omega) (by omega) (by omega)
      exact ⟨j, isLeast_of_blank hx hblank hleast, (peek_of_blank hx hblank).trans hpeek⟩
    · have settled : c.Settled := .inr ⟨x, hx, hblank⟩
      exact ⟨c.pos, isLeast_of_settled settled, peek_of_settled settled⟩

/-- What is found is not blank. -/
theorem Settled.not_mem (h : c.Settled) {x : Char} (hx : c.here = some x) :
    String.singleton x ∉ c.blanks.entries :=
  fun hblank => not_settled_of_blank hx hblank h

/-- A settled cursor that is not on a character is at the end. -/
theorem Settled.here_eq_none_iff (h : c.Settled) : c.here = none ↔ c.pos = text.length := by
  constructor
  · intro hnone
    rcases h with hend | ⟨x, hx, -⟩
    · exact hend
    · rw [hnone] at hx
      cases hx
  · exact here_of_pos_eq

/-- Nothing is found exactly if only blank characters lie ahead. -/
theorem peek_eq_none_iff {rest : List Char} (h : c.ahead = some rest) :
    c.peek.1 = .ok none ↔ ∀ x ∈ rest, String.singleton x ∈ c.blanks.entries := by
  rw [peek, h, Except.ok.injEq, List.head?_eq_none_iff, List.dropWhile_eq_nil_iff]
  simp only [Blanks.skips_iff_mem]

/-- From any position up to the end of the text, peeking leads to the first place to stop and finds
the character there, or nothing if that is the end. From before the text this is the end only if all
characters are blank. Where there is no character to begin with, because the position is further
before the text than the text is long, peeking is refused and the cursor stays. -/
theorem peek_least (h : c.pos ≤ text.length) :
    (-text.length ≤ c.pos →
      ∃ j, IsLeast {i | c.pos ≤ i ∧ (c.moveTo i).Settled} j ∧
        c.peek = (.ok (c.moveTo j).here, c.moveTo j) ∧
        ((c.moveTo j).here = none ↔ j = text.length) ∧
        (c.pos < 0 →
          ((c.moveTo j).here = none ↔ ∀ x ∈ text, String.singleton x ∈ c.blanks.entries))) ∧
      (c.pos < -text.length →
        c.peek = (.error .beforeText, c) ∧ (Fault.position .beforeText).kind = .index) := by
  refine ⟨fun hlow => ?_, fun hlt => ⟨?_, rfl⟩⟩
  · obtain ⟨j, hleast, hpeek⟩ := exists_isLeast hlow h
    refine ⟨j, hleast, hpeek, hleast.1.2.here_eq_none_iff, fun hneg => ?_⟩
    -- from before the text, its last characters are ahead first, and then all of them
    have hahead : c.ahead = some (text.drop (text.length + c.pos).toNat ++ text) := by
      rw [ahead, if_neg (Int.not_le.2 hneg), if_pos hlow]
    have hnone := peek_eq_none_iff hahead
    rw [hpeek, Except.ok.injEq] at hnone
    rw [hnone]
    constructor
    · intro hall x hx
      exact hall x (List.mem_append_right _ hx)
    · intro hall x hx
      rcases List.mem_append.1 hx with hx | hx
      · exact hall x (List.mem_of_mem_drop hx)
      · exact hall x hx
  · exact peek_of_lt hlt

/-- From the blank at the end of a text the way leads round to the blank at its start, and on to the
letter between them. -/
theorem surrounded_least :
    let c : Cursor [' ', 'x', ' '] := ⟨-1, .ofList [" "]⟩
    c.pos ≤ 3 ∧ -3 ≤ c.pos ∧ IsLeast {i | -1 ≤ i ∧ (c.moveTo i).Settled} 1 ∧
      c.peek = (.ok (some 'x'), c.moveTo 1) := by
  intro c
  obtain ⟨j, hleast, hpeek, -, -⟩ := (peek_least (c := c) (by decide)).1 (by decide)
  have hfound : c.peek = (.ok (some 'x'), c.moveTo 1) := rfl
  have hj : j = 1 := by
    rw [hfound, Prod.mk.injEq] at hpeek
    exact (congrArg Cursor.pos hpeek.2).symm
  rw [hj] at hleast
  exact ⟨by decide, by decide, hleast, hfound⟩

/-! ## From within the text -/

/-- Peeking and advancing by one in turn, until nothing is found: the characters that are found
from a cursor on, and the cursor at the end. -/
inductive Scans : Cursor text → List Char → Cursor text → Prop
  | nothing {c d : Cursor text} (hpeek : c.peek = (.ok none, d)) : Scans c [] d
  | found {c d e last : Cursor text} {x : Char} {next : Option Char} {xs : List Char}
      (hpeek : c.peek = (.ok (some x), d)) (hadvance : d.advance 1 = (.ok next, e))
      (more : Scans e xs last) : Scans c (x :: xs) last

/-- The visible characters ahead are those that are no blank entries. -/
theorem visible_eq_filter (c : Cursor text) :
    c.visible = (text.drop c.pos.toNat).filter (String.singleton · ∉ c.blanks.entries) := by
  rw [visible, Descent.visible, rest]
  refine List.filter_congr fun x hx => ?_
  rw [Bool.eq_iff_iff, Bool.not_eq_true', decide_eq_true_iff, ← Blanks.skips_iff_mem,
    Bool.not_eq_true]

/-- Where no visible character is left, the next place to stop is the end. -/
theorem onto_of_visible_eq_nil (h : c.Valid) (hnil : c.visible = []) :
    c.onto 0 = c.moveTo text.length := by
  have := h.1
  obtain ⟨j, hleast, hpeek⟩ := exists_isLeast (by omega) h.2
  rw [peek_of_valid h, hnil, Prod.mk.injEq, Except.ok.injEq] at hpeek
  have hend : j = text.length := hleast.1.2.here_eq_none_iff.1 hpeek.1.symm
  rw [hpeek.2, hend]

/-- One round of a scan finds the first visible character ahead and goes on to the second. -/
theorem scans_round (h : c.Valid) {x : Char} {xs : List Char} (hx : c.visible = x :: xs) :
    c.peek = (.ok (some x), c.onto 0) ∧ (c.onto 0).advance 1 = (.ok xs.head?, c.onto 1) ∧
      (c.onto 1).visible = xs := by
  have hvisible : (c.onto 0).visible = x :: xs := by rw [visible_onto h, hx, List.drop_zero]
  refine ⟨?_, ?_, ?_⟩
  · rw [peek_of_valid h, hx]
    rfl
  · rw [advance_one (h.onto 0) (onto_onto h 0 0) hvisible, onto_onto h]
  · rw [visible_onto h, hx]
    rfl

/-- A scan finds all visible characters ahead and ends at the end of the text. -/
theorem scans_of_valid (h : c.Valid) : Scans c c.visible (c.moveTo text.length) := by
  generalize hv : c.visible = xs
  induction xs generalizing c with
  | nil =>
    refine .nothing ?_
    rw [peek_of_valid h, hv, onto_of_visible_eq_nil h hv]
    rfl
  | cons x xs ih =>
    obtain ⟨hpeek, hadvance, hnext⟩ := scans_round h hv
    exact .found hpeek hadvance (ih (h.onto 1) hnext)

/-- A scan has no other result. -/
theorem Scans.eq {xs : List Char} {last : Cursor text} (scan : Scans c xs last) (h : c.Valid) :
    xs = c.visible ∧ last = c.moveTo text.length := by
  induction scan with
  | @nothing c d hpeek =>
    rw [peek_of_valid h, Prod.mk.injEq, Except.ok.injEq, List.head?_eq_none_iff] at hpeek
    obtain ⟨hnil, rfl⟩ := hpeek
    exact ⟨hnil.symm, onto_of_visible_eq_nil h hnil⟩
  | @found c d e last x next xs hpeek hadvance more ih =>
    have hfirst := hpeek
    rw [peek_of_valid h, Prod.mk.injEq, Except.ok.injEq, List.head?_eq_some_iff] at hfirst
    obtain ⟨⟨tail, hv⟩, rfl⟩ := hfirst
    obtain ⟨-, hround, hnext⟩ := scans_round h hv
    rw [hround, Prod.mk.injEq] at hadvance
    obtain ⟨-, rfl⟩ := hadvance
    obtain ⟨rfl, rfl⟩ := ih (h.onto 1)
    exact ⟨by rw [hv, hnext], rfl⟩

/-- Peeking that is not refused settles the cursor on what it finds. -/
theorem exists_settled_peek (hlow : -text.length ≤ c.pos) (hle : c.pos ≤ text.length) :
    ∃ d : Cursor text, c.peek = (.ok d.here, d) ∧ d.Settled := by
  obtain ⟨j, hleast, hpeek⟩ := exists_isLeast hlow hle
  exact ⟨c.moveTo j, hpeek, hleast.1.2⟩

/-- So does advancing. -/
theorem exists_settled_advance {n : Int} (hlow : -text.length ≤ c.pos + n) :
    ∃ d : Cursor text, c.advance n = (.ok d.here, d) ∧ d.Settled := by
  apply exists_settled_peek
  · rw [pos_moveTo]
    omega
  · rw [pos_moveTo]
    omega

/-- From a valid cursor, peeking and advancing by one in turn comes to an end, and it finds exactly
the characters ahead that are not blank, in order. Peeking again finds the same and does not move;
no blank character is ever found, and none at all is exactly if only blank ones lie ahead. Wherever
a cursor of the text stands, peeking and advancing settle it on the character that is found, unless
they are refused. -/
theorem scan_finds_visible (h : c.Valid) :
    (∀ xs last, Scans c xs last ↔
        xs = (text.drop c.pos.toNat).filter (String.singleton · ∉ c.blanks.entries) ∧
          last = c.moveTo text.length) ∧
      c.peek.2.peek = c.peek ∧
      (∀ x, c.peek.1 = .ok (some x) → String.singleton x ∉ c.blanks.entries) ∧
      (c.peek.1 = .ok none ↔
        ∀ x ∈ text.drop c.pos.toNat, String.singleton x ∈ c.blanks.entries) ∧
      ∀ d : Cursor text, d.pos ≤ text.length →
        (-text.length ≤ d.pos → ∃ e : Cursor text, d.peek = (.ok e.here, e) ∧ e.Settled) ∧
        ∀ n, -text.length ≤ d.pos + n →
          ∃ e : Cursor text, d.advance n = (.ok e.here, e) ∧ e.Settled := by
  have hlow : -(text.length : Int) ≤ c.pos := by
    have := h.1
    omega
  obtain ⟨d, hpeek, hsettled⟩ := exists_settled_peek hlow h.2
  refine ⟨fun xs last => ?_, ?_, fun x hx => ?_, ?_, fun d hle => ⟨fun hd => ?_, fun n hn => ?_⟩⟩
  · rw [← visible_eq_filter]
    constructor
    · intro scan
      exact scan.eq h
    · rintro ⟨rfl, rfl⟩
      exact scans_of_valid h
  · rw [hpeek]
    exact peek_of_settled hsettled
  · rw [hpeek, Except.ok.injEq] at hx
    have hblanks : d.blanks = c.blanks := by rw [← c.blanks_peek, hpeek]
    rw [← hblanks]
    exact hsettled.not_mem hx
  · exact peek_eq_none_iff (ahead_of_nonneg h.1)
  · exact exists_settled_peek hd hle
  · exact exists_settled_advance hn

/-- Two letters among spaces and tabs, from the middle of the first run of blanks on. -/
theorem letters_scanned :
    let c : Cursor [' ', '\t', 'a', '\t', ' ', 'b', ' '] := ⟨1, .ofList [" ", "\t"]⟩
    c.Valid ∧ Scans c ['a', 'b'] (c.moveTo 7) ∧ c.peek = (.ok (some 'a'), c.moveTo 2) ∧
      c.peek.2.peek = c.peek := by
  intro c
  have valid : c.Valid := by decide
  obtain ⟨scans, again, -, -, -⟩ := scan_finds_visible valid
  exact ⟨valid, (scans ['a', 'b'] (c.moveTo 7)).2 ⟨by decide, rfl⟩, rfl, again⟩

end Cursor

end Descent
