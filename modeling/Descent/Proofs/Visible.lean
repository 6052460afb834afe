import Descent.Location

/-!
# Visible characters

A cursor reads the characters of its text that are not blank. Here are these characters, the
offset at which each of them stands, and what peeking, advancing and locating come to in their
terms: a valid cursor is moved onto the visible character with a number, and the visible characters
from there on are those from that number on.
-/

namespace Descent

/-! ## Visible characters of a text -/

section Text

variable (skips : Char → Bool)

/-- The characters of a text that are not blank. -/
def visible (text : List Char) : List Char := text.filter fun c => !skips c

/-- The offset of the visible character with number `k`, the first one having number zero; the
length of the text if it has no such character. -/
def offset : Nat → List Char → Nat
  | _, [] => 0
  | 0, c :: rest => if skips c then offset 0 rest + 1 else 0
  | k + 1, c :: rest => if skips c then offset (k + 1) rest + 1 else offset k rest + 1

@[simp] theorem visible_nil : visible skips [] = [] := rfl

@[simp] theorem offset_nil (k : Nat) : offset skips k [] = 0 := by cases k <;> rfl

variable {skips}

/-- A blank character is not visible. -/
theorem visible_cons_of_blank {c : Char} (h : skips c = true) (rest : List Char) :
    visible skips (c :: rest) = visible skips rest := by
  simp [visible, h]

/-- A character that is not blank is visible. -/
theorem visible_cons_of_not_blank {c : Char} (h : skips c = false) (rest : List Char) :
    visible skips (c :: rest) = c :: visible skips rest := by
  simp [visible, h]

/-- A blank character puts every visible one off by one place. -/
theorem offset_cons_of_blank {c : Char} (h : skips c = true) (k : Nat) (rest : List Char) :
    offset skips k (c :: rest) = offset skips k rest + 1 := by
  cases k <;> simp [offset, h]

/-- The first visible character stands at the front unless a blank one does. -/
theorem offset_zero_cons_of_not_blank {c : Char} (h : skips c = false) (rest : List Char) :
    offset skips 0 (c :: rest) = 0 := by
  simp [offset, h]

/-- After a visible character the next ones are counted from the rest. -/
theorem offset_succ_cons_of_not_blank {c : Char} (h : skips c = false) (k : Nat)
    (rest : List Char) : offset skips (k + 1) (c :: rest) = offset skips k rest + 1 := by
  simp [offset, h]

/-- The visible characters of two texts one after the other. -/
theorem visible_append (s t : List Char) :
    visible skips (s ++ t) = visible skips s ++ visible skips t :=
  List.filter_append s t

/-- No visible character stands beyond the text. -/
theorem offset_le_length (k : Nat) (text : List Char) : offset skips k text ≤ text.length := by
  induction text generalizing k with
  | nil => simp
  | cons c rest ih =>
    rw [List.length_cons]
    cases hc : skips c with
    | true => rw [offset_cons_of_blank hc]; exact Nat.succ_le_succ (ih k)
    | false =>
      cases k with
      | zero => rw [offset_zero_cons_of_not_blank hc]; exact Nat.zero_le _
      | succ k => rw [offset_succ_cons_of_not_blank hc]; exact Nat.succ_le_succ (ih k)

/-- Before the first visible character there are only blank ones. -/
theorem offset_zero (text : List Char) :
    offset skips 0 text = (text.takeWhile skips).length := by
  induction text with
  | nil => rfl
  | cons c rest ih =>
    cases hc : skips c with
    | true => simp [offset_cons_of_blank hc, hc, ih]
    | false => simp [offset_zero_cons_of_not_blank hc, hc]

/-- The blank characters before the first visible one can be dropped at once. -/
theorem drop_offset_zero (text : List Char) :
    text.drop (offset skips 0 text) = text.dropWhile skips := by
  induction text with
  | nil => rfl
  | cons c rest ih =>
    cases hc : skips c with
    | true => simp [offset_cons_of_blank hc, hc, ih]
    | false => simp [offset_zero_cons_of_not_blank hc, hc]

/-- From the visible character with number `k` on, the visible characters are those from number
`k` on. -/
theorem visible_drop_offset (k : Nat) (text : List Char) :
    visible skips (text.drop (offset skips k text)) = (visible skips text).drop k := by
  induction text generalizing k with
  | nil => simp
  | cons c rest ih =>
    cases hc : skips c with
    | true =>
      rw [offset_cons_of_blank hc, List.drop_succ_cons, ih, visible_cons_of_blank hc]
    | false =>
      cases k with
      | zero => rw [offset_zero_cons_of_not_blank hc, List.drop_zero, List.drop_zero]
      | succ k =>
        rw [offset_succ_cons_of_not_blank hc, List.drop_succ_cons, ih,
          visible_cons_of_not_blank hc, List.drop_succ_cons]

/-- Before the visible character with number `k` there are the `k` first ones. -/
theorem visible_take_offset (k : Nat) (text : List Char) :
    visible skips (text.take (offset skips k text)) = (visible skips text).take k := by
  induction text generalizing k with
  | nil => simp
  | cons c rest ih =>
    cases hc : skips c with
    | true =>
      rw [offset_cons_of_blank hc, List.take_succ_cons, visible_cons_of_blank hc, ih,
        visible_cons_of_blank hc]
    | false =>
      cases k with
      | zero => rw [offset_zero_cons_of_not_blank hc, List.take_zero, List.take_zero]; rfl
      | succ k =>
        rw [offset_succ_cons_of_not_blank hc, List.take_succ_cons, visible_cons_of_not_blank hc,
          ih, visible_cons_of_not_blank hc, List.take_succ_cons]

/-- At its offset stands the visible character itself. -/
theorem head?_drop_offset (k : Nat) (text : List Char) :
    (text.drop (offset skips k text)).head? = (visible skips text)[k]? := by
  induction text generalizing k with
  | nil => simp
  | cons c rest ih =>
    cases hc : skips c with
    | true =>
      rw [offset_cons_of_blank hc, List.drop_succ_cons, ih, visible_cons_of_blank hc]
    | false =>
      cases k with
      | zero => simp [offset_zero_cons_of_not_blank hc, visible_cons_of_not_blank hc]
      | succ k =>
        rw [offset_succ_cons_of_not_blank hc, List.drop_succ_cons, ih,
          visible_cons_of_not_blank hc, List.getElem?_cons_succ]

/-- Visible characters can be counted on from one of them. -/
theorem offset_add (j k : Nat) (text : List Char) :
    offset skips (j + k) text =
      offset skips j text + offset skips k (text.drop (offset skips j text)) := by
  induction text generalizing j with
  | nil => simp
  | cons c rest ih =>
    cases hc : skips c with
    | true =>
      rw [offset_cons_of_blank hc, offset_cons_of_blank hc, List.drop_succ_cons, ih]
      omega
    | false =>
      cases j with
      | zero => rw [offset_zero_cons_of_not_blank hc, List.drop_zero, Nat.zero_add, Nat.zero_add]
      | succ j =>
        rw [show j + 1 + k = j + k + 1 from by omega, offset_succ_cons_of_not_blank hc,
          offset_succ_cons_of_not_blank hc, List.drop_succ_cons, ih]
        omega

/-- Where every character is visible, each stands at its own number. -/
theorem offset_of_no_blank {text : List Char} (h : ∀ c ∈ text, skips c = false) (k : Nat) :
    offset skips k text = min k text.length := by
  induction text generalizing k with
  | nil => simp
  | cons c rest ih =>
    have hc : skips c = false := h c (by simp)
    cases k with
    | zero => rw [offset_zero_cons_of_not_blank hc, Nat.zero_min]
    | succ k =>
      rw [offset_succ_cons_of_not_blank hc, ih fun d hd => h d (by simp [hd]), List.length_cons]
      omega

/-- At its offset a visible character is followed by what has the later ones. -/
theorem drop_offset_eq_cons {k : Nat} {x : Char} {text : List Char}
    (h : (visible skips text)[k]? = some x) :
    ∃ ys, text.drop (offset skips k text) = x :: ys ∧ skips x = false ∧
      visible skips ys = (visible skips text).drop (k + 1) := by
  have head : (text.drop (offset skips k text)).head? = (visible skips text)[k]? :=
    head?_drop_offset k text
  rw [h] at head
  obtain ⟨ys, hys⟩ := List.head?_eq_some_iff.1 head
  have hx : skips x = false := by
    have mem : x ∈ visible skips text := List.mem_of_getElem? h
    simpa [visible] using (List.mem_filter.1 mem).2
  refine ⟨ys, hys, hx, ?_⟩
  have tail : visible skips (text.drop (offset skips k text)) = (visible skips text).drop k :=
    visible_drop_offset k text
  rw [hys, visible_cons_of_not_blank hx] at tail
  rw [← List.tail_drop, ← tail, List.tail_cons]

/-- A later visible character stands further on. -/
theorem offset_lt_offset {j k : Nat} {text : List Char} (hjk : j < k)
    (hj : j < (visible skips text).length) : offset skips j text < offset skips k text := by
  obtain ⟨d, rfl⟩ : ∃ d, k = j + (d + 1) := ⟨k - j - 1, by omega⟩
  obtain ⟨ys, hys, hx, -⟩ := drop_offset_eq_cons (List.getElem?_eq_getElem hj)
  rw [offset_add, hys, offset_succ_cons_of_not_blank hx]
  omega

/-- Dropping the blank characters at the front takes away no visible one. -/
theorem visible_dropWhile (text : List Char) :
    visible skips (text.dropWhile skips) = visible skips text := by
  rw [← drop_offset_zero, visible_drop_offset, List.drop_zero]

/-- The first character that is not dropped is the first visible one. -/
theorem head?_dropWhile_skips (text : List Char) :
    (text.dropWhile skips).head? = (visible skips text).head? := by
  rw [← drop_offset_zero, head?_drop_offset, List.head?_eq_getElem?]

/-- Trimming blank characters takes away no visible one. -/
theorem visible_trimBoth (text : List Char) :
    visible skips (trimBoth skips text) = visible skips text := by
  rw [trimBoth, visible, List.filter_reverse, ← visible, visible_dropWhile, visible,
    List.filter_reverse, List.reverse_reverse, ← visible, visible_dropWhile]

/-- A text with a single visible character is trimmed to it. -/
theorem trimBoth_of_visible_eq_singleton {x : Char} {text : List Char}
    (h : visible skips text = [x]) : trimBoth skips text = [x] := by
  obtain ⟨front, back, rfl, hfront, hx, hback⟩ := List.filter_eq_cons_iff.1 h
  have blank_front : ∀ c ∈ front, skips c = true := fun c hc => by simpa using hfront c hc
  have blank_back : ∀ c ∈ back.reverse, skips c = true := by
    intro c hc
    simpa using List.filter_eq_nil_iff.1 hback c (List.mem_reverse.1 hc)
  have hkeep : ∀ rest, (x :: rest).dropWhile skips = x :: rest :=
    fun rest => List.dropWhile_cons_of_neg (by simpa using hx)
  rw [trimBoth, List.dropWhile_append_of_pos blank_front, hkeep, List.reverse_cons,
    List.dropWhile_append_of_pos blank_back, hkeep, List.reverse_singleton]

end Text

/-! ## Visible characters from a cursor on -/

namespace Cursor

variable {text : List Char}

/-- The characters from a cursor on, blank or not. -/
def rest (c : Cursor text) : List Char := text.drop c.pos.toNat

/-- The visible characters from a cursor on. -/
def visible (c : Cursor text) : List Char := Descent.visible c.blanks.skips c.rest

/-- How many characters stand between a cursor and the visible character with number `k` from it
on. -/
def gap (c : Cursor text) (k : Nat) : Nat := offset c.blanks.skips k c.rest

/-- The cursor on the visible character with number `k` from where it stands. -/
def onto (c : Cursor text) (k : Nat) : Cursor text := c.moveTo (c.pos + c.gap k)

/-- The location of the next `n` characters. -/
def stretch (c : Cursor text) (n : Nat) : Location :=
  ⟨text, ⟨c.pos.toNat, c.pos.toNat + n, Nat.le_add_right _ _⟩,
    String.ofList (trimBoth c.blanks.trims (c.rest.take n)), c⟩

@[simp] theorem blanks_onto (c : Cursor text) (k : Nat) : (c.onto k).blanks = c.blanks := rfl

@[simp] theorem pos_onto (c : Cursor text) (k : Nat) : (c.onto k).pos = c.pos + c.gap k := rfl

theorem toNat_pos_onto_sub (c : Cursor text) (k : Nat) :
    ((c.onto k).pos - c.pos).toNat = c.gap k := by
  rw [pos_onto]
  omega

theorem length_rest (c : Cursor text) : c.rest.length = text.length - c.pos.toNat :=
  List.length_drop

/-- Two cursors at one position with the same blank characters are the same. -/
theorem eq_of_pos_eq {c d : Cursor text} (hp : c.pos = d.pos) (hb : c.blanks = d.blanks) :
    c = d := by
  cases c; cases d; simp_all

theorem gap_le_length (c : Cursor text) (k : Nat) : c.gap k ≤ c.rest.length :=
  offset_le_length k c.rest

/-- Moving past a visible character moves the cursor on. -/
theorem pos_lt_pos_onto {c : Cursor text} {k : Nat} (hk : 0 < k) (hv : 0 < c.visible.length) :
    c.pos < (c.onto k).pos := by
  have hgap : c.gap 0 < c.gap k := offset_lt_offset hk hv
  rw [pos_onto]
  omega

/-- A valid cursor stays valid on any of the visible characters from it on. -/
theorem Valid.onto {c : Cursor text} (h : c.Valid) (k : Nat) : (c.onto k).Valid := by
  have hg := c.gap_le_length k
  rw [length_rest] at hg
  unfold Valid at h ⊢
  rw [pos_onto]
  omega

theorem rest_onto {c : Cursor text} (h : c.Valid) (k : Nat) :
    (c.onto k).rest = c.rest.drop (c.gap k) := by
  have hp : (c.onto k).pos.toNat = c.pos.toNat + c.gap k := by
    have := h.1
    rw [pos_onto]
    omega
  rw [rest, rest, hp, List.drop_drop]

/-- On a visible character, those from its number on are ahead. -/
theorem visible_onto {c : Cursor text} (h : c.Valid) (k : Nat) :
    (c.onto k).visible = c.visible.drop k := by
  rw [visible, blanks_onto, rest_onto h]
  exact visible_drop_offset k c.rest

/-- Visible characters can be counted on from one of them. -/
theorem onto_onto {c : Cursor text} (h : c.Valid) (j k : Nat) :
    (c.onto j).onto k = c.onto (j + k) := by
  have hg : c.gap (j + k) = c.gap j + (c.onto j).gap k := by
    rw [gap, offset_add, gap, gap, rest_onto h, blanks_onto]
    rfl
  refine eq_of_pos_eq ?_ rfl
  rw [pos_onto, pos_onto, pos_onto, hg]
  omega

/-- Peeking moves onto the first visible character and finds it. -/
theorem peek_of_valid {c : Cursor text} (h : c.Valid) :
    c.peek = (.ok c.visible.head?, c.onto 0) := by
  have found : (c.rest.dropWhile c.blanks.skips).head? = c.visible.head? :=
    head?_dropWhile_skips c.rest
  rw [peek_of_nonneg h.1, ← rest, found, ← offset_zero]
  rfl

/-- Behind the first visible character ahead stand the other ones. -/
theorem exists_rest_onto {c : Cursor text} (h : c.Valid) {x : Char} {xs : List Char}
    (hx : c.visible = x :: xs) :
    ∃ ys, (c.onto 0).rest = x :: ys ∧ c.blanks.skips x = false ∧
      Descent.visible c.blanks.skips ys = xs := by
  have h0 : (Descent.visible c.blanks.skips c.rest)[0]? = some x := by
    rw [← visible, hx, List.getElem?_cons_zero]
  obtain ⟨ys, hys, hblank, htail⟩ := drop_offset_eq_cons h0
  refine ⟨ys, (rest_onto h 0).trans hys, hblank, ?_⟩
  rw [htail, ← visible, hx]
  rfl

/-- The visible characters behind the first one are counted from the place next to it. -/
theorem gap_succ {c : Cursor text} (h : c.Valid) {x : Char} {ys : List Char}
    (hx : c.blanks.skips x = false) (hys : (c.onto 0).rest = x :: ys) (k : Nat) :
    c.gap (k + 1) = c.gap 0 + 1 + offset c.blanks.skips k ys := by
  have hadd : c.gap (0 + (k + 1)) = c.gap 0 + offset c.blanks.skips (k + 1) (c.onto 0).rest := by
    rw [rest_onto h]
    exact offset_add 0 (k + 1) c.rest
  rw [hys, offset_succ_cons_of_not_blank hx, Nat.zero_add] at hadd
  omega

/-- From a visible character, advancing by one moves onto the next one and finds it. -/
theorem advance_one {c : Cursor text} (h : c.Valid) {x : Char} {xs : List Char}
    (here : c.onto 0 = c) (hx : c.visible = x :: xs) :
    c.advance 1 = (.ok xs.head?, c.onto 1) := by
  obtain ⟨ys, hys, hblank, hvis⟩ := exists_rest_onto h hx
  have still : c.gap 0 = 0 := by
    have := congrArg Cursor.pos here
    rw [pos_onto] at this
    omega
  have hgap := gap_succ h hblank hys 0
  have hrest : c.rest = x :: ys := by rw [← hys, here]
  have short : c.pos + 1 ≤ text.length := by
    have hl := c.length_rest
    have := h.1
    rw [hrest, List.length_cons] at hl
    omega
  have hnext : (c.moveTo (c.pos + 1)).rest = ys := by
    have hp : (c.moveTo (c.pos + 1)).pos.toNat = c.pos.toNat + 1 := by
      have := h.1
      rw [pos_moveTo]
      omega
    rw [rest, hp, ← List.drop_drop, ← rest, hrest]
    rfl
  have next : (c.moveTo (c.pos + 1)).Valid := by
    have := h.1
    unfold Valid
    rw [pos_moveTo]
    omega
  rw [advance, Int.min_eq_left short, peek_of_valid next, visible, hnext, blanks_moveTo, hvis]
  refine Prod.ext rfl (eq_of_pos_eq ?_ rfl)
  rw [pos_onto, pos_onto, pos_moveTo, hgap, gap, hnext, blanks_moveTo]
  omega

/-- Over the text of a valid cursor, the location of the next `n` characters is found from any
other cursor. -/
theorem locate_eq_stretch {c d : Cursor text} (h : c.Valid) (hb : d.blanks = c.blanks) (n : Nat) :
    d.locate c.pos (c.pos + n) = .ok (c.stretch n) := by
  have hp : c.pos = (c.pos.toNat : Int) := (Int.toNat_of_nonneg h.1).symm
  have hs : c.pos + n = ((c.pos.toNat + n : Nat) : Int) := by omega
  have hc : d.moveTo c.pos.toNat = c := eq_of_pos_eq hp.symm hb
  have hle : c.pos.toNat ≤ text.length := by
    have := h.2
    omega
  rw [hs, hp, Int.toNat_natCast, locate_of_le (Nat.le_add_right _ _) hle, hc]
  simp [stretch, lexeme, Span.length, rest, hb]

/-- The location from a valid cursor up to a position that is not before it is found from any
other cursor. -/
theorem locate_of_pos_le {c d : Cursor text} (h : c.Valid) (hb : d.blanks = c.blanks) {q : Int}
    (hle : c.pos ≤ q) : d.locate c.pos q = .ok (c.stretch (q - c.pos).toNat) := by
  have hq : q = c.pos + ((q - c.pos).toNat : Int) := by omega
  rw [← locate_eq_stretch h hb, ← hq]

end Cursor

end Descent
