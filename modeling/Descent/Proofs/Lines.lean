import Mathlib.Algebra.Ring.Nat
import Descent.Diagnostic.Rendering

/-!
# Lines and columns

The line and the column of a cursor are found by counting and by searching backwards, and the line
that is shown with an error by cutting the whole text at its line ends. Here the three are brought
together: a text is cut around the line on which the cursor stands, and this one cut gives the
number of lines before it, the distance from its start, and the line itself. So line and column say
where the cursor stands, and a rendering never looks for a line that there is not.
-/

namespace Descent

/-! ## A text cut around a line -/

/-- A text in three pieces: up to a line end, or nothing; a line; and from a line end on, or
nothing. -/
structure LineAt (text before line behind : List Char) : Prop where
  text_eq : text = before ++ line ++ behind
  before_ends : before = [] ∨ before.getLast? = some '\n'
  behind_begins : behind = [] ∨ behind.head? = some '\n'
  not_mem : '\n' ∉ line

/-- Each line has a line end behind it, except the last one. -/
theorem sum_length_lines (text : List Char) :
    ((lines text).map fun l => l.length + 1).sum = text.length + 1 := by
  induction text with
  | nil => rfl
  | cons c rest ih =>
    rw [lines_cons, List.length_cons, ← ih]
    cases hl : lines rest with
    | nil => exact absurd hl (lines_ne_nil rest)
    | cons l ls =>
      unfold addToLines
      split
      · simp only [List.map_cons, List.sum_cons, List.length_nil]
        omega
      · simp only [List.map_cons, List.sum_cons, List.length_cons]
        omega

/-- The characters up to a line end are followed by it, or by nothing. -/
theorem lineEnd_behind_takeWhile (text : List Char) :
    '\n' ∉ text.takeWhile (· != '\n') ∧
      (text.dropWhile (· != '\n') = [] ∨ (text.dropWhile (· != '\n')).head? = some '\n') := by
  induction text with
  | nil => exact ⟨List.not_mem_nil, .inl rfl⟩
  | cons c rest ih =>
    by_cases hc : c = '\n'
    · rw [hc]
      exact ⟨List.not_mem_nil, .inr rfl⟩
    · have hne : (c != '\n') = true := bne_iff_ne.2 hc
      simp only [List.takeWhile_cons, List.dropWhile_cons, hne, if_true, List.mem_cons, not_or]
      exact ⟨⟨Ne.symm hc, ih.1⟩, ih.2⟩

/-- A line up to which a text is cut is the first line of what is left. -/
theorem exists_lines_of_begins {line behind : List Char} (hline : '\n' ∉ line)
    (h : behind = [] ∨ behind.head? = some '\n') :
    ∃ below, lines (line ++ behind) = line :: below := by
  rcases h with rfl | h
  · refine ⟨[], ?_⟩
    rw [List.append_nil, lines_of_not_mem hline]
  · obtain ⟨rest, rfl⟩ := List.head?_eq_some_iff.1 h
    refine ⟨lines rest, ?_⟩
    rw [lines_append_lineEnd, lines_of_not_mem hline, List.singleton_append]

/-- The lines before a line of a text are as many as the line ends before it, and with these they
make up the text before it. -/
theorem LineAt.exists_lines {text before line behind : List Char}
    (h : LineAt text before line behind) :
    ∃ above below, lines text = above ++ line :: below ∧ above.length = before.count '\n' ∧
      (above.map fun l => l.length + 1).sum = before.length := by
  obtain ⟨below, hbelow⟩ := exists_lines_of_begins h.not_mem h.behind_begins
  rcases h.before_ends with hnil | hends
  · refine ⟨[], below, ?_, ?_, ?_⟩
    · rw [h.text_eq, hnil, List.nil_append, hbelow, List.nil_append]
    · rw [hnil]
      rfl
    · rw [hnil]
      rfl
  · obtain ⟨front, hfront⟩ := List.getLast?_eq_some_iff.1 hends
    refine ⟨lines front, below, ?_, ?_, ?_⟩
    · rw [h.text_eq, hfront, List.append_assoc, List.append_assoc, List.singleton_append,
        lines_append_lineEnd, hbelow]
    · rw [length_lines, hfront, List.count_append]
      rfl
    · rw [sum_length_lines, hfront, List.length_append]
      rfl

namespace Cursor

variable {text : List Char} {c : Cursor text}

/-! ## The line of a cursor -/

/-- The text before a valid cursor has as many characters as its position says. -/
theorem length_before (h : c.Valid) : (c.before.length : Int) = c.pos := by
  have := h.1
  have := h.2
  rw [before, if_pos h.1, List.length_take]
  omega

theorem before_append_drop (h : c.Valid) : c.before ++ text.drop c.pos.toNat = text := by
  rw [before, if_pos h.1]
  exact List.take_append_drop c.pos.toNat text

/-- The column counts from the line end before a valid cursor. -/
theorem column_of_valid (h : c.Valid) : c.column = c.sinceLineEnd + 1 := by
  rw [column, length_before h]
  omega

/-- The text is cut around the line of a valid cursor: back to the last line end before it, and on
to the first one from it. -/
theorem exists_lineAt (h : c.Valid) :
    ∃ before since ahead behind, LineAt text before (since ++ ahead) behind ∧
      before.count '\n' = c.line ∧ since.length = c.sinceLineEnd ∧
      (before.length : Int) + since.length = c.pos := by
  have backward := lineEnd_behind_takeWhile c.before.reverse
  have forward := lineEnd_behind_takeWhile (text.drop c.pos.toNat)
  have hcut := List.takeWhile_append_dropWhile (p := (· != '\n')) (l := c.before.reverse)
  have hahead := List.takeWhile_append_dropWhile (p := (· != '\n')) (l := text.drop c.pos.toNat)
  generalize hs : c.before.reverse.takeWhile (· != '\n') = since at backward hcut
  generalize hb : c.before.reverse.dropWhile (· != '\n') = before at backward hcut
  generalize (text.drop c.pos.toNat).takeWhile (· != '\n') = ahead at forward hahead
  generalize (text.drop c.pos.toNat).dropWhile (· != '\n') = behind at forward hahead
  have hbefore : c.before = before.reverse ++ since.reverse := by
    rw [← List.reverse_append, hcut, List.reverse_reverse]
  refine ⟨before.reverse, since.reverse, ahead, behind, ⟨?_, ?_, forward.2, ?_⟩, ?_, ?_, ?_⟩
  · rw [← before_append_drop h, hbefore, ← hahead]
    simp only [List.append_assoc]
  · rw [List.reverse_eq_nil_iff, List.getLast?_reverse]
    exact backward.2
  · rw [List.mem_append, List.mem_reverse]
    exact not_or.2 ⟨backward.1, forward.1⟩
  · -- no line end stands between the cut and the cursor
    rw [line, hbefore, List.count_append, List.count_reverse (l := since),
      List.count_eq_zero.2 backward.1, Nat.add_zero]
  · rw [List.length_reverse, sinceLineEnd, hs]
  · rw [← length_before h, hbefore, List.length_append]
    omega

/-! ## What line and column say -/

/-- The line of a cursor is one of the text's, the column lies on it, and both together say where
the cursor stands. The line is the stretch of the text between the line ends around the cursor. -/
structure Placed (c : Cursor text) : Prop where
  line_lt : c.line < (lines text).length
  getElem?_line : (lines text)[c.line]? = some c.currentLine
  one_le_column : 1 ≤ c.column
  column_le : c.column ≤ c.currentLine.length + 1
  pos_eq : c.pos =
    ((((lines text).take c.line).map fun l => l.length + 1).sum : Nat) + (c.column - 1)
  lineAt : ∃ before behind, LineAt text before c.currentLine behind ∧
    (before.length : Int) ≤ c.pos ∧ c.pos ≤ (before.length : Int) + c.currentLine.length

/-- A valid cursor is placed by its line and column. -/
theorem placed_of_valid (h : c.Valid) : c.Placed := by
  obtain ⟨before, since, ahead, behind, hline, hcount, hsince, hpos⟩ := exists_lineAt h
  obtain ⟨above, below, hlines, habove, hsum⟩ := hline.exists_lines
  -- there are as many lines above the cursor as line ends before it
  have hindex : above.length = c.line := habove.trans hcount
  have hget : (lines text)[c.line]? = some (since ++ ahead) := by
    rw [hlines, ← hindex, List.getElem?_append_right (Nat.le_refl _), Nat.sub_self]
    rfl
  have hcurrent : c.currentLine = since ++ ahead := by
    rw [currentLine, List.getD_eq_getElem?_getD, hget]
    rfl
  have htake : (lines text).take c.line = above := by
    rw [hlines, ← hindex, List.take_left]
  have hcolumn := column_of_valid h
  constructor
  · rw [hlines, ← hindex, List.length_append, List.length_cons]
    omega
  · rw [hcurrent]
    exact hget
  · omega
  · rw [hcurrent, List.length_append]
    omega
  · rw [htake, hsum]
    omega
  · refine ⟨before, behind, ?_, ?_, ?_⟩
    · rw [hcurrent]
      exact hline
    · omega
    · rw [hcurrent, List.length_append]
      omega

/-- The lines before a cursor's are as long as there are characters before them, so there are none
exactly if the cursor stands where its column says. -/
theorem Placed.column_eq_pos_iff (h : c.Placed) : c.column - 1 = c.pos ↔ c.line = 0 := by
  have hpos := h.pos_eq
  have hle : ((lines text).take c.line).length ≤
      (((lines text).take c.line).map fun l => l.length + 1).sum := by
    generalize (lines text).take c.line = above
    induction above with
    | nil => exact Nat.le_refl _
    | cons l rest ih =>
      rw [List.map_cons, List.sum_cons, List.length_cons]
      omega
  rw [List.length_take, Nat.min_eq_left (Nat.le_of_lt h.line_lt)] at hle
  constructor
  · intro hcolumn
    omega
  · intro hline
    rw [hline, List.take_zero, List.map_nil, List.sum_nil] at hpos
    omega

end Cursor

/-! ## Renderings -/

/-- A row of so many characters can be counted, and there is room for it. -/
def Fits (room n : Nat) : Prop := n ≤ Span.wordMax ∧ n ≤ room

instance (room n : Nat) : Decidable (Fits room n) := inferInstanceAs (Decidable (_ ∧ _))

variable {room n : Nat} {f : Fault}

theorem checkRow_eq_ok_iff : checkRow room n = .ok () ↔ Fits room n := by
  unfold checkRow Fits
  split
  · simp
    omega
  · split
    · simp
      omega
    · simp
      omega

/-- A row is refused because it cannot be counted, or because there is no room for it. -/
theorem checkRow_eq_error (h : checkRow room n = .error f) :
    f = .rangeTooLarge ∧ Span.wordMax < n ∨ f = .noRoom ∧ room < n := by
  unfold checkRow at h
  split at h
  · next hlong =>
    cases h
    exact .inl ⟨rfl, hlong⟩
  · split at h
    · next hroom =>
      cases h
      exact .inr ⟨rfl, hroom⟩
    · cases h

namespace ParseError

variable {e : ParseError}

/-- An error is rendered exactly if the two parts of the row under its line fit. -/
theorem rendered_eq_ok_iff :
    e.rendered room = .ok e.caret ↔ Fits room e.problem.start ∧ Fits room e.problem.length := by
  rw [← checkRow_eq_ok_iff, ← checkRow_eq_ok_iff, rendered]
  cases checkRow room e.problem.start with
  | error f => simp [bind, Except.bind]
  | ok u =>
    cases checkRow room e.problem.length with
    | error f => simp [bind, Except.bind]
    | ok u => simp [bind, Except.bind, pure, Except.pure]

/-- An error that is not rendered has a range to underline that starts too far off or is too long,
either to be counted or for the room there is. -/
theorem rendered_eq_error (h : e.rendered room = .error f) :
    f = .rangeTooLarge ∧ (Span.wordMax < e.problem.start ∨ Span.wordMax < e.problem.length) ∨
      f = .noRoom ∧ (room < e.problem.start ∨ room < e.problem.length) := by
  unfold rendered at h
  cases hs : checkRow room e.problem.start with
  | error g =>
    rw [hs] at h
    cases h
    exact (checkRow_eq_error hs).imp (.imp_right .inl) (.imp_right .inl)
  | ok u =>
    cases hl : checkRow room e.problem.length with
    | error g =>
      rw [hs, hl] at h
      cases h
      exact (checkRow_eq_error hl).imp (.imp_right .inr) (.imp_right .inr)
    | ok u =>
      rw [hs, hl] at h
      cases h

/-- How far the carets under an error are from the left. -/
def indentation (e : ParseError) : Nat := (e.underline.toList.takeWhile (· == ' ')).length

theorem indentation_eq : e.indentation = e.problem.start := by
  have carets : (List.replicate e.problem.length '^').takeWhile (· == ' ') = [] := by
    cases e.problem.length with
    | zero => rfl
    | succ n => rfl
  have spaces : ∀ c ∈ List.replicate e.problem.start ' ', (c == ' ') = true := by
    intro c hc
    rw [List.eq_of_mem_replicate hc]
    rfl
  rw [indentation, underline, String.toList_ofList, List.takeWhile_append_of_pos spaces, carets,
    List.append_nil, List.length_replicate]

/-- The second letter on the second of three lines is not there. -/
def secondLine : ParseError :=
  ⟨.expectedLiteral "x" "c", ⟨['a', '\n', 'c', 'd', '\n'], ⟨3, 4, by decide⟩, "d", ⟨3, .empty⟩⟩,
    ⟨3, 4, by decide⟩, []⟩

/-- An error at the start of the empty text, with a range to underline that is given. -/
def farOff : ParseError :=
  .located (.expectedEnd "m") ⟨[], ⟨0, 0, Nat.le_refl 0⟩, "", ⟨0, .empty⟩⟩
    (some ⟨9223372036854775808, 9223372036854775808, Nat.le_refl _⟩)

end ParseError

end Descent
