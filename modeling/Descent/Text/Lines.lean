/-!
# Lines

A text cut at its line ends. A line end belongs to the line that it ends, and is not part of the
line's text.
-/

namespace Descent

/-- Puts a character before lines: a line end begins a new line, any other character goes to the
front of the first one. -/
def addToLines (c : Char) (ls : List (List Char)) : List (List Char) :=
  if c = '\n' then [] :: ls
  else
    match ls with
    | [] => [[c]]
    | l :: rest => (c :: l) :: rest

/-- The lines of a text, without their line ends. -/
def lines (text : List Char) : List (List Char) := text.foldr addToLines [[]]

@[simp] theorem lines_cons (c : Char) (rest : List Char) :
    lines (c :: rest) = addToLines c (lines rest) := rfl

/-- A line end adds a line, and every other character keeps their number. -/
theorem length_addToLines {c : Char} {ls : List (List Char)} (h : ls ≠ []) :
    (addToLines c ls).length = ls.length + if c = '\n' then 1 else 0 := by
  unfold addToLines
  split
  · rfl
  · cases ls with
    | nil => exact absurd rfl h
    | cons l rest => rfl

/-- A text has at least one line. -/
theorem lines_ne_nil (text : List Char) : lines text ≠ [] := by
  cases text with
  | nil => exact List.cons_ne_nil _ _
  | cons c rest =>
    rw [lines_cons]
    unfold addToLines
    split
    · exact List.cons_ne_nil _ _
    · split <;> exact List.cons_ne_nil _ _

/-- There is one line more than there are line ends. -/
theorem length_lines (text : List Char) : (lines text).length = text.count '\n' + 1 := by
  induction text with
  | nil => rfl
  | cons c rest ih =>
    rw [lines_cons, length_addToLines (lines_ne_nil rest), ih, List.count_cons]
    simp only [beq_iff_eq]
    omega

/-- A text without line ends is a single line. -/
theorem lines_of_not_mem {text : List Char} (h : '\n' ∉ text) : lines text = [text] := by
  induction text with
  | nil => rfl
  | cons c rest ih =>
    have hc : c ≠ '\n' := fun hc => h (hc ▸ List.mem_cons_self)
    have hrest : '\n' ∉ rest := fun hmem => h (List.mem_cons_of_mem c hmem)
    rw [lines_cons, ih hrest, addToLines, if_neg hc]

/-- No line has a line end in it. -/
theorem not_mem_of_mem_lines {text line : List Char} (h : line ∈ lines text) : '\n' ∉ line := by
  induction text generalizing line with
  | nil =>
    rw [List.mem_singleton.1 h]
    exact List.not_mem_nil
  | cons c rest ih =>
    rw [lines_cons] at h
    cases hl : lines rest with
    | nil => exact absurd hl (lines_ne_nil rest)
    | cons l ls =>
      rw [hl] at h ih
      unfold addToLines at h
      by_cases hc : c = '\n'
      · rw [if_pos hc] at h
        rcases List.mem_cons.1 h with rfl | h
        · exact List.not_mem_nil
        · exact ih h
      · rw [if_neg hc] at h
        rcases List.mem_cons.1 h with rfl | h
        · intro hmem
          rcases List.mem_cons.1 hmem with hmem | hmem
          · exact hc hmem.symm
          · exact ih List.mem_cons_self hmem
        · exact ih (List.mem_cons_of_mem l h)

/-- A line end separates the lines before it from those behind it. -/
theorem lines_append_lineEnd (before behind : List Char) :
    lines (before ++ '\n' :: behind) = lines before ++ lines behind := by
  induction before with
  | nil => rfl
  | cons c rest ih =>
    rw [List.cons_append, lines_cons, lines_cons, ih]
    cases hl : lines rest with
    | nil => exact absurd hl (lines_ne_nil rest)
    | cons l ls =>
      unfold addToLines
      split
      · rfl
      · rfl

end Descent
