/-!
# Trimming

Cutting characters of a class off both ends of a text.
-/

namespace Descent

/-- The text without the characters satisfying `p` at its two ends. -/
def trimBoth (p : Char → Bool) (text : List Char) : List Char :=
  ((text.dropWhile p).reverse.dropWhile p).reverse

/-- A text without such characters is not shortened. -/
theorem trimBoth_eq_self {p : Char → Bool} {text : List Char} (h : ∀ c ∈ text, p c = false) :
    trimBoth p text = text := by
  have keep : ∀ l : List Char, (∀ c ∈ l, p c = false) → l.dropWhile p = l := by
    intro l hl
    cases l with
    | nil => rfl
    | cons c rest => simp [hl c (by simp)]
  rw [trimBoth, keep text h, keep text.reverse (by simpa using h), List.reverse_reverse]

/-- Trimming keeps only characters of the text. -/
theorem mem_of_mem_trimBoth {p : Char → Bool} {text : List Char} {c : Char}
    (h : c ∈ trimBoth p text) : c ∈ text := by
  have h' := (List.dropWhile_sublist p).mem (List.mem_reverse.1 h)
  exact (List.dropWhile_sublist p).mem (List.mem_reverse.1 h')

end Descent
