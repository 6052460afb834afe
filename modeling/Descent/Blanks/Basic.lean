/-!
# Blank characters

The set of texts that a cursor steps over. Only an entry of one character is ever skipped; a
longer entry is allowed, and its characters are trimmed from the ends of matched text like those
of every other entry.
-/

namespace Descent

/-- A finite set of texts, kept in increasing order and without repetition. -/
structure Blanks where
  entries : List String
deriving DecidableEq

namespace Blanks

/-! ## Building -/

/-- The empty set. -/
def empty : Blanks := ⟨[]⟩

/-- Places a text at its position in an increasing list, unless it is there already. -/
def insertSorted (entry : String) : List String → List String
  | [] => [entry]
  | e :: rest =>
    if entry < e then entry :: e :: rest
    else if entry = e then e :: rest
    else e :: insertSorted entry rest

/-- The set with one more entry. -/
def insert (b : Blanks) (entry : String) : Blanks := ⟨insertSorted entry b.entries⟩

/-- The set with all entries of a list added. -/
def insertAll (b : Blanks) (entries : List String) : Blanks := entries.foldl insert b

/-- The set of the entries of a list. -/
def ofList (entries : List String) : Blanks := empty.insertAll entries

/-! ## Asking -/

/-- Whether the cursor steps over a character: it is an entry by itself. -/
def skips (b : Blanks) (c : Char) : Bool := b.entries.any fun e => e.toList == [c]

/-- Whether a character is trimmed from the ends of matched text: it occurs in an entry. -/
def trims (b : Blanks) (c : Char) : Bool := b.entries.any fun e => e.toList.contains c

/-- All entries one after another. -/
def joined (b : Blanks) : String := String.join b.entries

/-! ## Membership -/

theorem mem_insertSorted {entry x : String} {l : List String} :
    x ∈ insertSorted entry l ↔ x = entry ∨ x ∈ l := by
  induction l with
  | nil => simp [insertSorted]
  | cons e rest ih =>
    unfold insertSorted
    split
    · simp
    · split
      · simp_all
      · simp [ih, or_left_comm]

/-- Adding an entry adds exactly that entry. -/
@[simp] theorem mem_insert {b : Blanks} {entry x : String} :
    x ∈ (b.insert entry).entries ↔ x = entry ∨ x ∈ b.entries := mem_insertSorted

/-- Adding a list of entries adds exactly its members. -/
@[simp] theorem mem_insertAll {b : Blanks} {entries : List String} {x : String} :
    x ∈ (b.insertAll entries).entries ↔ x ∈ entries ∨ x ∈ b.entries := by
  induction entries generalizing b with
  | nil => simp [insertAll]
  | cons e rest ih =>
    have := ih (b := b.insert e)
    simp only [insertAll, List.foldl_cons] at this ⊢
    rw [this]
    simp [or_assoc, or_left_comm]

/-- A character is skipped exactly if it is an entry of its own. -/
theorem skips_iff_mem {b : Blanks} {x : Char} :
    b.skips x = true ↔ String.singleton x ∈ b.entries := by
  rw [skips, List.any_eq_true]
  constructor
  · rintro ⟨e, he, hx⟩
    have heq : e = String.singleton x := by
      apply String.ext
      rw [beq_iff_eq.1 hx, String.toList_singleton]
    exact heq ▸ he
  · intro h
    exact ⟨_, h, by simp⟩

/-- Where every entry is a single character, the characters skipped are those trimmed. -/
theorem skips_eq_trims {b : Blanks} (h : ∀ e ∈ b.entries, e.length = 1) (c : Char) :
    b.skips c = b.trims c := by
  unfold skips trims
  rw [Bool.eq_iff_iff]
  simp only [List.any_eq_true, beq_iff_eq, List.contains_iff_mem]
  constructor
  · rintro ⟨e, he, hc⟩
    exact ⟨e, he, by simp [hc]⟩
  · rintro ⟨e, he, hc⟩
    refine ⟨e, he, ?_⟩
    have hl : e.toList.length = 1 := by rw [String.length_toList]; exact h e he
    obtain ⟨d, hd⟩ := List.length_eq_one_iff.1 hl
    rw [hd] at hc ⊢
    simp_all

end Blanks

end Descent
