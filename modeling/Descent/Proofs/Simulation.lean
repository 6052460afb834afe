import Mathlib.Data.List.Forall2
import Descent.Proofs.Everywhere
import Descent.Proofs.Safety

/-!
# Two runs in step

One rule, run on two texts. Suppose that positions of the texts correspond in such a way that the
same visible characters are ahead of corresponding cursors, and that reading them leads to
corresponding positions again. Then the two runs of a rule without functions of its own stay in
step through every choice, repetition and recovery: they end alike, at corresponding positions, and
even with the same fault.

The only thing that such runs may see differently is whether an attempt has moved the cursor at all,
since there may be blank characters in one text only. A repetition needs to know that, and so its
attempts have to be steady: they move both cursors or none.
-/

namespace Descent

variable {t₁ t₂ : List Char}

/-! ## Correspondences -/

/-- What corresponds between two texts, each with its blank characters: positions, values, issues,
errors and the notes on them. -/
structure Correspondence (t₁ t₂ : List Char) where
  blanks₁ : Blanks
  blanks₂ : Blanks
  Position : Int → Int → Prop
  SameValue : Value → Value → Prop
  SameIssue : Issue → Issue → Prop
  SameError : ParseError → ParseError → Prop
  SameNotes : List String → List String → Prop

namespace Correspondence

variable (σ : Correspondence t₁ t₂)

/-- Valid cursors at corresponding positions. -/
structure Cursors (c₁ : Cursor t₁) (c₂ : Cursor t₂) : Prop where
  blanks_left : c₁.blanks = σ.blanks₁
  blanks_right : c₂.blanks = σ.blanks₂
  valid_left : c₁.Valid
  valid_right : c₂.Valid
  position : σ.Position c₁.pos c₂.pos

/-- Corresponding cursors, neither of them moved back. -/
structure Onward (c₁ : Cursor t₁) (c₂ : Cursor t₂) (d₁ : Cursor t₁) (d₂ : Cursor t₂) : Prop where
  cursors : σ.Cursors d₁ d₂
  le_left : c₁.pos ≤ d₁.pos
  le_right : c₂.pos ≤ d₂.pos

/-- What makes a correspondence a simulation: corresponding cursors have the same visible characters
ahead, and whatever is made at corresponding places corresponds. -/
structure IsSimulation : Prop where
  position_max : ∀ {p₁ p₂ q₁ q₂ : Int}, σ.Position p₁ p₂ → σ.Position q₁ q₂ →
    σ.Position (max p₁ q₁) (max p₂ q₂)
  visible_eq : ∀ {c₁ : Cursor t₁} {c₂ : Cursor t₂}, σ.Cursors c₁ c₂ → c₁.visible = c₂.visible
  position_onto : ∀ {c₁ : Cursor t₁} {c₂ : Cursor t₂}, σ.Cursors c₁ c₂ → ∀ k : Nat,
    σ.Position (c₁.onto k).pos (c₂.onto k).pos
  location : ∀ {c₁ : Cursor t₁} {c₂ : Cursor t₂} {d₁ : Cursor t₁} {d₂ : Cursor t₂},
    σ.Cursors c₁ c₂ → σ.Onward c₁ c₂ d₁ d₂ →
    σ.SameValue (.location (c₁.stretch (d₁.pos - c₁.pos).toNat))
      (.location (c₂.stretch (d₂.pos - c₂.pos).toNat))
  pair : ∀ {v₁ v₂ w₁ w₂ : Value}, σ.SameValue v₁ v₂ → σ.SameValue w₁ w₂ →
    σ.SameValue (.pair v₁ w₁) (.pair v₂ w₂)
  list : ∀ {vs₁ vs₂ : List Value}, List.Forall₂ σ.SameValue vs₁ vs₂ →
    σ.SameValue (.list vs₁) (.list vs₂)
  issue_refl : ∀ issue : Issue, σ.SameIssue issue issue
  issue_literal : ∀ (literal : String) {l₁ l₂ : Location},
    σ.SameValue (.location l₁) (.location l₂) →
    σ.SameIssue (.expectedLiteral literal l₁.lexeme) (.expectedLiteral literal l₂.lexeme)
  error : ∀ {c₁ : Cursor t₁} {c₂ : Cursor t₂} {d₁ : Cursor t₁} {d₂ : Cursor t₂} {i₁ i₂ : Issue}
    {n₁ n₂ : List String}, σ.Cursors c₁ c₂ → σ.Onward c₁ c₂ d₁ d₂ → σ.SameIssue i₁ i₂ →
    σ.SameNotes n₁ n₂ →
    σ.SameError
      { ParseError.located i₁ (c₁.stretch (d₁.pos - c₁.pos).toNat) none with notes := n₁ }
      { ParseError.located i₂ (c₂.stretch (d₂.pos - c₂.pos).toNat) none with notes := n₂ }
  notes_nil : σ.SameNotes [] []
  notes_append : ∀ {n₁ n₂ : List String} {e₁ e₂ : ParseError} (label : String),
    σ.SameNotes n₁ n₂ → σ.SameError e₁ e₂ →
    σ.SameNotes (n₁ ++ [s!"{label}: {e₁.message}"]) (n₂ ++ [s!"{label}: {e₂.message}"])

/-- Two runs that began at corresponding cursors have ended alike. If they are steady, then a value
has moved both cursors or none. -/
inductive Ends {α : Type} (steady : Bool) (R : α → α → Prop) (c₁ : Cursor t₁) (c₂ : Cursor t₂) :
    Outcome α × Cursor t₁ → Outcome α × Cursor t₂ → Prop
  | value {a₁ a₂ : α} {d₁ : Cursor t₁} {d₂ : Cursor t₂} (same : R a₁ a₂)
      (onward : σ.Onward c₁ c₂ d₁ d₂)
      (moved : steady = true → (d₁.pos = c₁.pos ↔ d₂.pos = c₂.pos)) :
      Ends steady R c₁ c₂ (.value a₁, d₁) (.value a₂, d₂)
  | failure {e₁ e₂ : ParseError} {d₁ : Cursor t₁} {d₂ : Cursor t₂} (same : σ.SameError e₁ e₂)
      (onward : σ.Onward c₁ c₂ d₁ d₂) : Ends steady R c₁ c₂ (.failure e₁, d₁) (.failure e₂, d₂)
  | fault {f : Fault} {d₁ : Cursor t₁} {d₂ : Cursor t₂} (onward : σ.Onward c₁ c₂ d₁ d₂) :
      Ends steady R c₁ c₂ (.fault f, d₁) (.fault f, d₂)

/-- From corresponding cursors, the runs of an action end alike. -/
def Lockstep {α : Type} (steady : Bool) (R : α → α → Prop) (x : Action α) : Prop :=
  ∀ (c₁ : Cursor t₁) (c₂ : Cursor t₂), σ.Cursors c₁ c₂ →
    σ.Ends steady R c₁ c₂ (x.run c₁) (x.run c₂)

variable {σ} {α β : Type} {steady : Bool} {R : α → α → Prop} {S : β → β → Prop}
  {c₁ d₁ : Cursor t₁} {c₂ d₂ : Cursor t₂}

theorem Cursors.onward (h : σ.Cursors c₁ c₂) : σ.Onward c₁ c₂ c₁ c₂ :=
  ⟨h, Int.le_refl _, Int.le_refl _⟩

/-- Corresponding cursors are moved onto corresponding visible characters. -/
theorem Cursors.onto (hσ : σ.IsSimulation) (h : σ.Cursors c₁ c₂) (k : Nat) :
    σ.Onward c₁ c₂ (c₁.onto k) (c₂.onto k) := by
  refine ⟨⟨h.blanks_left, h.blanks_right, h.valid_left.onto k, h.valid_right.onto k,
    hσ.position_onto h k⟩, ?_, ?_⟩
  · rw [Cursor.pos_onto]
    omega
  · rw [Cursor.pos_onto]
    omega

theorem Onward.trans {e₁ : Cursor t₁} {e₂ : Cursor t₂} (h : σ.Onward c₁ c₂ d₁ d₂)
    (h' : σ.Onward d₁ d₂ e₁ e₂) : σ.Onward c₁ c₂ e₁ e₂ :=
  ⟨h'.cursors, Int.le_trans h.le_left h'.le_left, Int.le_trans h.le_right h'.le_right⟩

/-- Corresponding cursors put back to where they began correspond again. -/
theorem Onward.restored (h : σ.Cursors c₁ c₂) (hd : σ.Onward c₁ c₂ d₁ d₂) :
    d₁.moveTo c₁.pos = c₁ ∧ d₂.moveTo c₂.pos = c₂ := by
  have hl : d₁.blanks = c₁.blanks := hd.cursors.blanks_left.trans h.blanks_left.symm
  have hr : d₂.blanks = c₂.blanks := hd.cursors.blanks_right.trans h.blanks_right.symm
  exact ⟨Cursor.eq_of_pos_eq rfl hl, Cursor.eq_of_pos_eq rfl hr⟩

/-- Of two pairs of corresponding cursors, the ones further on correspond. -/
theorem Onward.max (hσ : σ.IsSimulation) {e₁ : Cursor t₁} {e₂ : Cursor t₂}
    (hd : σ.Onward c₁ c₂ d₁ d₂) (he : σ.Onward c₁ c₂ e₁ e₂) :
    σ.Onward c₁ c₂ (d₁.moveTo (Max.max d₁.pos e₁.pos)) (d₂.moveTo (Max.max d₂.pos e₂.pos)) where
  cursors :=
    { blanks_left := hd.cursors.blanks_left
      blanks_right := hd.cursors.blanks_right
      valid_left := ⟨Int.le_trans hd.cursors.valid_left.1 (Int.le_max_left _ _),
        Int.max_le.2 ⟨hd.cursors.valid_left.2, he.cursors.valid_left.2⟩⟩
      valid_right := ⟨Int.le_trans hd.cursors.valid_right.1 (Int.le_max_left _ _),
        Int.max_le.2 ⟨hd.cursors.valid_right.2, he.cursors.valid_right.2⟩⟩
      position := hσ.position_max hd.cursors.position he.cursors.position }
  le_left := Int.le_trans hd.le_left (Int.le_max_left _ _)
  le_right := Int.le_trans hd.le_right (Int.le_max_left _ _)

/-- Steady runs are alike in any case. -/
theorem Ends.of_steady {x₁ : Outcome α × Cursor t₁} {x₂ : Outcome α × Cursor t₂}
    (h : σ.Ends true R c₁ c₂ x₁ x₂) : σ.Ends steady R c₁ c₂ x₁ x₂ := by
  cases h with
  | value same onward moved => exact .value same onward fun _ => moved rfl
  | failure same onward => exact .failure same onward
  | fault onward => exact .fault onward

/-- What goes on in step from where two steps have ended is in step from where they began. -/
theorem Ends.trans {x₁ : Outcome α × Cursor t₁} {x₂ : Outcome α × Cursor t₂}
    (onward : σ.Onward c₁ c₂ d₁ d₂) (moved : steady = true → (d₁.pos = c₁.pos ↔ d₂.pos = c₂.pos))
    (h : σ.Ends steady R d₁ d₂ x₁ x₂) : σ.Ends steady R c₁ c₂ x₁ x₂ := by
  have hl := onward.le_left
  have hr := onward.le_right
  cases h with
  | value same onward' moved' =>
    refine .value same (onward.trans onward') fun hs => ?_
    -- neither step moves back, so the whole has stood still only if both have
    have hl' := onward'.le_left
    have hr' := onward'.le_right
    have hm := moved hs
    have hm' := moved' hs
    constructor
    · intro h
      have := hm.1 (by omega)
      have := hm'.1 (by omega)
      omega
    · intro h
      have := hm.2 (by omega)
      have := hm'.2 (by omega)
      omega
  | failure same onward' => exact .failure same (onward.trans onward')
  | fault onward' => exact .fault (onward.trans onward')

/-! ## Actions in step -/

open Descent.Action

/-- The location from corresponding cursors to where a run has led corresponds. -/
theorem IsSimulation.location_onto (hσ : σ.IsSimulation) (h : σ.Cursors c₁ c₂) (k : Nat) :
    σ.SameValue (.location (c₁.stretch (c₁.gap k))) (.location (c₂.stretch (c₂.gap k))) := by
  have hl := hσ.location h (h.onto hσ k)
  rw [Cursor.toNat_pos_onto_sub, Cursor.toNat_pos_onto_sub] at hl
  exact hl

/-- An error between corresponding cursors and corresponding visible characters corresponds. -/
theorem IsSimulation.error_onto (hσ : σ.IsSimulation) (h : σ.Cursors c₁ c₂) (k : Nat)
    {i₁ i₂ : Issue} (hi : σ.SameIssue i₁ i₂) :
    σ.SameError (.located i₁ (c₁.stretch (c₁.gap k)) none)
      (.located i₂ (c₂.stretch (c₂.gap k)) none) := by
  have he := hσ.error h (h.onto hσ k) hi hσ.notes_nil
  rw [Cursor.toNat_pos_onto_sub, Cursor.toNat_pos_onto_sub] at he
  exact he

/-- Reading a visible character moves both cursors. -/
theorem Cursors.moved_onto (hσ : σ.IsSimulation) (h : σ.Cursors c₁ c₂) {k : Nat} (hpos : 0 < k)
    (hlen : 0 < c₁.visible.length) :
    (c₁.onto k).pos = c₁.pos ↔ (c₂.onto k).pos = c₂.pos := by
  have hlen' : 0 < c₂.visible.length := hσ.visible_eq h ▸ hlen
  have h₁ : c₁.gap 0 < c₁.gap k := offset_lt_offset hpos hlen
  have h₂ : c₂.gap 0 < c₂.gap k := offset_lt_offset hpos hlen'
  rw [Cursor.pos_onto, Cursor.pos_onto]
  omega

/-- Literals are matched in step, and steadily so. -/
theorem tag_lockstep (hσ : σ.IsSimulation) {literal : String} (hne : literal.toList ≠ []) :
    σ.Lockstep steady (fun l₁ l₂ => σ.SameValue (.location l₁) (.location l₂)) (tag literal) := by
  intro c₁ c₂ h
  have hvis := hσ.visible_eq h
  rw [tag_of_valid h.valid_left hne, tag_of_valid h.valid_right hne, ← hvis]
  have hk : agreement literal.toList c₁.visible = literal.toList.length ↔ _ :=
    agreement_eq_length_iff
  -- both runs compare the literal with the same visible characters and agree on as many
  generalize agreement literal.toList c₁.visible = k at hk ⊢
  have honward := h.onto hσ k
  unfold tagOutcome
  by_cases hlen : k = literal.toList.length
  · rw [if_pos hlen, if_pos hlen]
    refine .value (hσ.location_onto h k) honward fun _ => h.moved_onto hσ ?_ ?_
    · rw [hlen]
      exact List.length_pos_iff.2 hne
    · exact Nat.lt_of_lt_of_le (List.length_pos_iff.2 hne) (hk.1 hlen).length_le
  · rw [if_neg hlen, if_neg hlen, ← hvis]
    refine .failure (hσ.error_onto h k ?_) honward
    cases c₁.visible[k]? with
    | none => exact hσ.issue_refl _
    | some x => exact hσ.issue_literal literal (hσ.location_onto h k)

/-- Tokens are matched in step, and steadily so. -/
theorem regex_lockstep (hσ : σ.IsSimulation) (pattern : String) (accepts : List Char → Bool) :
    σ.Lockstep steady (fun l₁ l₂ => σ.SameValue (.location l₁) (.location l₂))
      (regex pattern accepts) := by
  intro c₁ c₂ h
  have hvis := hσ.visible_eq h
  rw [regex_of_valid h.valid_left, regex_of_valid h.valid_right, ← hvis]
  have hle := tokenLength_le_length accepts [] c₁.visible
  generalize tokenLength accepts [] c₁.visible = k at hle ⊢
  by_cases hk : k = 0
  · rw [if_pos hk, if_pos hk]
    exact .failure (hσ.error_onto h 0 (hσ.issue_refl _)) h.onward
  · rw [if_neg hk, if_neg hk]
    exact .value (hσ.location_onto h k) (h.onto hσ k) fun _ =>
      h.moved_onto hσ (Nat.pos_of_ne_zero hk) (by omega)

/-- The end of the text is matched in step. -/
theorem eof_lockstep (hσ : σ.IsSimulation) :
    σ.Lockstep false (fun l₁ l₂ => σ.SameValue (.location l₁) (.location l₂)) eof := by
  intro c₁ c₂ h
  rw [eof_of_valid h.valid_left, eof_of_valid h.valid_right, ← hσ.visible_eq h]
  cases c₁.visible.head? with
  | none => exact .value (hσ.location_onto h 0) (h.onto hσ 0) fun hs => by cases hs
  | some found => exact .failure (hσ.error_onto h 0 (hσ.issue_refl _)) (h.onto hσ 0)

/-- Actions in order are in step. -/
theorem Lockstep.bind {x : Action α} {f : α → Action β} (hx : σ.Lockstep steady R x)
    (hf : ∀ a₁ a₂, R a₁ a₂ → ∀ (c₁ : Cursor t₁) (c₂ : Cursor t₂), σ.Cursors c₁ c₂ →
      σ.Ends steady S c₁ c₂ ((f a₁).run c₁) ((f a₂).run c₂)) : σ.Lockstep steady S (x.bind f) := by
  intro c₁ c₂ h
  have hend := hx c₁ c₂ h
  rcases hr₁ : x.run c₁ with ⟨o₁, d₁⟩
  rcases hr₂ : x.run c₂ with ⟨o₂, d₂⟩
  rw [hr₁, hr₂] at hend
  cases hend with
  | value same onward moved =>
    rw [bind_of_value hr₁, bind_of_value hr₂]
    exact .trans onward moved (hf _ _ same d₁ d₂ onward.cursors)
  | failure same onward =>
    rw [bind_of_failure hr₁, bind_of_failure hr₂]
    exact .failure same onward
  | fault onward =>
    rw [bind_of_fault hr₁, bind_of_fault hr₂]
    exact .fault onward

/-- Values of actions in step are put through functions that make corresponding values. -/
theorem Lockstep.ends_mapValue {x : Action α} {f₁ f₂ : α → β} (hx : σ.Lockstep steady R x)
    (hf : ∀ a₁ a₂, R a₁ a₂ → S (f₁ a₁) (f₂ a₂)) (h : σ.Cursors c₁ c₂) :
    σ.Ends steady S c₁ c₂ ((x.mapValue f₁).run c₁) ((x.mapValue f₂).run c₂) := by
  have hend := hx c₁ c₂ h
  unfold Action.mapValue
  rcases hr₁ : x.run c₁ with ⟨o₁, d₁⟩
  rcases hr₂ : x.run c₂ with ⟨o₂, d₂⟩
  rw [hr₁, hr₂] at hend
  cases hend with
  | value same onward moved =>
    rw [transform_of_value hr₁, transform_of_value hr₂]
    exact .value (hf _ _ same) onward moved
  | failure same onward =>
    rw [transform_of_failure hr₁, transform_of_failure hr₂]
    exact .failure same onward
  | fault onward =>
    rw [transform_of_fault hr₁, transform_of_fault hr₂]
    exact .fault onward

theorem Lockstep.mapValue {x : Action α} {f : α → β} (hx : σ.Lockstep steady R x)
    (hf : ∀ a₁ a₂, R a₁ a₂ → S (f a₁) (f a₂)) : σ.Lockstep steady S (x.mapValue f) :=
  fun _ _ h => hx.ends_mapValue hf h

/-- Two actions in step, one after the other, for both values. -/
theorem Lockstep.both {x : Action α} {y : Action β} (hx : σ.Lockstep steady R x)
    (hy : σ.Lockstep steady S y) :
    σ.Lockstep steady (fun v w => R v.1 w.1 ∧ S v.2 w.2) (x.both y) :=
  hx.bind fun _ _ ha _ _ h => hy.ends_mapValue (fun _ _ hb => ⟨ha, hb⟩) h

/-- Two actions in step, one after the other, for the first value. -/
theorem Lockstep.keepLeft {x : Action α} {y : Action β} (hx : σ.Lockstep steady R x)
    (hy : σ.Lockstep steady S y) : σ.Lockstep steady R (x.keepLeft y) :=
  hx.bind fun _ _ ha _ _ h => hy.ends_mapValue (fun _ _ _ => ha) h

/-- Two actions in step, one after the other, for the second value. -/
theorem Lockstep.keepRight {x : Action α} {y : Action β} (hx : σ.Lockstep steady R x)
    (hy : σ.Lockstep steady S y) : σ.Lockstep steady S (x.keepRight y) :=
  hx.bind fun _ _ _ c₁ c₂ h => hy c₁ c₂ h

/-- A sequence of actions in step is in step. -/
theorem seqFrom_ends (actions : List (Bool × Action α))
    (hall : ∀ entry ∈ actions, σ.Lockstep steady R entry.2) {vs₁ vs₂ : List α}
    (hvs : List.Forall₂ R vs₁ vs₂) (h : σ.Cursors c₁ c₂) :
    σ.Ends steady (List.Forall₂ R) c₁ c₂ ((seqFrom vs₁ actions).run c₁)
      ((seqFrom vs₂ actions).run c₂) := by
  induction actions generalizing vs₁ vs₂ c₁ c₂ with
  | nil => exact .value hvs h.onward fun _ => by simp
  | cons entry rest ih =>
    obtain ⟨ignored, action⟩ := entry
    have hrest := fun e he => hall e (List.mem_cons_of_mem _ he)
    have hend := hall _ List.mem_cons_self c₁ c₂ h
    rcases hr₁ : action.run c₁ with ⟨o₁, d₁⟩
    rcases hr₂ : action.run c₂ with ⟨o₂, d₂⟩
    rw [hr₁, hr₂] at hend
    cases hend with
    | value same onward moved =>
      rw [seqFrom_cons_of_value hr₁, seqFrom_cons_of_value hr₂]
      refine .trans onward moved (ih hrest ?_ onward.cursors)
      cases ignored with
      | true => exact hvs
      | false => exact List.rel_append hvs (.cons same .nil)
    | failure same onward =>
      rw [seqFrom_cons_of_failure hr₁, seqFrom_cons_of_failure hr₂]
      exact .failure same onward
    | fault onward =>
      rw [seqFrom_cons_of_fault hr₁, seqFrom_cons_of_fault hr₂]
      exact .fault onward

theorem seq_lockstep {actions : List (Bool × Action α)}
    (hall : ∀ entry ∈ actions, σ.Lockstep steady R entry.2) :
    σ.Lockstep steady (List.Forall₂ R) (seq actions) :=
  fun _ _ h => seqFrom_ends actions hall .nil h

/-- Alternatives in step are tried in step, all from where the cursors stood. -/
theorem choicesFrom_ends (hσ : σ.IsSimulation) (labels : List String)
    (alternatives : List (String × Action α))
    (hall : ∀ entry ∈ alternatives, σ.Lockstep steady R entry.2) (h : σ.Cursors c₁ c₂)
    {f₁ : Cursor t₁} {f₂ : Cursor t₂} (hfar : σ.Onward c₁ c₂ f₁ f₂) {n₁ n₂ : List String}
    (hnotes : σ.SameNotes n₁ n₂) (hd : σ.Onward c₁ c₂ d₁ d₂) :
    σ.Ends steady R c₁ c₂ ((choicesFrom labels c₁.pos f₁.pos n₁ alternatives).run d₁)
      ((choicesFrom labels c₂.pos f₂.pos n₂ alternatives).run d₂) := by
  induction alternatives generalizing f₁ f₂ n₁ n₂ d₁ d₂ with
  | nil =>
    obtain ⟨back₁, back₂⟩ := hd.restored h
    have hb₁ : d₁.blanks = c₁.blanks := hd.cursors.blanks_left.trans h.blanks_left.symm
    have hb₂ : d₂.blanks = c₂.blanks := hd.cursors.blanks_right.trans h.blanks_right.symm
    simp only [choicesFrom, Cursor.locate_of_pos_le h.valid_left hb₁ hfar.le_left,
      Cursor.locate_of_pos_le h.valid_right hb₂ hfar.le_right, back₁, back₂]
    exact .failure (hσ.error h hfar (hσ.issue_refl _) hnotes) h.onward
  | cons entry rest ih =>
    obtain ⟨label, action⟩ := entry
    obtain ⟨back₁, back₂⟩ := hd.restored h
    have hrest := fun e he => hall e (List.mem_cons_of_mem _ he)
    have hend := hall _ List.mem_cons_self c₁ c₂ h
    rcases hr₁ : action.run c₁ with ⟨o₁, e₁⟩
    rcases hr₂ : action.run c₂ with ⟨o₂, e₂⟩
    rw [hr₁, hr₂] at hend
    -- the alternative before has left the cursors elsewhere, and each run puts its own back
    rw [← back₁] at hr₁
    rw [← back₂] at hr₂
    cases hend with
    | value same onward moved =>
      rw [choicesFrom_cons_of_value hr₁, choicesFrom_cons_of_value hr₂]
      exact .value same onward moved
    | failure same onward =>
      rw [choicesFrom_cons_of_failure hr₁, choicesFrom_cons_of_failure hr₂]
      exact ih hrest (hfar.max hσ onward) (hσ.notes_append label hnotes same) onward
    | fault onward =>
      rw [choicesFrom_cons_of_fault hr₁, choicesFrom_cons_of_fault hr₂]
      exact .fault onward

/-- A choice among alternatives in step is in step. -/
theorem choices_lockstep (hσ : σ.IsSimulation) {alternatives : List (String × Action α)}
    (hall : ∀ entry ∈ alternatives, σ.Lockstep steady R entry.2) :
    σ.Lockstep steady R (choices alternatives) := by
  intro c₁ c₂ h
  rw [choices_of_valid h.valid_left, choices_of_valid h.valid_right]
  exact choicesFrom_ends hσ _ alternatives hall h h.onward hσ.notes_nil h.onward

/-- Steady attempts are repeated in step, each limit being large enough for its own text. -/
theorem manyFrom_ends {x : Action α} (hx : σ.Lockstep true R x) {limit₁ limit₂ : Nat}
    {vs₁ vs₂ : List α} (hvs : List.Forall₂ R vs₁ vs₂) (h : σ.Cursors c₁ c₂)
    (hl₁ : t₁.length - c₁.pos < limit₁) (hl₂ : t₂.length - c₂.pos < limit₂) :
    σ.Ends true (List.Forall₂ R) c₁ c₂ ((manyFrom x limit₁ vs₁).run c₁)
      ((manyFrom x limit₂ vs₂).run c₂) := by
  have hend₁ := h.valid_left.2
  have hend₂ := h.valid_right.2
  induction limit₁ generalizing limit₂ vs₁ vs₂ c₁ c₂ with
  | zero => omega
  | succ limit₁ ih =>
    obtain ⟨limit₂, rfl⟩ : ∃ n, limit₂ = n + 1 := ⟨limit₂ - 1, by omega⟩
    have hend := hx c₁ c₂ h
    rcases hr₁ : x.run c₁ with ⟨o₁, d₁⟩
    rcases hr₂ : x.run c₂ with ⟨o₂, d₂⟩
    rw [hr₁, hr₂] at hend
    cases hend with
    | value same onward moved =>
      have hvs' := List.rel_append hvs (.cons same .nil)
      have hle₁ := onward.le_left
      have hle₂ := onward.le_right
      -- the attempts are steady: both runs stop here, or both go on
      have hmoved := moved rfl
      by_cases hm : d₁.pos = c₁.pos
      · rw [manyFrom_of_still h.valid_left hr₁ hm,
          manyFrom_of_still h.valid_right hr₂ (hmoved.1 hm)]
        exact .value hvs' onward moved
      · have hm₂ : d₂.pos ≠ c₂.pos := fun h => hm (hmoved.2 h)
        rw [manyFrom_of_value h.valid_left hr₁ hm, manyFrom_of_value h.valid_right hr₂ hm₂]
        refine .trans onward moved (ih hvs' onward.cursors ?_ ?_ ?_ ?_)
        · omega
        · omega
        · exact onward.cursors.valid_left.2
        · exact onward.cursors.valid_right.2
    | failure same onward =>
      rw [manyFrom_of_failure h.valid_left hr₁, manyFrom_of_failure h.valid_right hr₂]
      obtain ⟨back₁, back₂⟩ := onward.restored h
      rw [back₁, back₂]
      exact .value hvs h.onward fun _ => by simp
    | fault onward =>
      rw [manyFrom_of_fault h.valid_left hr₁, manyFrom_of_fault h.valid_right hr₂]
      exact .fault onward

/-- A repetition of steady attempts is in step, and steady itself. -/
theorem many_lockstep (hσ : σ.IsSimulation) {x : Action α} (hx : σ.Lockstep true R x)
    (patience : Nat) (min : Int) (max : Option Int) :
    σ.Lockstep true (List.Forall₂ R) (many patience min max x) := by
  intro c₁ c₂ h
  have hend : σ.Ends true (List.Forall₂ R) c₁ c₂ ((repeated patience x).run c₁)
      ((repeated patience x).run c₂) :=
    manyFrom_ends hx .nil h (lt_repetitionLimit patience h.valid_left)
      (lt_repetitionLimit patience h.valid_right)
  rcases hr₁ : (repeated patience x).run c₁ with ⟨o₁, d₁⟩
  rcases hr₂ : (repeated patience x).run c₂ with ⟨o₂, d₂⟩
  rw [hr₁, hr₂] at hend
  cases hend with
  | @value vs₁ vs₂ _ _ same onward moved =>
    -- the bounds see the number of values only
    have hlen : vs₁.length = vs₂.length := same.length_eq
    cases hb : withinBounds min max vs₁.length with
    | true =>
      rw [many_of_within h.valid_left hr₁ hb, many_of_within h.valid_right hr₂ (hlen ▸ hb)]
      exact .value same onward moved
    | false =>
      rcases Nat.lt_or_ge digitLimit (Issue.boundDigits min max) with hlong | hshort
      · rw [many_of_outside_of_lt h.valid_left hr₁ hb hlong,
          many_of_outside_of_lt h.valid_right hr₂ (hlen ▸ hb) hlong]
        exact .fault onward
      · have hb₁ : d₁.blanks = c₁.blanks := onward.cursors.blanks_left.trans h.blanks_left.symm
        have hb₂ : d₂.blanks = c₂.blanks :=
          onward.cursors.blanks_right.trans h.blanks_right.symm
        rw [many_of_outside_of_le h.valid_left hr₁ hb hshort,
          many_of_outside_of_le h.valid_right hr₂ (hlen ▸ hb) hshort,
          bind_of_value (locateFrom_of_pos_le h.valid_left hb₁ onward.le_left),
          bind_of_value (locateFrom_of_pos_le h.valid_right hb₂ onward.le_right), hlen]
        exact .failure (hσ.error h onward (hσ.issue_refl _) hσ.notes_nil) onward
  | failure same onward =>
    exact absurd (congrArg Prod.fst hr₁) (manyFrom_ne_failure x _ [] c₁ _)
  | fault onward =>
    rw [many_of_fault h.valid_left hr₁, many_of_fault h.valid_right hr₂]
    exact .fault onward

/-- A default for a failure keeps runs in step. -/
theorem optional_lockstep {x : Action α} (hx : σ.Lockstep steady R x) {default : α}
    (hdefault : R default default) :
    σ.Lockstep steady R (catching (fun _ => .value default) x) := by
  intro c₁ c₂ h
  have hend := hx c₁ c₂ h
  rcases hr₁ : x.run c₁ with ⟨o₁, d₁⟩
  rcases hr₂ : x.run c₂ with ⟨o₂, d₂⟩
  rw [hr₁, hr₂] at hend
  cases hend with
  | value same onward moved =>
    rw [catching_of_value h.valid_left hr₁, catching_of_value h.valid_right hr₂]
    exact .value same onward moved
  | failure same onward =>
    rw [catching_of_failure h.valid_left hr₁, catching_of_failure h.valid_right hr₂]
    obtain ⟨back₁, back₂⟩ := onward.restored h
    rw [back₁, back₂]
    exact .value hdefault h.onward fun _ => by simp
  | fault onward =>
    rw [catching_of_fault h.valid_left hr₁, catching_of_fault h.valid_right hr₂]
    exact .fault onward

end Correspondence

/-! ## Rules in step -/

namespace Rule

open Descent.Action Correspondence

/-- A rule without functions of its own, except that it may have a default for a failure, which has
to correspond to itself. -/
def Transparent (σ : Correspondence t₁ t₂) (_env : List Rule) : Rule → Prop
  | .action _ => False
  | .map .. => False
  | .catching handler _ => ∃ v, handler = (fun _ => .value v) ∧ σ.SameValue v v
  | _ => True

/-- Where a rule matches the end of the text, it does so steadily. -/
def Steady (σ : Correspondence t₁ t₂) (_env : List Rule) : Rule → Prop
  | .eof => σ.Lockstep true (fun l₁ l₂ => σ.SameValue (.location l₁) (.location l₂)) Action.eof
  | _ => True

/-- Inside repetitions and recursive definitions, rules are steady. -/
def SteadyInside (σ : Correspondence t₁ t₂) (env : List Rule) : Rule → Prop
  | .many _ _ r => Everywhere (Steady σ) env r
  | .fix level d => Everywhere (Steady σ) (env.take level ++ [d]) d
  | _ => True

/-- A rule without functions of its own has none that does not return normally. -/
theorem normal_of_transparent {σ : Correspondence t₁ t₂} {env : List Rule} {r : Rule}
    (h : Transparent σ env r) : Normal env r := by
  cases r with
  | action x => exact h.elim
  | map f r => exact h.elim
  | catching handler r =>
    obtain ⟨v, rfl, -⟩ := h
    exact fun _ _ _ _ _ _ _ _ => ⟨v, rfl⟩
  | _ => trivial

/-- The two runs of a rule without functions of its own are in step, whatever depth there is for
them; and steadily so if the rule is steady everywhere. -/
theorem run_lockstep {σ : Correspondence t₁ t₂} (hσ : σ.IsSimulation) {env : List Rule} {r : Rule}
    (h : Throughout (fun env r => WellFormed env r ∧ Transparent σ env r ∧ SteadyInside σ env r)
      env r)
    (hdefs : Definitions (Steady σ) env) (patience limit : Nat) {steady : Bool}
    (hsteady : steady = true → Everywhere (Steady σ) env r) :
    σ.Lockstep steady σ.SameValue (run patience limit env r) := by
  induction limit generalizing env r steady with
  | zero => exact fun c₁ c₂ hc => .fault hc.onward
  | succ limit ih =>
    rw [run_succ]
    cases r with
    | tag literal => exact (tag_lockstep hσ h.here.1).mapValue fun _ _ hl => hl
    | regex pattern accepts =>
      exact (regex_lockstep hσ pattern accepts).mapValue fun _ _ hl => hl
    | eof =>
      refine Lockstep.mapValue ?_ fun _ _ hl => hl
      -- blank characters before the end may be in one of the texts only
      cases steady with
      | false => exact eof_lockstep hσ
      | true => exact (hsteady rfl).here
    | action x => exact h.here.2.1.elim
    | map f r => exact h.here.2.1.elim
    | both r s =>
      have hr := ih h.both.1 hdefs fun hs => (everywhere_both.1 (hsteady hs)).2.1
      have hs := ih h.both.2 hdefs fun hs => (everywhere_both.1 (hsteady hs)).2.2
      exact (hr.both hs).mapValue fun v w hvw => hσ.pair hvw.1 hvw.2
    | keepLeft r s =>
      have hr := ih h.keepLeft.1 hdefs fun hs => (everywhere_keepLeft.1 (hsteady hs)).2.1
      have hs := ih h.keepLeft.2 hdefs fun hs => (everywhere_keepLeft.1 (hsteady hs)).2.2
      exact hr.keepLeft hs
    | keepRight r s =>
      have hr := ih h.keepRight.1 hdefs fun hs => (everywhere_keepRight.1 (hsteady hs)).2.1
      have hs := ih h.keepRight.2 hdefs fun hs => (everywhere_keepRight.1 (hsteady hs)).2.2
      exact hr.keepRight hs
    | choices name rs =>
      refine choices_lockstep hσ fun entry hentry => ?_
      obtain ⟨s, hs, rfl⟩ := List.mem_map.1 hentry
      exact ih (h.choices s hs) hdefs fun hst => (everywhere_choices.1 (hsteady hst)).2 s hs
    | many min max r =>
      -- attempts are steady even where the rule around the repetition is not
      have hr : σ.Lockstep true σ.SameValue (run patience limit env r) :=
        ih h.many hdefs fun _ => h.here.2.2
      refine Lockstep.mapValue ?_ fun _ _ hvs => hσ.list hvs
      exact fun c₁ c₂ hc => (many_lockstep hσ hr patience min max c₁ c₂ hc).of_steady
    | seq rs =>
      refine (seq_lockstep fun entry hentry => ?_).mapValue fun _ _ hvs => hσ.list hvs
      obtain ⟨s, hs, rfl⟩ := List.mem_map.1 hentry
      exact ih (h.seq s hs) hdefs fun hst => (everywhere_seq.1 (hsteady hst)).2 s hs
    | catching handler r =>
      obtain ⟨v, rfl, hv⟩ := h.here.2.1
      have hr := ih h.catching hdefs fun hs => (everywhere_catching.1 (hsteady hs)).2
      exact optional_lockstep hr hv
    | named name r => exact ih h.named hdefs fun hs => (everywhere_named.1 (hsteady hs)).2
    | ignored r => exact ih h.ignored hdefs fun hs => (everywhere_ignored.1 (hsteady hs)).2
    | fix level d => exact ih h.fix (hdefs.append h.here.2.2) fun _ => h.here.2.2
    | ref level name =>
      obtain ⟨d, hd, hdef⟩ := h.definition h.here.1
      rw [layer, hd]
      exact ih hdef (hdefs.take _) fun _ => hdefs level d hd

end Rule

end Descent
