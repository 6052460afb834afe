import Descent.Proofs.Simulation

/-!
# Blank characters make no difference

A text with blank characters and the text that is left of it without them are parsed alike, by
every rule without functions of its own that asks for the end of the text outside repetitions and
recursive definitions only. Both runs give the same value, except that locations in it have blank
characters in one of the texts, or both fail with the same code. Where the runs end, the one
position is the number of visible characters before the other.

The two runs are in step (`Rule.run_lockstep`), positions corresponding by the number of visible
characters before them.
-/

namespace Descent

/-! ## Visible characters before an offset -/

section Rank

variable {skips : Char → Bool}

/-- How many visible characters stand before an offset of a text. -/
def rank (skips : Char → Bool) (text : List Char) (p : Nat) : Nat :=
  (visible skips (text.take p)).length

theorem rank_mono {text : List Char} {p q : Nat} (h : p ≤ q) :
    rank skips text p ≤ rank skips text q :=
  ((List.take_sublist_take_left h).filter _).length_le

/-- From an offset on, the visible characters are those that do not stand before it. -/
theorem visible_drop (text : List Char) (p : Nat) :
    visible skips (text.drop p) = (visible skips text).drop (rank skips text p) := by
  conv_rhs => rw [← List.take_append_drop p text, visible_append]
  rw [rank, List.take_append_drop, List.drop_left]

/-- The visible characters of a stretch are as many as there are more of them behind it. -/
theorem visible_take_drop (text : List Char) (p n : Nat) :
    visible skips ((text.drop p).take n) =
      (visible skips (text.drop p)).take (rank skips text (p + n) - rank skips text p) := by
  have hcount : rank skips text (p + n) - rank skips text p =
      (visible skips ((text.drop p).take n)).length := by
    rw [rank, rank, List.take_add, visible_append, List.length_append, Nat.add_sub_cancel_left]
  conv_rhs => rw [← List.take_append_drop n (text.drop p), visible_append]
  rw [hcount, List.take_left]

/-- Moving onto the visible character with number `k` passes `k` of them, if there are so many. -/
theorem rank_add_offset (text : List Char) (p k : Nat) :
    rank skips text (p + offset skips k (text.drop p)) =
      rank skips text p + min k (visible skips (text.drop p)).length := by
  rw [rank, List.take_add, visible_append, visible_take_offset, List.length_append, ← rank,
    List.length_take]

/-- All characters are visible where none is blank. -/
theorem visible_eq_self {text : List Char} (h : ∀ c ∈ text, skips c = false) :
    visible skips text = text := by
  rw [visible, List.filter_eq_self]
  intro c hc
  rw [h c hc]
  rfl

/-- Visible characters are all visible. -/
theorem visible_visible (text : List Char) :
    visible skips (visible skips text) = visible skips text :=
  visible_eq_self fun c hc => by simpa using (List.mem_filter.1 hc).2

end Rank

/-! ## Values without blank characters -/

namespace Value

mutual

/-- The value with every location replaced by the visible characters of its text. -/
def bare (skips : Char → Bool) : Value → Value
  | .list items => .list (bareAll skips items)
  | .pair left right => .pair (bare skips left) (bare skips right)
  | .location l => .text (String.ofList (Descent.visible skips l.lexeme.toList))
  | v => v

/-- The values of a list, each without blank characters. -/
def bareAll (skips : Char → Bool) : List Value → List Value
  | [] => []
  | v :: rest => bare skips v :: bareAll skips rest

end

theorem bareAll_eq_map (skips : Char → Bool) (items : List Value) :
    bareAll skips items = items.map (bare skips) := by
  induction items with
  | nil => rfl
  | cons v rest ih => rw [bareAll, List.map_cons, ih]

end Value

/-! ## A text and what is left of it -/

variable {blanks : Blanks} {text : List Char}

/-- A position of a text, and its position in the text without blank characters. -/
def Squeezed (blanks : Blanks) (text : List Char) (p q : Int) : Prop :=
  q = rank blanks.skips text p.toNat

/-- What corresponds between a text and the text without its blank characters: values whose
locations have the same visible characters, and errors with the same code that end at corresponding
positions. -/
def squeezing (blanks : Blanks) (text : List Char) :
    Correspondence text (visible blanks.skips text) where
  blanks₁ := blanks
  blanks₂ := .empty
  Position := Squeezed blanks text
  SameValue := fun v w => v.bare blanks.skips = w.bare blanks.skips
  SameIssue := fun i j => i.code = j.code
  SameError := fun e f =>
    e.code = f.code ∧ Squeezed blanks text e.location.span.stop f.location.span.stop
  SameNotes := fun _ _ => True

namespace Squeezed

variable {c₁ d₁ : Cursor text} {c₂ d₂ : Cursor (visible blanks.skips text)}

theorem pos_right (h : (squeezing blanks text).Cursors c₁ c₂) :
    c₂.pos.toNat = rank blanks.skips text c₁.pos.toNat := by
  have hpos : c₂.pos = rank blanks.skips text c₁.pos.toNat := h.position
  omega

/-- Behind corresponding positions, the shorter text has the visible characters of the longer
one. -/
theorem rest_right (h : (squeezing blanks text).Cursors c₁ c₂) :
    c₂.rest = visible blanks.skips c₁.rest := by
  rw [Cursor.rest, pos_right h, ← visible_drop, Cursor.rest]

theorem visible_right (h : (squeezing blanks text).Cursors c₁ c₂) : c₂.visible = c₂.rest := by
  rw [Cursor.visible, h.blanks_right]
  exact visible_eq_self fun _ _ => rfl

theorem position_max {p₁ p₂ q₁ q₂ : Int} (hp : Squeezed blanks text p₁ p₂)
    (hq : Squeezed blanks text q₁ q₂) : Squeezed blanks text (max p₁ q₁) (max p₂ q₂) := by
  unfold Squeezed at hp hq ⊢
  rcases Int.le_total p₁ q₁ with h | h
  · have hle : rank blanks.skips text p₁.toNat ≤ rank blanks.skips text q₁.toNat :=
      rank_mono (Int.toNat_le_toNat h)
    rw [Int.max_eq_right h]
    omega
  · have hle : rank blanks.skips text q₁.toNat ≤ rank blanks.skips text p₁.toNat :=
      rank_mono (Int.toNat_le_toNat h)
    rw [Int.max_eq_left h]
    omega

theorem visible_eq (h : (squeezing blanks text).Cursors c₁ c₂) : c₁.visible = c₂.visible := by
  rw [visible_right h, rest_right h, Cursor.visible, h.blanks_left]
  rfl

theorem position_onto (h : (squeezing blanks text).Cursors c₁ c₂) (k : Nat) :
    Squeezed blanks text (c₁.onto k).pos (c₂.onto k).pos := by
  have hpos : c₂.pos = rank blanks.skips text c₁.pos.toNat := h.position
  have hnat : (c₁.onto k).pos.toNat = c₁.pos.toNat + c₁.gap k := by
    have := h.valid_left.1
    rw [Cursor.pos_onto]
    omega
  have hgap₁ : c₁.gap k = offset blanks.skips k (text.drop c₁.pos.toNat) := by
    rw [Cursor.gap, h.blanks_left]
    rfl
  have hgap₂ : c₂.gap k = min k (visible blanks.skips (text.drop c₁.pos.toNat)).length := by
    -- nothing is blank in the shorter text, so each character there is passed one by one
    have hnone : ∀ x ∈ c₂.rest, c₂.blanks.skips x = false := by
      intro x _
      rw [h.blanks_right]
      rfl
    rw [Cursor.gap, offset_of_no_blank hnone, rest_right h]
    rfl
  unfold Squeezed
  rw [hnat, hgap₁, rank_add_offset, Cursor.pos_onto, hgap₂, hpos]
  omega

/-- Corresponding stretches of the two texts have the same visible characters. -/
theorem location (hsingle : ∀ e ∈ blanks.entries, e.length = 1)
    (h : (squeezing blanks text).Cursors c₁ c₂)
    (hd : (squeezing blanks text).Onward c₁ c₂ d₁ d₂) :
    (Value.location (c₁.stretch (d₁.pos - c₁.pos).toNat)).bare blanks.skips =
      (Value.location (c₂.stretch (d₂.pos - c₂.pos).toNat)).bare blanks.skips := by
  have hpos : c₂.pos = rank blanks.skips text c₁.pos.toNat := h.position
  have hpos' : d₂.pos = rank blanks.skips text d₁.pos.toNat := hd.cursors.position
  have hle := hd.le_left
  have hstart := h.valid_left.1
  have hend : d₁.pos.toNat = c₁.pos.toNat + (d₁.pos - c₁.pos).toNat := by omega
  have hlen : (d₂.pos - c₂.pos).toNat =
      rank blanks.skips text (c₁.pos.toNat + (d₁.pos - c₁.pos).toNat) -
        rank blanks.skips text c₁.pos.toNat := by
    rw [← hend]
    omega
  have htrims₁ : c₁.blanks.trims = blanks.skips := by
    rw [h.blanks_left]
    exact funext fun x => (Blanks.skips_eq_trims hsingle x).symm
  have htrims₂ : trimBoth c₂.blanks.trims (c₂.rest.take (d₂.pos - c₂.pos).toNat) =
      c₂.rest.take (d₂.pos - c₂.pos).toNat := by
    rw [h.blanks_right]
    exact trimBoth_eq_self fun _ _ => rfl
  have hsame : visible blanks.skips (c₁.rest.take (d₁.pos - c₁.pos).toNat) =
      c₂.rest.take (d₂.pos - c₂.pos).toNat := by
    rw [hlen, rest_right h]
    exact visible_take_drop text c₁.pos.toNat _
  simp only [Value.bare, Cursor.stretch, String.toList_ofList]
  rw [htrims₁, visible_trimBoth, htrims₂, ← hsame, visible_visible]

/-- Errors made between corresponding positions end at corresponding ones. -/
theorem stop_stretch (h : (squeezing blanks text).Cursors c₁ c₂)
    (hd : (squeezing blanks text).Onward c₁ c₂ d₁ d₂) :
    Squeezed blanks text (c₁.stretch (d₁.pos - c₁.pos).toNat).span.stop
      (c₂.stretch (d₂.pos - c₂.pos).toNat).span.stop := by
  have hle₁ := hd.le_left
  have hle₂ := hd.le_right
  have hstart₁ := h.valid_left.1
  have hstart₂ := h.valid_right.1
  have hstop₁ : ((c₁.stretch (d₁.pos - c₁.pos).toNat).span.stop : Int) = d₁.pos := by
    simp only [Cursor.stretch]
    omega
  have hstop₂ : ((c₂.stretch (d₂.pos - c₂.pos).toNat).span.stop : Int) = d₂.pos := by
    simp only [Cursor.stretch]
    omega
  rw [hstop₁, hstop₂]
  exact hd.cursors.position

end Squeezed

/-- Taking away blank characters, each a single one, is a simulation. -/
theorem squeezing_isSimulation (hsingle : ∀ e ∈ blanks.entries, e.length = 1) (text : List Char) :
    (squeezing blanks text).IsSimulation where
  position_max := Squeezed.position_max
  visible_eq := Squeezed.visible_eq
  position_onto := Squeezed.position_onto
  location := Squeezed.location hsingle
  pair := by
    intro v₁ v₂ w₁ w₂ hv hw
    show Value.pair _ _ = Value.pair _ _
    rw [show v₁.bare blanks.skips = v₂.bare blanks.skips from hv,
      show w₁.bare blanks.skips = w₂.bare blanks.skips from hw]
  list := by
    intro vs₁ vs₂ hvs
    show Value.list (Value.bareAll _ _) = Value.list (Value.bareAll _ _)
    rw [Value.bareAll_eq_map, Value.bareAll_eq_map]
    induction hvs with
    | nil => rfl
    | cons hv _ ih =>
      rw [List.map_cons, List.map_cons, Value.list.inj ih]
      exact congrArg (fun v => Value.list (v :: _)) hv
  issue_refl := fun _ => rfl
  issue_literal := fun _ _ _ _ => rfl
  error := fun h hd hissue _ => ⟨hissue, Squeezed.stop_stretch h hd⟩
  notes_nil := trivial
  notes_append := fun _ _ _ => trivial

/-! ## Rules on both texts -/

/-- Outcomes on a text and on what is left of it without blank characters: values with the same
visible characters in their locations, errors with the same code that end at corresponding
positions, or twice the same fault. -/
def Outcome.Alike (skips : Char → Bool) (text : List Char) : Outcome Value → Outcome Value → Prop
  | .value v, .value w => v.bare skips = w.bare skips
  | .failure e, .failure f =>
    e.code = f.code ∧ f.location.span.stop = rank skips text e.location.span.stop
  | .fault e, .fault f => e = f
  | _, _ => False

namespace Rule

/-- A rule without functions of its own, except that it may have a default for a failure. -/
def Plain (_env : List Rule) : Rule → Prop
  | .action _ => False
  | .map .. => False
  | .catching handler _ => ∃ default, handler = fun _ => .value default
  | _ => True

/-- A rule that does not match the end of the text. -/
def Endless (_env : List Rule) : Rule → Prop
  | .eof => False
  | _ => True

/-- Inside repetitions and recursive definitions no rule matches the end of the text. -/
def EndsOutside (env : List Rule) : Rule → Prop
  | .many _ _ r => Everywhere Endless env r
  | .fix level d => Everywhere Endless (env.take level ++ [d]) d
  | _ => True

/-- Defaults correspond to themselves. -/
theorem transparent_of_plain {env : List Rule} {r : Rule} (h : Plain env r) :
    Transparent (squeezing blanks text) env r := by
  cases r with
  | action x => exact h.elim
  | map f r => exact h.elim
  | catching handler r =>
    obtain ⟨default, rfl⟩ := h
    exact ⟨default, rfl, rfl⟩
  | _ => trivial

/-- Where the end of the text is not matched, runs are steady. -/
theorem everywhere_steady {env : List Rule} {r : Rule} (h : Everywhere Endless env r) :
    Everywhere (Steady (squeezing blanks text)) env r := by
  refine h.mono fun env s hs => ?_
  cases s with
  | eof => exact hs.elim
  | _ => trivial

theorem steadyInside_of_endsOutside {env : List Rule} {r : Rule} (h : EndsOutside env r) :
    SteadyInside (squeezing blanks text) env r := by
  cases r with
  | many min max r => exact everywhere_steady h
  | fix level d => exact everywhere_steady h
  | _ => trivial

/-- Numerals and lists of such, between double angles, up to the end of the text. -/
def angles : Rule :=
  .keepLeft
    (.fix 0 (.choices none [.regex "[0-9]+" fun token => token.all Char.isDigit,
      .keepRight (.tag "<<") (.keepLeft (.many 0 none (.ref 0 none)) (.tag ">>"))]))
    .eof

end Rule

end Descent
