import Descent.Proofs.Locations
import Descent.Proofs.Simulation

/-!
# What stands before the cursor makes no difference

A rule without functions of its own reads a text behind any other text as it reads it by itself. All
positions in its outcome and of the cursor are further on by the length of the text in front, and
nothing else changes: not the lexemes, the issues or the notes of an error, and not the fault if
there is one.

The two runs are in step (`Rule.run_lockstep`), positions corresponding by their distance.
-/

namespace Descent

variable {text : List Char}

/-! ## Behind a text -/

/-- The offsets that are `n` further on. -/
def Span.shift (n : Nat) (s : Span) : Span :=
  ⟨s.start + n, s.stop + n, Nat.add_le_add_right s.ordered n⟩

/-- The cursor at the same place of its text, with another text in front. -/
def Cursor.behind (front : List Char) (c : Cursor text) : Cursor (front ++ text) :=
  ⟨c.pos + front.length, c.blanks⟩

/-- The same stretch of a text, with another text in front. -/
def Location.behind (front : List Char) (l : Location) : Location :=
  ⟨front ++ l.text, l.span.shift front.length, l.lexeme, l.snapshot.behind front⟩

/-- The same error about a text, with another text in front. -/
def ParseError.behind (front : List Char) (e : ParseError) : ParseError :=
  { e with location := e.location.behind front, problem := e.problem.shift front.length }

/-- Two values are the same but for another text in front, which every location in the first is
behind. Some values, such as the defaults of rules, do not come from a text and stay as they are. -/
inductive Value.Behind (front : List Char) (still : Value → Prop) : Value → Value → Prop
  | still {v : Value} (h : still v) : Behind front still v v
  | location (l : Location) : Behind front still (.location (l.behind front)) (.location l)
  | pair {v w v' w' : Value} (left : Behind front still v w) (right : Behind front still v' w') :
      Behind front still (.pair v v') (.pair w w')
  | list {vs ws : List Value} (items : List.Forall₂ (Behind front still) vs ws) :
      Behind front still (.list vs) (.list ws)

/-- Two outcomes are the same but for another text in front in the first. -/
inductive Outcome.Behind (front : List Char) (still : Value → Prop) :
    Outcome Value → Outcome Value → Prop
  | value {v w : Value} (h : v.Behind front still w) : Behind front still (.value v) (.value w)
  | failure (e : ParseError) : Behind front still (.failure (e.behind front)) (.failure e)
  | fault (f : Fault) : Behind front still (.fault f) (.fault f)

namespace Cursor

variable {front : List Char} {c : Cursor text}

@[simp] theorem pos_behind : (c.behind front).pos = c.pos + front.length := rfl

@[simp] theorem blanks_behind : (c.behind front).blanks = c.blanks := rfl

theorem toNat_pos_behind (h : c.Valid) :
    (c.behind front).pos.toNat = c.pos.toNat + front.length := by
  have := h.1
  rw [pos_behind]
  omega

theorem Valid.behind (h : c.Valid) : (c.behind front).Valid := by
  have hpos := h.1
  have hlen := h.2
  unfold Valid
  rw [pos_behind, List.length_append]
  omega

/-- What lies ahead is the same. -/
theorem rest_behind (h : c.Valid) : (c.behind front).rest = c.rest := by
  rw [rest, toNat_pos_behind h, Nat.add_comm, List.drop_length_add_append, rest]

theorem onto_behind (h : c.Valid) (k : Nat) :
    (c.behind front).onto k = (c.onto k).behind front := by
  refine eq_of_pos_eq ?_ rfl
  rw [pos_onto, pos_behind, pos_behind, pos_onto, gap, rest_behind h, blanks_behind, gap]
  omega

theorem stretch_behind (h : c.Valid) (n : Nat) :
    (c.behind front).stretch n = (c.stretch n).behind front := by
  unfold stretch Location.behind Span.shift
  simp only [toNat_pos_behind h, rest_behind h, blanks_behind, Nat.add_right_comm _ n]

end Cursor

/-! ## A text by itself and behind another one -/

/-- What corresponds between a text behind another one and the text by itself. -/
def translation (front text : List Char) (blanks : Blanks) (still : Value → Prop) :
    Correspondence (front ++ text) text where
  blanks₁ := blanks
  blanks₂ := blanks
  Position := fun p q => p = q + front.length
  SameValue := Value.Behind front still
  SameIssue := fun i j => i = j
  SameError := fun e f => e = f.behind front
  SameNotes := fun n m => n = m

namespace Translation

open Correspondence

variable {front : List Char} {blanks : Blanks} {still : Value → Prop}
  {c₁ d₁ : Cursor (front ++ text)} {c₂ d₂ : Cursor text}

/-- A cursor corresponds to none but the one at the same place behind the other text. -/
theorem eq_behind (h : (translation front text blanks still).Cursors c₁ c₂) :
    c₁ = c₂.behind front :=
  Cursor.eq_of_pos_eq h.position (h.blanks_left.trans h.blanks_right.symm)

theorem cursors_behind {c : Cursor text} (hc : c.Valid) :
    (translation front text c.blanks still).Cursors (c.behind front) c :=
  ⟨rfl, rfl, hc.behind, hc, rfl⟩

/-- The stretch up to where a run has led is the same in both texts. -/
theorem stretch_eq (h : (translation front text blanks still).Cursors c₁ c₂)
    (hd : (translation front text blanks still).Onward c₁ c₂ d₁ d₂) :
    c₁.stretch (d₁.pos - c₁.pos).toNat =
      (c₂.stretch (d₂.pos - c₂.pos).toNat).behind front := by
  rw [eq_behind h, eq_behind hd.cursors, Cursor.stretch_behind h.valid_right, Cursor.pos_behind,
    Cursor.pos_behind]
  congr 3
  omega

/-- A text in front is a simulation. -/
theorem isSimulation : (translation front text blanks still).IsSimulation where
  position_max := by
    intro p₁ p₂ q₁ q₂ hp hq
    show max p₁ q₁ = max p₂ q₂ + front.length
    have hp : p₁ = p₂ + front.length := hp
    have hq : q₁ = q₂ + front.length := hq
    omega
  visible_eq := by
    intro c₁ c₂ h
    rw [eq_behind h, Cursor.visible, Cursor.rest_behind h.valid_right]
    rfl
  position_onto := by
    intro c₁ c₂ h k
    rw [eq_behind h, Cursor.onto_behind h.valid_right]
    rfl
  location := by
    intro c₁ c₂ d₁ d₂ h hd
    rw [stretch_eq h hd]
    exact .location _
  pair := .pair
  list := .list
  issue_refl := fun _ => rfl
  issue_literal := by
    intro literal l₁ l₂ h
    cases h with
    | still => rfl
    | location => rfl
  error := by
    rintro c₁ c₂ d₁ d₂ i _ n _ h hd rfl rfl
    rw [stretch_eq h hd]
    rfl
  notes_nil := rfl
  notes_append := by
    rintro n _ _ e label rfl rfl
    rfl

/-- Corresponding runs are steady: both cursors are moved by the same distance. -/
theorem ends_steady {α : Type} {R : α → α → Prop} {x₁ : Outcome α × Cursor (front ++ text)}
    {x₂ : Outcome α × Cursor text} (h : (translation front text blanks still).Cursors c₁ c₂)
    (hend : (translation front text blanks still).Ends false R c₁ c₂ x₁ x₂) :
    (translation front text blanks still).Ends true R c₁ c₂ x₁ x₂ := by
  cases hend with
  | @value a₁ a₂ d₁ d₂ same onward _ =>
    have hc : c₁.pos = c₂.pos + front.length := h.position
    have hd : d₁.pos = d₂.pos + front.length := onward.cursors.position
    exact .value same onward fun _ => by omega
  | failure same onward => exact .failure same onward
  | fault onward => exact .fault onward

end Translation

/-! ## Rules behind a text -/

namespace Rule

open Correspondence Translation

/-- A rule without functions of its own, except that it may have one of the given values as its
default for a failure. -/
def DefaultsTo (defaults : Value → Prop) (_env : List Rule) : Rule → Prop
  | .action _ => False
  | .map .. => False
  | .catching handler _ => ∃ v, handler = (fun _ => .value v) ∧ defaults v
  | _ => True

variable {front : List Char} {blanks : Blanks} {defaults : Value → Prop} {env : List Rule}
  {r : Rule}

/-- Defaults stay as they are. -/
theorem transparent_of_defaultsTo (h : DefaultsTo defaults env r) :
    Transparent (translation front text blanks defaults) env r := by
  cases r with
  | action x => exact h.elim
  | map f r => exact h.elim
  | catching handler r =>
    obtain ⟨v, rfl, hv⟩ := h
    exact ⟨v, rfl, .still hv⟩
  | _ => trivial

theorem steady_translation (env : List Rule) (r : Rule) :
    Steady (translation front text blanks defaults) env r := by
  cases r with
  | eof => exact fun c₁ c₂ h => ends_steady h (eof_lockstep isSimulation c₁ c₂ h)
  | _ => trivial

theorem steadyInside_translation {P : List Rule → Rule → Prop} (h : Everywhere P env r) :
    SteadyInside (translation front text blanks defaults) env r := by
  cases r with
  | many min max r => exact (everywhere_many.1 h).2.mono fun env s _ => steady_translation env s
  | fix level d => exact (everywhere_fix.1 h).2.mono fun env s _ => steady_translation env s
  | _ => trivial

/-- Let a rule have been built without functions of its own, except for some defaults. From a valid
cursor with any text in front of its own, the rule has the outcome that it has without that text,
but for the defaults with all locations behind the text in front, and the cursor ends at the same
place behind it. The outcome is a value or a parse error, unless the depth runs out, or a repetition
has a bound that is too long for a message. -/
theorem run_behind (built : Everywhere WellFormed [] r)
    (plain : Everywhere (DefaultsTo defaults) [] r) (front : List Char) (patience limit : Nat)
    {c d : Cursor text} (hc : c.Valid) {o : Outcome Value}
    (h : (run patience limit [] r).run c = (o, d)) :
    (∃ o', (run patience limit [] r).run (c.behind front) = (o', d.behind front) ∧
      o'.Behind front defaults o) ∧
    ∀ f, o = .fault f →
      f = .tooDeep ∨ f = .longInteger digitLimit ∧ ¬ Everywhere ShortBounds [] r := by
  have hrule : Everywhere (fun env r => WellFormed env r ∧
      Transparent (translation front text c.blanks defaults) env r ∧
      SteadyInside (translation front text c.blanks defaults) env r) [] r :=
    (built.and plain).everywhere.mono fun env s hs => ⟨hs.here.1,
      transparent_of_defaultsTo hs.here.2, steadyInside_translation hs⟩
  refine ⟨?_, ?_⟩
  · have hstep := run_lockstep isSimulation (.of_everywhere hrule) .nil patience limit
      (fun hfalse => absurd hfalse Bool.false_ne_true) _ _ (cursors_behind hc)
    rcases hr : (run patience limit [] r).run (c.behind front) with ⟨o', d'⟩
    rw [h, hr] at hstep
    cases hstep with
    | value same onward _ =>
      exact ⟨_, by rw [eq_behind onward.cursors], .value same⟩
    | failure same onward =>
      rw [show _ = ParseError.behind front _ from same]
      exact ⟨_, by rw [eq_behind onward.cursors], .failure _⟩
    | fault onward => exact ⟨_, by rw [eq_behind onward.cursors], .fault _⟩
  · rintro f rfl
    exact limitFault_of_run built (hrule.mono fun _ _ hs => normal_of_transparent hs.2.1) hc h

/-- Numerals and lists of such between brackets, the closing one of which may be missing. -/
def brackets : Rule :=
  .fix 0 (.seq [.ignored (.tag "["),
    .many 0 none (.choices none [.regex "[0-9]+" fun token => token.all Char.isDigit,
      .ref 0 none]),
    .optional (.text "open") (.tag "]")])

/-- A list that is left open, with a closed one inside it, is read behind another text as it is
read by itself: all three locations in its value are further on by four, and the default for the
missing bracket is the same. -/
theorem brackets_behind :
    Everywhere WellFormed [] brackets ∧ Everywhere (DefaultsTo (· = .text "open")) [] brackets ∧
      ∃ (v w : Value) (d : Cursor "[1 [2 3]".toList),
        (run 0 20 [] brackets).run ⟨0, .ofList [" "]⟩ = (.value w, d) ∧
        (run 0 20 [] brackets).run (Cursor.behind "x [y".toList ⟨0, .ofList [" "]⟩) =
          (.value v, d.behind "x [y".toList) ∧
        w.locations.map (·.span.start) = [1, 4, 7] ∧
        v.locations.map (·.span.start) = [5, 8, 11] ∧
        v.Behind "x [y".toList (· = .text "open") w := by
  have built : Everywhere WellFormed [] brackets := by simp [brackets, optional, WellFormed]
  have plain : Everywhere (DefaultsTo (· = .text "open")) [] brackets := by
    simp [brackets, optional, DefaultsTo]
  have valid : (⟨0, .ofList [" "]⟩ : Cursor "[1 [2 3]".toList).Valid := by decide
  have alone : ∃ (w : Value) (d : Cursor "[1 [2 3]".toList),
      (run 0 20 [] brackets).run ⟨0, .ofList [" "]⟩ = (.value w, d) ∧
        w.locations.map (·.span.start) = [1, 4, 7] := ⟨_, _, rfl, rfl⟩
  have further : ∃ (v : Value) (d : Cursor ("x [y".toList ++ "[1 [2 3]".toList)),
      (run 0 20 [] brackets).run (Cursor.behind "x [y".toList ⟨0, .ofList [" "]⟩) = (.value v, d) ∧
        v.locations.map (·.span.start) = [5, 8, 11] := ⟨_, _, rfl, rfl⟩
  obtain ⟨w, d, hw, starts⟩ := alone
  obtain ⟨v, d', hv, starts'⟩ := further
  obtain ⟨o, ho, same⟩ := (run_behind built plain "x [y".toList 0 20 valid hw).1
  cases hv.symm.trans ho
  cases same with
  | value same => exact ⟨built, plain, v, w, d, hw, hv, starts, starts', same⟩

end Rule

end Descent
