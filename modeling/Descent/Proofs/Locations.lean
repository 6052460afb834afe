import Descent.Proofs.Safety

/-!
# Locations within the text

Every location that a run gives, in its value or as that of its error, lies within the text from
where the run began, if the functions of the rule make no locations of their own.
-/

namespace Descent

namespace Value

mutual

/-- The locations in a value, from left to right. -/
def locations : Value → List Location
  | .list items => locationsAll items
  | .pair left right => locations left ++ locations right
  | .location l => [l]
  | _ => []

/-- The locations in the values of a list. -/
def locationsAll : List Value → List Location
  | [] => []
  | v :: rest => locations v ++ locationsAll rest

end

theorem mem_locationsAll {l : Location} {vs : List Value} :
    l ∈ locationsAll vs ↔ ∃ v ∈ vs, l ∈ v.locations := by
  induction vs with
  | nil => simp [locationsAll]
  | cons v rest ih => simp [locationsAll, ih]

end Value

namespace Rule

/-- The functions of a rule make no locations of their own: a function keeps to those in the value
that it is given, and a handler to that of the error. -/
def MakesNoLocations (_env : List Rule) : Rule → Prop
  | .map f _ => ∀ v w, f v = .value w → w.locations ⊆ v.locations
  | .catching handler _ => ∀ e w, handler e = .value w → w.locations ⊆ [ParseError.location e]
  | _ => True

/-- The locations of a value lie within the text from a position on. -/
def LocationsWithin (text : List Char) (p : Int) (v : Value) : Prop :=
  ∀ l ∈ v.locations, l.Within text p

variable {text : List Char}

/-- Values inherit from their parts that their locations lie within the text. -/
theorem inherited_locationsWithin (text : List Char) : Inherited text (LocationsWithin text) where
  extends_back := fun p q v hpq hv l hl => (hv l hl).mono hpq
  location := by
    intro p l hl m hm
    rw [Value.locations, List.mem_singleton] at hm
    exact hm ▸ hl
  pair := by
    intro p v w hv hw l hl
    rw [Value.locations, List.mem_append] at hl
    exact hl.elim (hv l) (hw l)
  list := by
    intro p vs hvs l hl
    rw [Value.locations, Value.mem_locationsAll] at hl
    obtain ⟨v, hv, hl⟩ := hl
    exact hvs v hv l hl

/-- Functions that make no locations of their own keep locations within the text. -/
theorem keeps_of_makesNoLocations {env : List Rule} {r : Rule} (h : MakesNoLocations env r) :
    Keeps text (LocationsWithin text) env r := by
  cases r with
  | map f r => exact fun p v w hv hw l hl => hv l (h v w hw hl)
  | catching handler r =>
    intro p e w he hw l hl
    have hle : l = e.location := List.mem_singleton.1 (h e w hw hl)
    exact hle ▸ he.location
  | _ => trivial

/-- Such rules are run safely, and all locations in their values lie within the text. -/
theorem run_locationsWithin {r : Rule} (built : Everywhere WellFormed [] r)
    (normal : Everywhere Normal [] r) (own : Everywhere MakesNoLocations [] r) (text : List Char)
    (patience limit : Nat) :
    Action.SafeOn (LimitFault r) text (LocationsWithin text) (run patience limit [] r) := by
  have hall := built.and (normal.and (own.and (everywhere_allowed built)))
  refine run_safeOn (inherited_locationsWithin text) (.of_everywhere ?_) patience limit
  exact hall.mono fun _ _ hs => ⟨hs.1, hs.2.1, keeps_of_makesNoLocations hs.2.2.1, hs.2.2.2⟩

/-- Parentheses that are opened again and again, each with a list around what follows it, and at
last the place where none was opened. -/
def openings : Rule :=
  .fix 0 (.catching (fun e => .value (.location e.location))
    (.map (fun v => .value (.list [v])) (.keepRight (.tag "(") (.ref 0 none))))

end Rule

end Descent
