import Descent.Outcome

/-!
# Registering blank characters

A registration names values that are to be blank characters. Each has to be a text of a single
character; otherwise the first that is not is reported, and nothing is registered. What a
registration comes to is said once, by `Blanks.register_cases`.
-/

namespace Descent

/-! ## Single characters -/

namespace Value

/-- The text of a value that is a single character. -/
def singleCharacter? : Value → Option String
  | .text s => if s.length = 1 then some s else none
  | _ => none

/-- The texts of values that are single characters, or the first value that is not one. -/
def singleCharacters : List Value → Except Fault (List String)
  | [] => .ok []
  | v :: rest =>
    match v.singleCharacter? with
    | none => .error (.grammar (.invalidBlank v))
    | some s => (singleCharacters rest).map (s :: ·)

/-- A value is a text of exactly one character. -/
def IsCharacter (v : Value) : Prop := ∃ x, v = .text (String.singleton x)

theorem isCharacter_text_iff {s : String} : (text s).IsCharacter ↔ s.length = 1 := by
  constructor
  · rintro ⟨x, hx⟩
    cases hx
    exact String.length_singleton
  · intro h
    rw [← String.length_toList] at h
    obtain ⟨x, hx⟩ := List.length_eq_one_iff.1 h
    exact ⟨x, congrArg text (String.ext (by rw [hx, String.toList_singleton]))⟩

/-- The text of a single character is found, and that of nothing else. -/
theorem singleCharacter?_eq_some_iff {v : Value} {s : String} :
    v.singleCharacter? = some s ↔ v = .text s ∧ v.IsCharacter := by
  cases v with
  | text t =>
    rw [singleCharacter?, isCharacter_text_iff, text.injEq]
    by_cases h : t.length = 1
    · simp [h]
    · simp [h]
  | _ => simp [singleCharacter?]

theorem singleCharacter?_eq_none_iff {v : Value} :
    v.singleCharacter? = none ↔ ¬ v.IsCharacter := by
  constructor
  · rintro h ⟨x, rfl⟩
    have hx := singleCharacter?_eq_some_iff.2 ⟨rfl, x, rfl⟩
    rw [h] at hx
    cases hx
  · intro h
    rw [Option.eq_none_iff_forall_ne_some]
    intro s hs
    exact h (singleCharacter?_eq_some_iff.1 hs).2

/-- Values are taken as the texts of single characters if all are, and otherwise the first one that
is not is reported. -/
theorem singleCharacters_cases (values : List Value) :
    (∃ texts, singleCharacters values = .ok texts ∧ values = texts.map .text ∧
        ∀ t ∈ texts, t.length = 1) ∨
      ∃ before first behind, values = before ++ first :: behind ∧
        (∀ v ∈ before, v.IsCharacter) ∧ ¬ first.IsCharacter ∧
        singleCharacters values = .error (.grammar (.invalidBlank first)) := by
  induction values with
  | nil => exact .inl ⟨[], rfl, rfl, fun t ht => absurd ht List.not_mem_nil⟩
  | cons v rest ih =>
    cases hv : v.singleCharacter? with
    | none =>
      right
      refine ⟨[], v, rest, rfl, fun u hu => absurd hu List.not_mem_nil, ?_, ?_⟩
      · exact singleCharacter?_eq_none_iff.1 hv
      · rw [singleCharacters, hv]
    | some s =>
      obtain ⟨rfl, hs⟩ := singleCharacter?_eq_some_iff.1 hv
      rcases ih with ⟨texts, hok, rfl, hall⟩ | ⟨before, first, behind, rfl, hall, hfirst, herror⟩
      · left
        refine ⟨s :: texts, ?_, rfl, ?_⟩
        · rw [singleCharacters, hv, hok]
          rfl
        · exact List.forall_mem_cons.2 ⟨isCharacter_text_iff.1 hs, hall⟩
      · right
        refine ⟨.text s :: before, first, behind, rfl, ?_, hfirst, ?_⟩
        · exact List.forall_mem_cons.2 ⟨hs, hall⟩
        · rw [singleCharacters, hv, herror]
          rfl

end Value

/-! ## Registering -/

namespace Blanks

variable {b b' : Blanks} {values : List Value}

/-- The set with all values of a list registered, or the reason why none is. -/
def register (b : Blanks) (values : List Value) : Except Fault Blanks :=
  (Value.singleCharacters values).map b.insertAll

/-- The set with the parts of a value registered: the items of a list, or the characters of a
text. -/
def registerItems (b : Blanks) (v : Value) : Except Fault Blanks :=
  match v.items? with
  | none => .error .mistyped
  | some items => b.register items

/-- Registering the parts of a value is registering values, unless the value has no parts. -/
theorem exists_register_of_registerItems {v : Value} (h : b.registerItems v = .ok b') :
    ∃ values, b.register values = .ok b' := by
  unfold registerItems at h
  split at h
  · cases h
  · exact ⟨_, h⟩

/-- Values are registered all, if all are single characters, or none, and then the first one that is
not is reported. -/
theorem register_cases (b : Blanks) (values : List Value) :
    (∃ b', b.register values = .ok b' ∧ (∀ v ∈ values, v.IsCharacter) ∧
        ∀ e, e ∈ b'.entries ↔ .text e ∈ values ∨ e ∈ b.entries) ∨
      ∃ before first behind, values = before ++ first :: behind ∧ (∀ v ∈ before, v.IsCharacter) ∧
        ¬ first.IsCharacter ∧ b.register values = .error (.grammar (.invalidBlank first)) := by
  rcases Value.singleCharacters_cases values with
    ⟨texts, hok, rfl, hall⟩ | ⟨before, first, behind, hsplit, hall, hfirst, herror⟩
  · left
    refine ⟨b.insertAll texts, ?_, ?_, ?_⟩
    · rw [register, hok]
      rfl
    · intro v hv
      obtain ⟨t, ht, rfl⟩ := List.mem_map.1 hv
      exact Value.isCharacter_text_iff.2 (hall t ht)
    · intro e
      rw [mem_insertAll, List.mem_map]
      simp
  · right
    refine ⟨before, first, behind, hsplit, hall, hfirst, ?_⟩
    rw [register, herror]
    rfl

/-- Registering keeps all entries single characters. -/
theorem single_of_register (single : ∀ e ∈ b.entries, e.length = 1)
    (h : b.register values = .ok b') : ∀ e ∈ b'.entries, e.length = 1 := by
  rcases b.register_cases values with ⟨b₁, hok, hall, hmem⟩ | ⟨_, _, _, _, _, _, herror⟩
  · rw [h, Except.ok.injEq] at hok
    subst hok
    intro e he
    rcases (hmem e).1 he with hv | hold
    · exact Value.isCharacter_text_iff.1 (hall _ hv)
    · exact single e hold
  · rw [h] at herror
    cases herror

end Blanks

end Descent
