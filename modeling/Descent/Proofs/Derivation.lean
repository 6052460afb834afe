import Descent.Proofs.Limits
import Descent.Proofs.Safety

/-!
# What a rule matches

Which stretch of a text a rule matches can be said without a cursor: a rule matches from a position
up to another one, or it fails there. Here is this relation, by the rules' own structure; a rule is
derived to end in one way, by induction on one of two derivations and inversion of the other. Next
to it is where a run has ended, by its outcome and cursor. For primitive rules the two are the same,
and two rules in order end where the sequence of them does, whatever is made of their values.
-/

namespace Descent

namespace Rule

/-! ## Derivations -/

/-- A token of `n` characters, accepted at every stage, which would not be accepted with one
character more. -/
structure IsToken (accepts : List Char → Bool) (ahead : List Char) (n : Nat) : Prop where
  le_length : n ≤ ahead.length
  accepted : ∀ i, 0 < i → i ≤ n → accepts (ahead.take i) = true
  longest : n < ahead.length → accepts (ahead.take (n + 1)) = false

mutual

/-- Among the definitions `env`, a rule matches a text from a position up to another one, or it
fails there. -/
inductive Derives (text : List Char) (skips : Char → Bool) :
    List Rule → Rule → Nat → Option Nat → Prop
  | tag {env : List Rule} {literal : String} {p : Nat}
      (agrees : literal.toList <+: visible skips (text.drop p)) :
      Derives text skips env (.tag literal) p
        (some (p + offset skips literal.toList.length (text.drop p)))
  | tag_fails {env : List Rule} {literal : String} {p : Nat}
      (differs : ¬ literal.toList <+: visible skips (text.drop p)) :
      Derives text skips env (.tag literal) p none
  | regex {env : List Rule} {pattern : String} {accepts : List Char → Bool} {p n : Nat}
      (token : IsToken accepts (visible skips (text.drop p)) (n + 1)) :
      Derives text skips env (.regex pattern accepts) p
        (some (p + offset skips (n + 1) (text.drop p)))
  | regex_fails {env : List Rule} {pattern : String} {accepts : List Char → Bool} {p : Nat}
      (empty : IsToken accepts (visible skips (text.drop p)) 0) :
      Derives text skips env (.regex pattern accepts) p none
  | eof {env : List Rule} {p : Nat} (ended : visible skips (text.drop p) = []) :
      Derives text skips env .eof p (some (p + offset skips 0 (text.drop p)))
  | eof_fails {env : List Rule} {p : Nat} (more : visible skips (text.drop p) ≠ []) :
      Derives text skips env .eof p none
  | map {env : List Rule} {f : Value → Outcome Value} {r : Rule} {p : Nat} {x : Option Nat}
      (inner : Derives text skips env r p x) : Derives text skips env (.map f r) p x
  | both {env : List Rule} {r s : Rule} {p : Nat} {x : Option Nat}
      (parts : InOrder text skips env [r, s] p x) : Derives text skips env (.both r s) p x
  | keepLeft {env : List Rule} {r s : Rule} {p : Nat} {x : Option Nat}
      (parts : InOrder text skips env [r, s] p x) : Derives text skips env (.keepLeft r s) p x
  | keepRight {env : List Rule} {r s : Rule} {p : Nat} {x : Option Nat}
      (parts : InOrder text skips env [r, s] p x) : Derives text skips env (.keepRight r s) p x
  | seq {env rs : List Rule} {p : Nat} {x : Option Nat}
      (parts : InOrder text skips env rs p x) : Derives text skips env (.seq rs) p x
  | choices {env rs : List Rule} {name : Option String} {p : Nat} {x : Option Nat}
      (first : FirstOf text skips env rs p x) : Derives text skips env (.choices name rs) p x
  | many {env : List Rule} {min : Int} {max : Option Int} {r : Rule} {p n q : Nat}
      (attempts : Repeats text skips env r p n q)
      (within : Action.withinBounds min max n = true) :
      Derives text skips env (.many min max r) p (some q)
  | many_fails {env : List Rule} {min : Int} {max : Option Int} {r : Rule} {p n q : Nat}
      (attempts : Repeats text skips env r p n q)
      (outside : Action.withinBounds min max n = false) :
      Derives text skips env (.many min max r) p none
  | catching {env : List Rule} {handler : ParseError → Outcome Value} {r : Rule} {p q : Nat}
      (inner : Derives text skips env r p (some q)) :
      Derives text skips env (.catching handler r) p (some q)
  | catching_default {env : List Rule} {handler : ParseError → Outcome Value} {r : Rule} {p : Nat}
      (inner : Derives text skips env r p none) :
      Derives text skips env (.catching handler r) p (some p)
  | named {env : List Rule} {name : String} {r : Rule} {p : Nat} {x : Option Nat}
      (inner : Derives text skips env r p x) : Derives text skips env (.named name r) p x
  | ignored {env : List Rule} {r : Rule} {p : Nat} {x : Option Nat}
      (inner : Derives text skips env r p x) : Derives text skips env (.ignored r) p x
  | fix {env : List Rule} {level : Nat} {d : Rule} {p : Nat} {x : Option Nat}
      (definition : Derives text skips (env.take level ++ [d]) d p x) :
      Derives text skips env (.fix level d) p x
  | ref {env : List Rule} {level : Nat} {name : Option String} {d : Rule} {p : Nat}
      {x : Option Nat} (found : env[level]? = some d)
      (definition : Derives text skips (env.take (level + 1)) d p x) :
      Derives text skips env (.ref level name) p x

/-- Rules match one after the other, each from where the one before it ends; the first failure is
one of them all. -/
inductive InOrder (text : List Char) (skips : Char → Bool) :
    List Rule → List Rule → Nat → Option Nat → Prop
  | nil {env : List Rule} {p : Nat} : InOrder text skips env [] p (some p)
  | stop {env rs : List Rule} {r : Rule} {p : Nat} (first : Derives text skips env r p none) :
      InOrder text skips env (r :: rs) p none
  | next {env rs : List Rule} {r : Rule} {p q : Nat} {x : Option Nat}
      (first : Derives text skips env r p (some q)) (rest : InOrder text skips env rs q x) :
      InOrder text skips env (r :: rs) p x

/-- The first alternative that matches, those before it failing at the same position. -/
inductive FirstOf (text : List Char) (skips : Char → Bool) :
    List Rule → List Rule → Nat → Option Nat → Prop
  | nil {env : List Rule} {p : Nat} : FirstOf text skips env [] p none
  | found {env rs : List Rule} {r : Rule} {p q : Nat}
      (first : Derives text skips env r p (some q)) : FirstOf text skips env (r :: rs) p (some q)
  | next {env rs : List Rule} {r : Rule} {p : Nat} {x : Option Nat}
      (first : Derives text skips env r p none) (rest : FirstOf text skips env rs p x) :
      FirstOf text skips env (r :: rs) p x

/-- A rule matches `n` times, each time from where it ended before, until it fails or ends where it
began. -/
inductive Repeats (text : List Char) (skips : Char → Bool) :
    List Rule → Rule → Nat → Nat → Nat → Prop
  | stop {env : List Rule} {r : Rule} {p : Nat} (last : Derives text skips env r p none) :
      Repeats text skips env r p 0 p
  | still {env : List Rule} {r : Rule} {p : Nat} (last : Derives text skips env r p (some p)) :
      Repeats text skips env r p 1 p
  | next {env : List Rule} {r : Rule} {p q n e : Nat}
      (attempt : Derives text skips env r p (some q)) (moved : q ≠ p)
      (rest : Repeats text skips env r q n e) : Repeats text skips env r p (n + 1) e

end

/-! ## Derivations are unique -/

/-- There is one token from a position on: the longest one. -/
theorem isToken_iff {accepts : List Char → Bool} {ahead : List Char} {n : Nat} :
    IsToken accepts ahead n ↔ n = tokenLength accepts [] ahead := by
  have hlen := tokenLength_le_length accepts [] ahead
  constructor
  · intro h
    -- one character more than the shorter of the two would and would not be accepted
    rcases Nat.lt_trichotomy n (tokenLength accepts [] ahead) with hlt | heq | hgt
    · have hyes := accepts_of_le_tokenLength (Nat.succ_pos n) hlt
      have hno := h.longest (by omega)
      rw [List.nil_append, hno] at hyes
      cases hyes
    · exact heq
    · have hle := h.le_length
      have hno := not_accepts_of_tokenLength (Nat.lt_of_lt_of_le hgt hle)
      have hyes := h.accepted _ (Nat.succ_pos _) hgt
      rw [List.nil_append, hyes] at hno
      cases hno
  · rintro rfl
    exact ⟨hlen, fun i hpos hi => accepts_of_le_tokenLength hpos hi, not_accepts_of_tokenLength⟩

theorem IsToken.unique {accepts : List Char → Bool} {ahead : List Char} {n m : Nat}
    (hn : IsToken accepts ahead n) (hm : IsToken accepts ahead m) : n = m :=
  (isToken_iff.1 hn).trans (isToken_iff.1 hm).symm

section Unique

variable {text : List Char} {skips : Char → Bool}

mutual

/-- A rule is derived to end in one way. -/
theorem Derives.unique : ∀ {env : List Rule} {r : Rule} {p : Nat} {x y : Option Nat},
    Derives text skips env r p x → Derives text skips env r p y → x = y
  | _, _, _, _, _, .tag agrees, h => by
    cases h with
    | tag => rfl
    | tag_fails differs => exact absurd agrees differs
  | _, _, _, _, _, .tag_fails differs, h => by
    cases h with
    | tag agrees => exact absurd agrees differs
    | tag_fails => rfl
  | _, _, _, _, _, .regex token, h => by
    cases h with
    | regex token' => rw [token.unique token']
    | regex_fails empty => cases token.unique empty
  | _, _, _, _, _, .regex_fails empty, h => by
    cases h with
    | regex token => cases token.unique empty
    | regex_fails => rfl
  | _, _, _, _, _, .eof ended, h => by
    cases h with
    | eof => rfl
    | eof_fails more => exact absurd ended more
  | _, _, _, _, _, .eof_fails more, h => by
    cases h with
    | eof ended => exact absurd ended more
    | eof_fails => rfl
  | _, _, _, _, _, .map inner, .map inner' => inner.unique inner'
  | _, _, _, _, _, .both parts, .both parts' => parts.unique parts'
  | _, _, _, _, _, .keepLeft parts, .keepLeft parts' => parts.unique parts'
  | _, _, _, _, _, .keepRight parts, .keepRight parts' => parts.unique parts'
  | _, _, _, _, _, .seq parts, .seq parts' => parts.unique parts'
  | _, _, _, _, _, .choices first, .choices first' => first.unique first'
  | _, _, _, _, _, .many attempts within, h => by
    cases h with
    | many attempts' => rw [(attempts.unique attempts').2]
    | many_fails attempts' outside =>
      -- the counts are the same, and cannot be both within the bounds and not
      rw [(attempts.unique attempts').1, outside] at within
      cases within
  | _, _, _, _, _, .many_fails attempts outside, h => by
    cases h with
    | many attempts' within =>
      rw [(attempts.unique attempts').1, within] at outside
      cases outside
    | many_fails => rfl
  | _, _, _, _, _, .catching inner, h => by
    cases h with
    | catching inner' => exact inner.unique inner'
    | catching_default inner' => cases inner.unique inner'
  | _, _, _, _, _, .catching_default inner, h => by
    cases h with
    | catching inner' => cases inner.unique inner'
    | catching_default => rfl
  | _, _, _, _, _, .named inner, .named inner' => inner.unique inner'
  | _, _, _, _, _, .ignored inner, .ignored inner' => inner.unique inner'
  | _, _, _, _, _, .fix inner, .fix inner' => inner.unique inner'
  | _, _, _, _, _, .ref found inner, .ref found' inner' => by
    cases found.symm.trans found'
    exact inner.unique inner'
termination_by structural _ _ _ _ _ h => h

/-- Rules in order are derived to end in one way. -/
theorem InOrder.unique : ∀ {env rs : List Rule} {p : Nat} {x y : Option Nat},
    InOrder text skips env rs p x → InOrder text skips env rs p y → x = y
  | _, _, _, _, _, .nil, .nil => rfl
  | _, _, _, _, _, .stop first, h => by
    cases h with
    | stop => rfl
    | next first' => cases first.unique first'
  | _, _, _, _, _, .next first rest, h => by
    cases h with
    | stop first' => cases first.unique first'
    | next first' rest' =>
      cases first.unique first'
      exact rest.unique rest'
termination_by structural _ _ _ _ _ h => h

/-- One alternative is the first that matches. -/
theorem FirstOf.unique : ∀ {env rs : List Rule} {p : Nat} {x y : Option Nat},
    FirstOf text skips env rs p x → FirstOf text skips env rs p y → x = y
  | _, _, _, _, _, .nil, .nil => rfl
  | _, _, _, _, _, .found first, h => by
    cases h with
    | found first' => exact first.unique first'
    | next first' => cases first.unique first'
  | _, _, _, _, _, .next first rest, h => by
    cases h with
    | found first' => cases first.unique first'
    | next _ rest' => exact rest.unique rest'
termination_by structural _ _ _ _ _ h => h

/-- A rule is derived to match so many times, and up to one position. -/
theorem Repeats.unique : ∀ {env : List Rule} {r : Rule} {p n m q q' : Nat},
    Repeats text skips env r p n q → Repeats text skips env r p m q' → n = m ∧ q = q'
  | _, _, _, _, _, _, _, .stop last, h => by
    cases h with
    | stop => exact ⟨rfl, rfl⟩
    | still last' => cases last.unique last'
    | next attempt => cases last.unique attempt
  | _, _, _, _, _, _, _, .still last, h => by
    cases h with
    | stop last' => cases last.unique last'
    | still => exact ⟨rfl, rfl⟩
    | next attempt moved =>
      -- both attempts end at one place, where they begin or not
      cases last.unique attempt
      exact absurd rfl moved
  | _, _, _, _, _, _, _, .next attempt moved rest, h => by
    cases h with
    | stop last => cases attempt.unique last
    | still last =>
      cases attempt.unique last
      exact absurd rfl moved
    | next attempt' moved' rest' =>
      cases attempt.unique attempt'
      obtain ⟨hcount, hend⟩ := rest.unique rest'
      exact ⟨congrArg _ hcount, hend⟩
termination_by structural _ _ _ _ _ _ _ h => h

end

end Unique

end Rule

/-! ## Where a run has ended -/

/-- The cursor at an offset of a text. -/
def Cursor.place (text : List Char) (blanks : Blanks) (p : Nat) : Cursor text := ⟨p, blanks⟩

theorem Cursor.valid_place {text : List Char} (blanks : Blanks) {p : Nat} (h : p ≤ text.length) :
    (place text blanks p).Valid :=
  ⟨Int.natCast_nonneg p, Int.ofNat_le.2 h⟩

theorem Cursor.visible_place (text : List Char) (blanks : Blanks) (p : Nat) :
    (place text blanks p).visible = Descent.visible blanks.skips (text.drop p) := rfl

theorem Cursor.onto_place (text : List Char) (blanks : Blanks) (p k : Nat) :
    (place text blanks p).onto k = place text blanks (p + offset blanks.skips k (text.drop p)) :=
  eq_of_pos_eq (Int.natCast_add p _).symm rfl

/-- A run has ended with a value at a position, or, where there is none, with a parse error; the
blank characters are the given ones. -/
inductive Reached {text : List Char} {α : Type} (blanks : Blanks) :
    Outcome α × Cursor text → Option Nat → Prop
  | value {a : α} {q : Nat} : Reached blanks (.value a, .place text blanks q) (some q)
  | failure {e : ParseError} {q : Int} : Reached blanks (.failure e, ⟨q, blanks⟩) none

namespace Reached

variable {text : List Char} {blanks : Blanks} {α : Type}

theorem exists_value {result : Outcome α × Cursor text} {q : Nat}
    (h : Reached blanks result (some q)) : ∃ a, result = (.value a, .place text blanks q) := by
  cases h with
  | value => exact ⟨_, rfl⟩

theorem exists_failure {result : Outcome α × Cursor text} (h : Reached blanks result none) :
    ∃ e q, result = (.failure e, ⟨q, blanks⟩) := by
  cases h with
  | failure => exact ⟨_, _, rfl⟩

theorem ne_tooDeep {result : Outcome α × Cursor text} {x : Option Nat}
    (h : Reached blanks result x) : result.1 ≠ .fault .tooDeep := by
  cases h with
  | value => simp
  | failure => simp

end Reached

namespace Action

variable {text : List Char} {blanks : Blanks} {α β γ : Type} {c d : Cursor text} {x : Option Nat}

theorem reached_value_iff {a : α} :
    Reached blanks (.value a, d) x ↔ ∃ q, d = .place text blanks q ∧ x = some q := by
  constructor
  · rintro ⟨⟩
    exact ⟨_, rfl, rfl⟩
  · rintro ⟨q, rfl, rfl⟩
    exact .value

theorem reached_place_iff {a : α} {q : Nat} :
    Reached blanks (.value a, .place text blanks q) x ↔ x = some q := by
  constructor
  · rintro ⟨⟩
    rfl
  · rintro rfl
    exact .value

theorem reached_failure_iff {e : ParseError} :
    Reached (α := α) blanks (.failure e, d) x ↔ d.blanks = blanks ∧ x = none := by
  constructor
  · rintro ⟨⟩
    exact ⟨rfl, rfl⟩
  · rintro ⟨rfl, rfl⟩
    exact .failure

theorem not_reached_fault {f : Fault} : ¬ Reached (α := α) blanks (.fault f, d) x := by
  rintro ⟨⟩

/-- More depth changes nothing about where a run has ended. -/
theorem Below.reached {a b : Action α} (h : Below .tooDeep a b) (hr : Reached blanks (a.run c) x) :
    Reached blanks (b.run c) x := by
  rcases h c with hdeep | heq
  · rcases hrun : a.run c with ⟨o, d⟩
    rw [hrun] at hr hdeep
    rw [show o = .fault .tooDeep from hdeep] at hr
    exact absurd hr not_reached_fault
  · rw [heq]
    exact hr

/-- A function that returns normally does not change where a run ends. -/
theorem reached_transform {a : Action α} {f : α → Outcome β}
    (hf : ∀ v d, a.run c = (.value v, d) → ∃ w, f v = .value w) :
    Reached blanks ((a.transform f).run c) x ↔ Reached blanks (a.run c) x := by
  rcases hr : a.run c with ⟨o, d⟩
  cases o with
  | value v =>
    obtain ⟨w, hw⟩ := hf v d hr
    rw [transform_of_value hr, hw, reached_value_iff, reached_value_iff]
  | failure e => rw [transform_of_failure hr, reached_failure_iff, reached_failure_iff]
  | fault e => simp only [transform_of_fault hr, not_reached_fault]

theorem reached_mapValue {a : Action α} {f : α → β} :
    Reached blanks ((a.mapValue f).run c) x ↔ Reached blanks (a.run c) x :=
  reached_transform fun v _ _ => ⟨f v, rfl⟩

/-- Actions that end at the same places do so after the same action. -/
theorem reached_bind_congr {a : Action α} {f : α → Action β} {g : α → Action γ}
    (h : ∀ v (d : Cursor text), Reached blanks ((f v).run d) x ↔ Reached blanks ((g v).run d) x) :
    Reached blanks ((a.bind f).run c) x ↔ Reached blanks ((a.bind g).run c) x := by
  rcases hr : a.run c with ⟨o, d⟩
  cases o with
  | value v =>
    rw [bind_of_value hr, bind_of_value hr]
    exact h v d
  | failure e =>
    rw [bind_of_failure hr, bind_of_failure hr, reached_failure_iff, reached_failure_iff]
  | fault e => simp only [bind_of_fault hr, not_reached_fault]

/-- Two actions in order end where the sequence of them does, whatever is made of their values. -/
theorem reached_pair {a b : Action α} {g : α → Action β} {values : List α} {i j : Bool}
    (hg : ∀ v (d : Cursor text), Reached blanks ((g v).run d) x ↔ Reached blanks (b.run d) x) :
    Reached blanks ((a.bind g).run c) x ↔
      Reached blanks ((seqFrom values [(i, a), (j, b)]).run c) x := by
  refine reached_bind_congr fun v d => (hg v d).trans ?_
  exact reached_mapValue.symm

/-- An action that fails whatever it is given ends with no value. -/
theorem eq_none_of_reached_fail {a : Action Location} {issue : Issue}
    (hr : Reached (α := α) blanks ((a.bind (fail issue)).run c) x) : x = none := by
  rcases hrun : a.run c with ⟨o, d⟩
  cases o with
  | value l =>
    rw [bind_of_value hrun] at hr
    exact (reached_failure_iff.1 hr).2
  | failure e =>
    rw [bind_of_failure hrun] at hr
    exact (reached_failure_iff.1 hr).2
  | fault f =>
    rw [bind_of_fault hrun] at hr
    exact absurd hr not_reached_fault

/-- A safe run has a fault, fails, or ends further on in the text. -/
theorem SafeOn.run_place {faults : Fault → Prop} {good : Int → α → Prop} {a : Action α}
    (ha : SafeOn faults text good a) (blanks : Blanks) {p : Nat} (hp : p ≤ text.length) :
    (∃ f d, a.run (.place text blanks p) = (.fault f, d)) ∨
      (∃ e q, a.run (.place text blanks p) = (.failure e, ⟨q, blanks⟩)) ∨
      ∃ v q, a.run (.place text blanks p) = (.value v, .place text blanks q) ∧ p ≤ q ∧
        q ≤ text.length := by
  have hc := Cursor.valid_place blanks hp
  have hend := ha _ hc
  rcases hr : a.run (.place text blanks p) with ⟨o, d⟩
  rw [hr] at hend
  cases o with
  | value v =>
    have hle : (p : Int) ≤ d.pos := hend.le_pos
    have hlen : d.pos ≤ text.length := hend.pos_le
    have hd : d = .place text blanks d.pos.toNat :=
      Cursor.eq_of_pos_eq (Int.toNat_of_nonneg (hend.valid hc).1).symm hend.blanks_eq
    exact .inr (.inr ⟨v, d.pos.toNat, by rw [← hd], by omega, by omega⟩)
  | failure e =>
    have hd : d = ⟨d.pos, blanks⟩ := Cursor.eq_of_pos_eq rfl hend.blanks_eq
    exact .inr (.inl ⟨e, d.pos, by rw [← hd]⟩)
  | fault f => exact .inl ⟨f, d, rfl⟩

/-- A safe run that has ended with a value has moved on within the text. -/
theorem SafeOn.le_of_reached {faults : Fault → Prop} {good : Int → α → Prop} {a : Action α}
    (ha : SafeOn faults text good a) {p q : Nat} (hp : p ≤ text.length)
    (h : Reached blanks (a.run (.place text blanks p)) (some q)) : p ≤ q ∧ q ≤ text.length := by
  rcases ha.run_place blanks hp with ⟨f, d, hd⟩ | ⟨e, _, he⟩ | ⟨v, _, hv, hle⟩
  · rw [hd] at h
    cases h
  · rw [he] at h
    cases h
  · rw [hv] at h
    cases h
    exact hle

end Action

namespace Rule

open Descent.Action

/-! ## Primitive rules -/

variable {text : List Char} {blanks : Blanks} {patience : Nat} {env : List Rule} {p : Nat}
  {x : Option Nat}

/-- A literal ends where it matches. -/
theorem reached_tag_iff (hp : p ≤ text.length) {literal : String} (hne : literal.toList ≠ [])
    (limit : Nat) :
    Reached blanks ((run patience (limit + 1) env (.tag literal)).run (.place text blanks p)) x ↔
      Derives text blanks.skips env (.tag literal) p x := by
  rw [run_succ, layer, reached_mapValue, tag_of_valid (Cursor.valid_place blanks hp) hne,
    Cursor.visible_place, Cursor.onto_place, tagOutcome]
  by_cases h : literal.toList <+: visible blanks.skips (text.drop p)
  · rw [agreement_eq_length_iff.2 h, if_pos rfl, reached_place_iff]
    constructor
    · rintro rfl
      exact .tag h
    · intro hd
      cases hd with
      | tag => rfl
      | tag_fails differs => exact absurd h differs
  · rw [if_neg (mt agreement_eq_length_iff.1 h), reached_failure_iff]
    constructor
    · rintro ⟨-, rfl⟩
      exact .tag_fails h
    · intro hd
      cases hd with
      | tag agrees => exact absurd agrees h
      | tag_fails => exact ⟨rfl, rfl⟩

/-- A token ends where it matches. -/
theorem reached_regex_iff (hp : p ≤ text.length) (pattern : String) (accepts : List Char → Bool)
    (limit : Nat) :
    Reached blanks
        ((run patience (limit + 1) env (.regex pattern accepts)).run (.place text blanks p)) x ↔
      Derives text blanks.skips env (.regex pattern accepts) p x := by
  rw [run_succ, layer, reached_mapValue, regex_of_valid (Cursor.valid_place blanks hp),
    Cursor.visible_place, Cursor.onto_place]
  cases h : tokenLength accepts [] (visible blanks.skips (text.drop p)) with
  | zero =>
    rw [if_pos rfl, reached_failure_iff]
    constructor
    · rintro ⟨-, rfl⟩
      exact .regex_fails (isToken_iff.2 h.symm)
    · intro hd
      cases hd with
      | regex token =>
        have := isToken_iff.1 token
        omega
      | regex_fails => exact ⟨rfl, rfl⟩
  | succ n =>
    rw [if_neg (Nat.succ_ne_zero n), reached_place_iff]
    constructor
    · rintro rfl
      exact .regex (isToken_iff.2 h.symm)
    · intro hd
      cases hd with
      | regex token =>
        rw [isToken_iff.1 token, h]
      | regex_fails token =>
        have := isToken_iff.1 token
        omega

/-- The end of the text ends where it matches. -/
theorem reached_eof_iff (hp : p ≤ text.length) (limit : Nat) :
    Reached blanks ((run patience (limit + 1) env .eof).run (.place text blanks p)) x ↔
      Derives text blanks.skips env .eof p x := by
  rw [run_succ, layer, reached_mapValue, eof_of_valid (Cursor.valid_place blanks hp),
    Cursor.visible_place, Cursor.onto_place]
  cases h : visible blanks.skips (text.drop p) with
  | nil =>
    rw [List.head?_nil, reached_place_iff]
    constructor
    · rintro rfl
      exact .eof h
    · intro hd
      cases hd with
      | eof => rfl
      | eof_fails more => exact absurd h more
  | cons found more =>
    rw [List.head?_cons, reached_failure_iff]
    constructor
    · rintro ⟨-, rfl⟩
      exact .eof_fails (by rw [h]; exact List.cons_ne_nil _ _)
    · intro hd
      cases hd with
      | eof ended =>
        rw [h] at ended
        cases ended
      | eof_fails => exact ⟨rfl, rfl⟩

/-! ## Two rules in order -/

section Pairs

variable {r s : Rule} {c : Cursor text} (limit : Nat)

/-- Two rules in order end where the sequence of them does, whatever is made of their values. -/
theorem reached_both_iff :
    Reached blanks ((run patience (limit + 1) env (.both r s)).run c) x ↔
      Reached blanks ((run patience (limit + 1) env (.seq [r, s])).run c) x := by
  rw [run_succ, run_succ, layer, layer, reached_mapValue, reached_mapValue]
  exact reached_pair fun _ _ => reached_mapValue

theorem reached_keepLeft_iff :
    Reached blanks ((run patience (limit + 1) env (.keepLeft r s)).run c) x ↔
      Reached blanks ((run patience (limit + 1) env (.seq [r, s])).run c) x := by
  rw [run_succ, run_succ, layer, layer, reached_mapValue]
  exact reached_pair fun _ _ => reached_mapValue

theorem reached_keepRight_iff :
    Reached blanks ((run patience (limit + 1) env (.keepRight r s)).run c) x ↔
      Reached blanks ((run patience (limit + 1) env (.seq [r, s])).run c) x := by
  rw [run_succ, run_succ, layer, layer, reached_mapValue]
  exact reached_pair fun _ _ => Iff.rfl

end Pairs

end Rule

end Descent
