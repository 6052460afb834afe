import Descent.Proofs.Locations

/-!
# Locations side by side

A rule that keeps the values of all rules inside it loses nothing of what it reads: the locations in
its value, from left to right, lie side by side from where the rule began to where it has ended, and
so their characters are together the characters that were read. A rule that drops values leaves
gaps, but the locations that remain are in order and do not overlap.

Both are cases of one statement, about any relation that has to hold from the end of each location
to the start of the next: equality in the first case, and the order of positions in the second.
-/

namespace Descent

variable {text : List Char}

/-! ## Locations in a row -/

/-- The characters of a location, with the blank ones at its ends. -/
def Location.characters (l : Location) : List Char :=
  (l.text.drop l.span.start).take l.span.length

/-- Locations stand in a row between two positions: a relation holds from the first position to the
start of the first location, from the end of each location to the start of the next, and from the
end of the last one to the second position. -/
def Row (step : Int → Int → Prop) : Int → List Location → Int → Prop
  | p, [], q => step p q
  | p, l :: rest, q => step p l.span.start ∧ Row step l.span.stop rest q

/-- Locations lie side by side between two positions: the first begins at the first position, each
next one begins where the one before has ended, and the last ends at the second position. -/
def Tiles : Int → List Location → Int → Prop := Row (· = ·)

/-- A relation between positions by which rows can be joined. -/
structure Joins (step : Int → Int → Prop) : Prop where
  refl : ∀ p, step p p
  trans : ∀ {p q r}, step p q → step q r → step p r

theorem joins_eq : Joins (· = ·) := ⟨fun _ => rfl, Eq.trans⟩

theorem joins_le : Joins (· ≤ ·) := ⟨Int.le_refl, Int.le_trans⟩

namespace Row

variable {step : Int → Int → Prop} {p q r : Int} {ls ms : List Location}

/-- A row may begin further back. -/
theorem extend_front (hstep : Joins step) (hpq : step p q) (h : Row step q ls r) :
    Row step p ls r := by
  cases ls with
  | nil => exact hstep.trans hpq h
  | cons l rest => exact ⟨hstep.trans hpq h.1, h.2⟩

/-- A row that begins where another one has ended goes on with it. -/
theorem append (hstep : Joins step) (h : Row step p ls q) (h' : Row step q ms r) :
    Row step p (ls ++ ms) r := by
  induction ls generalizing p with
  | nil => exact h'.extend_front hstep h
  | cons l rest ih => exact ⟨h.1, ih h.2⟩

/-- A row may end further on. -/
theorem extend_back (hstep : Joins step) (h : Row step p ls q) (hqr : step q r) :
    Row step p ls r := by
  have hrow : Row step p (ls ++ []) r := h.append hstep hqr
  rwa [List.append_nil] at hrow

/-- A row never leads back. -/
theorem le (hle : ∀ p q, step p q → p ≤ q) (h : Row step p ls q) : p ≤ q := by
  induction ls generalizing p with
  | nil => exact hle p q h
  | cons l rest ih =>
    have hstart : p ≤ l.span.start := hle _ _ h.1
    have hstop : (l.span.stop : Int) ≤ q := ih h.2
    have hspan := l.span.ordered
    omega

/-- In a row in which no location begins before the end of the one before, the locations are in
order, do not overlap, and lie between the two positions. -/
theorem pairwise_of_le (h : Row (· ≤ ·) p ls q) :
    ls.Pairwise (fun l m => l.span.stop ≤ m.span.start) ∧
      ∀ l ∈ ls, p ≤ l.span.start ∧ (l.span.stop : Int) ≤ q := by
  induction ls generalizing p with
  | nil => exact ⟨.nil, by simp⟩
  | cons l rest ih =>
    obtain ⟨hpair, hbounds⟩ := ih h.2
    have hstart : p ≤ l.span.start := h.1
    have hstop : (l.span.stop : Int) ≤ q := Row.le (fun _ _ h => h) h.2
    refine ⟨.cons (fun m hm => Int.ofNat_le.1 (hbounds m hm).1) hpair, fun m hm => ?_⟩
    rcases List.mem_cons.1 hm with rfl | hm
    · exact ⟨hstart, hstop⟩
    · have hspan := l.span.ordered
      have hm := hbounds m hm
      exact ⟨by omega, hm.2⟩

end Row

/-- The characters of locations that lie side by side are all the characters between the two
positions. -/
theorem Tiles.flatMap_characters {p q : Int} {ls : List Location} (h : Tiles p ls q) (hp : 0 ≤ p)
    (htext : ∀ l ∈ ls, l.text = text) :
    ls.flatMap Location.characters = (text.drop p.toNat).take (q - p).toNat := by
  induction ls generalizing p with
  | nil =>
    have hpq : p = q := h
    rw [List.flatMap_nil, hpq, Int.sub_self]
    rfl
  | cons l rest ih =>
    have hstart : p = l.span.start := h.1
    have hstop : (l.span.stop : Int) ≤ q := Row.le (fun _ _ h => Int.le_of_eq h) h.2
    have hspan := l.span.ordered
    have hrest := ih h.2 (Int.natCast_nonneg _) fun m hm => htext m (List.mem_cons_of_mem l hm)
    -- the characters up to the end of the first location, and then those of the others
    have hlen : (q - p).toNat = l.span.length + (q - l.span.stop).toNat := by
      unfold Span.length
      omega
    have hdrop : (text.drop l.span.start).drop l.span.length = text.drop l.span.stop := by
      rw [List.drop_drop, Span.length, Nat.add_sub_cancel' hspan]
    rw [List.flatMap_cons, hrest, Location.characters, htext l List.mem_cons_self, hlen, hstart,
      Int.toNat_natCast, Int.toNat_natCast, List.take_add, hdrop]

/-! ## Actions that end with a value -/

namespace Action

variable {α β : Type} {c d : Cursor text}

/-- A choice among safe alternatives gives the value of one of them, from where the choice
began. -/
theorem exists_of_choices_eq_value {faults : Fault → Prop} {good : Int → α → Prop}
    {alternatives : List (String × Action α)}
    (hsafe : ∀ entry ∈ alternatives, SafeOn faults text good entry.2) (hc : c.Valid) {a : α}
    (h : (choices alternatives).run c = (.value a, d)) :
    ∃ entry ∈ alternatives, entry.2.run c = (.value a, d) := by
  rw [choices_of_valid hc] at h
  suffices hfrom : ∀ (labels : List String) (furthest : Int) (notes : List String)
      (e : Cursor text), e.blanks = c.blanks →
      (choicesFrom labels c.pos furthest notes alternatives).run e = (.value a, d) →
      ∃ entry ∈ alternatives, entry.2.run c = (.value a, d) from hfrom _ _ _ c rfl h
  clear h
  induction alternatives with
  | nil =>
    intro labels furthest notes e _ h
    simp only [choicesFrom] at h
    split at h <;> cases h
  | cons entry rest ih =>
    intro labels furthest notes e hb h
    obtain ⟨label, action⟩ := entry
    have hback : e.moveTo c.pos = c := Cursor.eq_of_pos_eq rfl hb
    have hend := hsafe _ List.mem_cons_self c hc
    rcases hr : action.run c with ⟨o, e'⟩
    rw [hr] at hend
    have hr' : action.run (e.moveTo c.pos) = (o, e') := by rw [hback, hr]
    cases o with
    | value a' =>
      rw [choicesFrom_cons_of_value hr'] at h
      exact ⟨_, List.mem_cons_self, hr.trans h⟩
    | failure error =>
      rw [choicesFrom_cons_of_failure hr'] at h
      obtain ⟨entry, hentry, hvalue⟩ :=
        ih (fun e he => hsafe e (List.mem_cons_of_mem _ he)) _ _ _ e' hend.blanks_eq h
      exact ⟨entry, List.mem_cons_of_mem _ hentry, hvalue⟩
    | fault f =>
      rw [choicesFrom_cons_of_fault hr'] at h
      cases h

/-- A repetition within its bounds gives what repeating gives. -/
theorem repeated_of_many_eq_value {x : Action α} {patience : Nat} {min : Int} {max : Option Int}
    {vs : List α} (hc : c.Valid) (h : (many patience min max x).run c = (.value vs, d)) :
    (repeated patience x).run c = (.value vs, d) := by
  rcases hr : (repeated patience x).run c with ⟨o, e⟩
  cases o with
  | value ws =>
    cases hb : withinBounds min max ws.length with
    | true => rw [← h, many_of_within hc hr hb]
    | false =>
      rw [many_of_outside hc hr hb] at h
      obtain ⟨issue, e', _, hreport⟩ := exists_of_bind_eq_value h
      obtain ⟨l, e'', _, hfail⟩ := exists_of_bind_eq_value hreport
      cases hfail
  | failure error =>
    exact absurd (congrArg Prod.fst hr) (manyFrom_ne_failure x _ [] c error)
  | fault f =>
    rw [many_of_fault hc hr] at h
    cases h

end Action

/-! ## Rows of locations in values -/

namespace Value

theorem locationsAll_append (vs ws : List Value) :
    locationsAll (vs ++ ws) = locationsAll vs ++ locationsAll ws := by
  induction vs with
  | nil => rfl
  | cons v rest ih => rw [List.cons_append, locationsAll, locationsAll, ih, List.append_assoc]

@[simp] theorem locationsAll_singleton (v : Value) : locationsAll [v] = v.locations := by
  simp [locationsAll]

end Value

/-- An action is safe, and where it ends with a value, the locations in it stand in a row from where
the action began. -/
structure Action.RowsOn (text : List Char) (step : Int → Int → Prop) (x : Action Value) : Prop where
  safe : SafeOn (fun _ => True) text (fun _ _ => True) x
  row : ∀ {c d : Cursor text} {v : Value}, c.Valid → x.run c = (.value v, d) →
    Row step c.pos v.locations d.pos

namespace Action

open Value

variable {step : Int → Int → Prop} {c d : Cursor text}

/-- A primitive action gives the location of all that it has read. -/
theorem row_of_stretch (hstep : Joins step) (hc : c.Valid) (k : Nat) :
    Row step c.pos (locations (.location (c.stretch (c.gap k)))) (c.onto k).pos := by
  have hstart : (((c.stretch (c.gap k)).span.start : Nat) : Int) = c.pos :=
    Int.toNat_of_nonneg hc.1
  have hstop : (((c.stretch (c.gap k)).span.stop : Nat) : Int) = (c.onto k).pos := by
    have := hc.1
    simp only [Cursor.stretch, Cursor.pos_onto]
    omega
  show step _ _ ∧ step _ _
  rw [hstart, hstop]
  exact ⟨hstep.refl _, hstep.refl _⟩

theorem row_of_tag (hstep : Joins step) {literal : String} (hne : literal.toList ≠ [])
    (hc : c.Valid) {l : Location} (h : (tag literal).run c = (.value l, d)) :
    Row step c.pos (locations (.location l)) d.pos := by
  rw [tag_of_valid hc hne, tagOutcome] at h
  split at h
  · cases h
    exact row_of_stretch hstep hc _
  · cases h

theorem row_of_regex (hstep : Joins step) {pattern : String} {accepts : List Char → Bool}
    (hc : c.Valid) {l : Location} (h : (regex pattern accepts).run c = (.value l, d)) :
    Row step c.pos (locations (.location l)) d.pos := by
  rw [regex_of_valid hc] at h
  split at h
  · cases h
  · cases h
    exact row_of_stretch hstep hc _

theorem row_of_eof (hstep : Joins step) (hc : c.Valid) {l : Location}
    (h : eof.run c = (.value l, d)) : Row step c.pos (locations (.location l)) d.pos := by
  rw [eof_of_valid hc] at h
  split at h
  · cases h
    exact row_of_stretch hstep hc _
  · cases h

/-- The values of a sequence stand in a row, those of ignored rules left out if gaps are allowed. -/
theorem row_of_seqFrom (hstep : Joins step) (actions : List (Bool × Action Value))
    (hall : ∀ entry ∈ actions, RowsOn text step entry.2)
    (hdrops : ∀ entry ∈ actions, entry.1 = true → ∀ p q, p ≤ q → step p q) {p : Int}
    {values vs : List Value} (hc : c.Valid) (hvalues : Row step p (locationsAll values) c.pos)
    (h : (seqFrom values actions).run c = (.value vs, d)) :
    Row step p (locationsAll vs) d.pos := by
  induction actions generalizing values c with
  | nil =>
    cases h
    exact hvalues
  | cons entry rest ih =>
    obtain ⟨ignored, action⟩ := entry
    have haction := hall _ List.mem_cons_self
    obtain ⟨v, e, hr, hrest⟩ := exists_of_bind_eq_value h
    obtain ⟨he, hle⟩ := haction.safe.of_value hc hr
    refine ih (fun e he => hall e (List.mem_cons_of_mem _ he))
      (fun e he => hdrops e (List.mem_cons_of_mem _ he)) he ?_ hrest
    cases ignored with
    | true => exact hvalues.extend_back hstep (hdrops _ List.mem_cons_self rfl _ _ hle)
    | false =>
      rw [if_neg Bool.false_ne_true, locationsAll_append, locationsAll_singleton]
      exact hvalues.append hstep (haction.row hc hr)

/-- The values of a repetition stand in a row: an attempt that fails leaves none. -/
theorem row_of_manyFrom (hstep : Joins step) {x : Action Value} (hx : RowsOn text step x)
    (limit : Nat) {p : Int} {values vs : List Value} (hc : c.Valid)
    (hvalues : Row step p (locationsAll values) c.pos)
    (h : (manyFrom x limit values).run c = (.value vs, d)) :
    Row step p (locationsAll vs) d.pos := by
  induction limit generalizing values c with
  | zero => cases h
  | succ limit ih =>
    rcases hr : x.run c with ⟨o, e⟩
    cases o with
    | value v =>
      have hnext : Row step p (locationsAll (values ++ [v])) e.pos := by
        rw [locationsAll_append, locationsAll_singleton]
        exact hvalues.append hstep (hx.row hc hr)
      by_cases hm : e.pos = c.pos
      · rw [manyFrom_of_still hc hr hm] at h
        cases h
        exact hnext
      · rw [manyFrom_of_value hc hr hm] at h
        exact ih (hx.safe.of_value hc hr).1 hnext h
    | failure error =>
      rw [manyFrom_of_failure hc hr] at h
      cases h
      exact hvalues
    | fault f =>
      rw [manyFrom_of_fault hc hr] at h
      cases h

end Action

/-! ## Rows of locations in the values of rules -/

namespace Rule

open Descent.Action Value

/-- A rule without functions of its own, except that it may have a default for a failure, in which
there are no locations. -/
def Gathers (_env : List Rule) : Rule → Prop
  | .action _ => False
  | .map .. => False
  | .catching handler _ => ∃ default, handler = (fun _ => .value default) ∧ default.locations = []
  | _ => True

/-- A rule that does not drop the value of a rule inside it, or have its own dropped. -/
def KeepsAll (_env : List Rule) : Rule → Prop
  | .keepLeft .. => False
  | .keepRight .. => False
  | .ignored _ => False
  | _ => True

/-- Values are dropped only where a row may have gaps. -/
def DropsInto (step : Int → Int → Prop) (env : List Rule) (r : Rule) : Prop :=
  KeepsAll env r ∨ ∀ p q, p ≤ q → step p q

variable {step : Int → Int → Prop} {env : List Rule} {r : Rule}

theorem normal_of_gathers (h : Gathers env r) : Normal env r := by
  cases r with
  | action x => exact h.elim
  | map f r => exact h.elim
  | catching handler r =>
    obtain ⟨default, rfl, -⟩ := h
    exact fun _ _ _ _ _ _ _ _ => ⟨default, rfl⟩
  | _ => trivial

theorem makesNoLocations_of_gathers (h : Gathers env r) : MakesNoLocations env r := by
  cases r with
  | map f r => exact h.elim
  | catching handler r =>
    obtain ⟨default, rfl, hnone⟩ := h
    rintro e w ⟨⟩
    rw [hnone]
    exact List.nil_subset _
  | _ => trivial

/-- A rule is ignored only where a row may have gaps. -/
theorem gaps_of_isIgnored (h : Everywhere (DropsInto step) env r) (hignored : r.isIgnored = true) :
    ∀ p q, p ≤ q → step p q := by
  induction h with
  | @intro env r here _ ih =>
    cases r with
    | ignored r => exact here.resolve_left id
    | map f r => exact ih _ (List.mem_singleton.2 rfl) hignored
    | catching handler r => exact ih _ (List.mem_singleton.2 rfl) hignored
    | named name r => exact ih _ (List.mem_singleton.2 rfl) hignored
    | fix level d => exact ih _ (List.mem_singleton.2 rfl) hignored
    | _ => cases hignored

/-- The locations in the value of a rule stand in a row from where the rule began to where it has
ended. -/
theorem run_rowsOn (hstep : Joins step)
    (h : Throughout (fun env r => WellFormed env r ∧ Gathers env r ∧ DropsInto step env r) env r)
    (patience limit : Nat) : RowsOn text step (run patience limit env r) := by
  induction limit generalizing env r with
  | zero => exact ⟨fun c hc => .still hc trivial, fun _ hr => by cases hr⟩
  | succ limit ih =>
    have proper : Throughout Proper env r :=
      h.mono fun env s hs => ⟨hs.1, normal_of_gathers hs.2.1⟩
    refine ⟨run_safe proper text patience (limit + 1), ?_⟩
    rw [run_succ]
    intro c d v hc hr
    have start : Row step c.pos (locationsAll []) c.pos := hstep.refl _
    cases r with
    | tag literal =>
      obtain ⟨l, hl, rfl⟩ := exists_of_mapValue_eq_value hr
      exact row_of_tag hstep h.here.1 hc hl
    | regex pattern accepts =>
      obtain ⟨l, hl, rfl⟩ := exists_of_mapValue_eq_value hr
      exact row_of_regex hstep hc hl
    | eof =>
      obtain ⟨l, hl, rfl⟩ := exists_of_mapValue_eq_value hr
      exact row_of_eof hstep hc hl
    | action x => exact h.here.2.1.elim
    | map f r => exact h.here.2.1.elim
    | both r s =>
      obtain ⟨w, hw, rfl⟩ := exists_of_mapValue_eq_value hr
      obtain ⟨a, e, hfirst, hrest⟩ := exists_of_bind_eq_value hw
      obtain ⟨b, hsecond, rfl⟩ := exists_of_mapValue_eq_value hrest
      have he := ((ih h.both.1).safe.of_value hc hfirst).1
      exact ((ih h.both.1).row hc hfirst).append hstep ((ih h.both.2).row he hsecond)
    | keepLeft r s =>
      obtain ⟨a, e, hfirst, hrest⟩ := exists_of_bind_eq_value hr
      obtain ⟨b, hsecond, rfl⟩ := exists_of_mapValue_eq_value hrest
      have he := ((ih h.keepLeft.1).safe.of_value hc hfirst).1
      -- the row goes on over what the second rule has read, if it may have gaps
      have hle := ((ih h.keepLeft.2).safe.of_value he hsecond).2
      exact ((ih h.keepLeft.1).row hc hfirst).extend_back hstep
        (h.here.2.2.resolve_left id _ _ hle)
    | keepRight r s =>
      obtain ⟨a, e, hfirst, hsecond⟩ := exists_of_bind_eq_value hr
      obtain ⟨he, hle⟩ := (ih h.keepRight.1).safe.of_value hc hfirst
      exact ((ih h.keepRight.2).row he hsecond).extend_front hstep
        (h.here.2.2.resolve_left id _ _ hle)
    | choices name rs =>
      have hall : ∀ entry ∈ rs.map fun s => (s.label, run patience limit env s),
          RowsOn text step entry.2 := by
        intro entry hentry
        obtain ⟨s, hs, rfl⟩ := List.mem_map.1 hentry
        exact ih (h.choices s hs)
      obtain ⟨entry, hentry, hvalue⟩ :=
        exists_of_choices_eq_value (fun e he => (hall e he).safe) hc hr
      exact (hall entry hentry).row hc hvalue
    | many min max r =>
      obtain ⟨vs, hvs, rfl⟩ := exists_of_mapValue_eq_value hr
      exact row_of_manyFrom hstep (ih h.many) _ hc start (repeated_of_many_eq_value hc hvs)
    | seq rs =>
      obtain ⟨vs, hvs, rfl⟩ := exists_of_mapValue_eq_value hr
      refine row_of_seqFrom hstep _ ?_ ?_ hc start hvs
      · intro entry hentry
        obtain ⟨s, hs, rfl⟩ := List.mem_map.1 hentry
        exact ih (h.seq s hs)
      · intro entry hentry
        obtain ⟨s, hs, rfl⟩ := List.mem_map.1 hentry
        exact gaps_of_isIgnored ((h.seq s hs).rule.mono fun _ _ hs => hs.2.2)
    | catching handler r =>
      obtain ⟨default, rfl, hnone⟩ := h.here.2.1
      rcases hinner : (run patience limit env r).run c with ⟨o, e⟩
      cases o with
      | value w =>
        rw [layer, catching_of_value hc hinner] at hr
        cases hr
        exact (ih h.catching).row hc hinner
      | failure error =>
        -- the cursor is back where the rule began, and the default adds no location
        rw [layer, catching_of_failure hc hinner] at hr
        cases hr
        rw [hnone]
        exact hstep.refl _
      | fault f =>
        rw [layer, catching_of_fault hc hinner] at hr
        cases hr
    | named name r => exact (ih h.named).row hc hr
    | ignored r => exact (ih h.ignored).row hc hr
    | fix level d => exact (ih h.fix).row hc hr
    | ref level name =>
      obtain ⟨d, hd, hdef⟩ := h.definition h.here.1
      rw [layer, hd] at hr
      exact (ih hdef).row hc hr

/-- Let a rule have been built without functions of its own, except for defaults without locations.
If it matches from a valid cursor, and keeps the values of all rules inside it, then the locations
in its value lie side by side from where it began to where it has ended, and their characters are
together those that it has read. Whether it keeps all values or not, the locations in its value are
in order, do not overlap, and lie between where it began and where it has ended. -/
theorem run_tiles {r : Rule} (built : Everywhere WellFormed [] r)
    (gathers : Everywhere Gathers [] r) (patience limit : Nat) {c d : Cursor text} (hc : c.Valid)
    {v : Value} (h : (run patience limit [] r).run c = (.value v, d)) :
    (Everywhere KeepsAll [] r → Tiles c.pos v.locations d.pos ∧
      v.locations.flatMap Location.characters =
        (text.drop c.pos.toNat).take (d.pos - c.pos).toNat) ∧
    v.locations.Pairwise (fun l m => l.span.stop ≤ m.span.start) ∧
    ∀ l ∈ v.locations, c.pos ≤ l.span.start ∧ (l.span.stop : Int) ≤ d.pos := by
  have hall := built.and gathers
  refine ⟨fun keeps => ?_, ?_⟩
  · have hrows : Everywhere (fun env r => WellFormed env r ∧ Gathers env r ∧
        DropsInto (· = ·) env r) [] r :=
      (hall.and keeps).mono fun env s hs => ⟨hs.1.1, hs.1.2, .inl hs.2⟩
    have tiles : Tiles c.pos v.locations d.pos :=
      (run_rowsOn joins_eq (.of_everywhere hrows) patience limit).row hc h
    -- the locations are of the text itself, as those of every safe run
    have normal := gathers.mono fun _ _ hs => normal_of_gathers hs
    have own := gathers.mono fun _ _ hs => makesNoLocations_of_gathers hs
    have hend := run_locationsWithin built normal own text patience limit c hc
    rw [h] at hend
    exact ⟨tiles, tiles.flatMap_characters hc.1 fun l hl => (hend.outcome l hl).text_eq⟩
  · have hrows : Everywhere (fun env r => WellFormed env r ∧ Gathers env r ∧
        DropsInto (· ≤ ·) env r) [] r :=
      hall.mono fun env s hs => ⟨hs.1, hs.2, .inr fun _ _ hle => hle⟩
    exact ((run_rowsOn joins_le (.of_everywhere hrows) patience limit).row hc h).pairwise_of_le

/-- Words, and groups of such between parentheses with a comma before the closing one if need be, up
to the end of the text. -/
def groups : Rule :=
  .both
    (.fix 0 (.choices none [.regex "[a-z]+" fun token => token.all Char.isLower,
      .seq [.tag "(", .many 0 none (.ref 0 none), .optional .null (.tag ","), .tag ")"]]))
    .eof

/-- From behind the first character of a text, a group with another one inside it is read as nine
locations side by side, the last of them empty at the end of the text. -/
theorem groups_tile :
    Everywhere WellFormed [] groups ∧ Everywhere Gathers [] groups ∧
      Everywhere KeepsAll [] groups ∧
      ∃ (v : Value) (d : Cursor "x( a (b,) c ) ".toList),
        (run 0 20 [] groups).run ⟨1, .ofList [" "]⟩ = (.value v, d) ∧
        v.locations.map (fun l => (l.span.start, l.span.stop)) =
          [(1, 3), (3, 5), (5, 6), (6, 7), (7, 8), (8, 10), (10, 12), (12, 14), (14, 14)] ∧
        Tiles 1 v.locations 14 ∧
        v.locations.flatMap Location.characters = "( a (b,) c ) ".toList := by
  have built : Everywhere WellFormed [] groups := by simp [groups, optional, WellFormed]
  have null : ∃ default : Value, (fun _ : ParseError => Outcome.value Value.null) =
      (fun _ => .value default) ∧ default.locations = [] := ⟨.null, rfl, rfl⟩
  have gathers : Everywhere Gathers [] groups := by simpa [groups, optional, Gathers] using null
  have keeps : Everywhere KeepsAll [] groups := by simp [groups, optional, KeepsAll]
  have valid : (⟨1, .ofList [" "]⟩ : Cursor "x( a (b,) c ) ".toList).Valid := by decide
  have tiles := (run_tiles built gathers 0 20 valid rfl).1 keeps
  exact ⟨built, gathers, keeps, _, _, rfl, rfl, tiles.1, tiles.2⟩

end Rule

end Descent
