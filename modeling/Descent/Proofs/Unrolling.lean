import Descent.Proofs.Limits
import Descent.Proofs.Everywhere

/-!
# Recursive definitions are fixed points

A recursive definition does the same as its body with the finished definition in place of the
references to it, only that the one may need more depth than the other. The two bodies are the same
rule up to these places (`Rule.Unrolls`), where both call the definition, and up to the levels of
what is defined inside them. Since the name of a definition is also that of the references to it,
messages speak of the same rules; a definition without a name of its own must not get one from its
body for that.
-/

namespace Descent

namespace Rule

open Descent.Action

variable {patience : Nat}

/-! ## Unrolled rules -/

/-- A rule under a name, if there is one. -/
def titled : Option String → Rule → Rule
  | some name, r => .named name r
  | none, r => r

@[simp] theorem name_titled (name : Option String) (r : Rule) :
    (titled name r).name = name.or r.name := by
  cases name <;> rfl

@[simp] theorem isIgnored_titled (name : Option String) (r : Rule) :
    (titled name r).isIgnored = r.isIgnored := by
  cases name <;> rfl

/-- Two rules are the same, except that where the first refers to the definition at a level, by its
name, the second has the finished definition with the body `b`. What is defined inside the first is
one level further inside than in the second. -/
inductive Unrolls (level : Nat) (name : Option String) (b : Rule) : Rule → Rule → Prop
  | hole : Unrolls level name b (.ref level name) (titled name (.fix level b))
  | outerRef {l : Nat} {announced : Option String} (h : l < level) :
      Unrolls level name b (.ref l announced) (.ref l announced)
  | outerFix {l : Nat} {d : Rule} (h : l ≤ level) : Unrolls level name b (.fix l d) (.fix l d)
  | innerRef {j : Nat} {announced : Option String} :
      Unrolls level name b (.ref (level + j + 1) announced) (.ref (level + j) announced)
  | innerFix {j : Nat} {r s : Rule} (h : Unrolls level name b r s) :
      Unrolls level name b (.fix (level + j + 1) r) (.fix (level + j) s)
  | tag {literal : String} : Unrolls level name b (.tag literal) (.tag literal)
  | regex {pattern : String} {accepts : List Char → Bool} :
      Unrolls level name b (.regex pattern accepts) (.regex pattern accepts)
  | eof : Unrolls level name b .eof .eof
  | action {x : Action Value} : Unrolls level name b (.action x) (.action x)
  | map {f : Value → Outcome Value} {r s : Rule} (h : Unrolls level name b r s) :
      Unrolls level name b (.map f r) (.map f s)
  | both {r s r' s' : Rule} (h : Unrolls level name b r s) (h' : Unrolls level name b r' s') :
      Unrolls level name b (.both r r') (.both s s')
  | keepLeft {r s r' s' : Rule} (h : Unrolls level name b r s)
      (h' : Unrolls level name b r' s') : Unrolls level name b (.keepLeft r r') (.keepLeft s s')
  | keepRight {r s r' s' : Rule} (h : Unrolls level name b r s)
      (h' : Unrolls level name b r' s') : Unrolls level name b (.keepRight r r') (.keepRight s s')
  | choices {title : Option String} {ps : List (Rule × Rule)}
      (h : ∀ p ∈ ps, Unrolls level name b p.1 p.2) :
      Unrolls level name b (.choices title (ps.map Prod.fst)) (.choices title (ps.map Prod.snd))
  | many {min : Int} {max : Option Int} {r s : Rule} (h : Unrolls level name b r s) :
      Unrolls level name b (.many min max r) (.many min max s)
  | seq {ps : List (Rule × Rule)} (h : ∀ p ∈ ps, Unrolls level name b p.1 p.2) :
      Unrolls level name b (.seq (ps.map Prod.fst)) (.seq (ps.map Prod.snd))
  | catching {handler : ParseError → Outcome Value} {r s : Rule} (h : Unrolls level name b r s) :
      Unrolls level name b (.catching handler r) (.catching handler s)
  | named {title : String} {r s : Rule} (h : Unrolls level name b r s) :
      Unrolls level name b (.named title r) (.named title s)
  | ignored {r s : Rule} (h : Unrolls level name b r s) :
      Unrolls level name b (.ignored r) (.ignored s)

namespace Unrolls

variable {level : Nat} {name : Option String} {b r s : Rule}

theorem orElse {r' s' : Rule} (h : Unrolls level name b r s) (h' : Unrolls level name b r' s') :
    Unrolls level name b (r.orElse r') (s.orElse s') := by
  have hall : ∀ p ∈ [(r, s), (r', s')], Unrolls level name b p.1 p.2 := by simp [h, h']
  exact .choices hall

/-- Messages speak of both rules by the same name, if a definition that is given none has none. -/
theorem name_eq (h : Unrolls level name b r s) (hname : name = none → b.name = none) :
    s.name = r.name := by
  induction h with
  | hole => cases name <;> simp_all [Rule.name]
  | _ => simp_all [Rule.name]

theorem label_eq (h : Unrolls level name b r s) (hname : name = none → b.name = none) :
    s.label = r.label := by
  rw [label, label, h.name_eq hname]

/-- A sequence drops the values of both rules or of none, if the definition is not an ignored one:
a reference to it is not. -/
theorem isIgnored_eq (h : Unrolls level name b r s) (hb : b.isIgnored = false) :
    s.isIgnored = r.isIgnored := by
  induction h <;> simp_all [isIgnored]

/-- A rule that stands outside the definition is not changed. -/
theorem of_wellFormed {env : List Rule} (h : Everywhere WellFormed env r)
    (henv : env.length ≤ level) : Unrolls level name b r r := by
  induction h with
  | @intro env r here inside ih =>
    have part : ∀ {s : Rule}, (env, s) ∈ parts env r → Unrolls level name b s s :=
      fun hs => ih _ hs henv
    have all : ∀ {rs : List Rule}, (∀ s ∈ rs, (env, s) ∈ parts env r) →
        ∀ p ∈ rs.map fun s => (s, s), Unrolls level name b p.1 p.2 := by
      intro rs hrs p hp
      obtain ⟨s, hs, rfl⟩ := List.mem_map.1 hp
      exact part (hrs s hs)
    cases r with
    | tag literal => exact .tag
    | regex pattern accepts => exact .regex
    | eof => exact .eof
    | action x => exact .action
    | map f s => exact .map (part (by simp [parts]))
    | both s t => exact .both (part (by simp [parts])) (part (by simp [parts]))
    | keepLeft s t => exact .keepLeft (part (by simp [parts])) (part (by simp [parts]))
    | keepRight s t => exact .keepRight (part (by simp [parts])) (part (by simp [parts]))
    | choices title rs =>
      have h : Unrolls level name b (.choices title _) (.choices title _) :=
        .choices (all fun s hs => List.mem_map_of_mem hs)
      simpa [Function.comp_def] using h
    | many min max s => exact .many (part (by simp [parts]))
    | seq rs =>
      have h := Unrolls.seq (all fun s hs => List.mem_map_of_mem hs)
      simpa [Function.comp_def] using h
    | catching handler s => exact .catching (part (by simp [parts]))
    | named title s => exact .named (part (by simp [parts]))
    | ignored s => exact .ignored (part (by simp [parts]))
    | fix l d => exact .outerFix (Nat.le_trans here henv)
    | ref l announced => exact .outerRef (Nat.lt_of_lt_of_le here henv)

end Unrolls

/-! ## Runs of unrolled rules -/

section Step

variable {base : List Rule} {name : Option String} {b r s : Rule}

/-- The second rules of pairs go by what the first ones are known by, if it is the same. -/
theorem map_map_snd_eq {κ : Type} {key : Rule → κ} {qs : List (Rule × Rule)}
    (hkey : ∀ q ∈ qs, key q.2 = key q.1) (f : Rule → Action Value) :
    (qs.map Prod.snd).map (fun s => (key s, f s)) = qs.map fun q => (key q.1, f q.2) := by
  rw [List.map_map]
  refine List.map_congr_left fun q hq => ?_
  rw [Function.comp_apply, hkey q hq]

/-- A rule and what it unrolls to do the same, up to depth, if what they call does: corresponding
rules, each inside the definitions around the recursive one and those inside it, and the same rules
among the same definitions. Where the definition is called, this is asked for as well. -/
theorem layer_unrolls {f f' g g' : List Rule → Rule → Action Value}
    (hname : name = none → b.name = none) (hb : b.isIgnored = false)
    (hcall : ∀ ps : List (Rule × Rule), (∀ p ∈ ps, Unrolls base.length name b p.1 p.2) →
      ∀ r s, Unrolls base.length name b r s →
        Below .tooDeep (f (base ++ b :: ps.map Prod.fst) r) (g (base ++ ps.map Prod.snd) s) ∧
        Below .tooDeep (g' (base ++ ps.map Prod.snd) s) (f' (base ++ b :: ps.map Prod.fst) r))
    (hsame : ∀ env r, Below .tooDeep (f env r) (g env r) ∧ Below .tooDeep (g' env r) (f' env r))
    (hhole : ∀ env : List Rule, env.take base.length = base →
      Below .tooDeep (f (base ++ [b]) b)
        (layer patience g env (titled name (.fix base.length b))) ∧
      Below .tooDeep (layer patience g' env (titled name (.fix base.length b)))
        (f' (base ++ [b]) b))
    (h : Unrolls base.length name b r s) (ps : List (Rule × Rule))
    (hps : ∀ p ∈ ps, Unrolls base.length name b p.1 p.2) :
    Below .tooDeep (layer patience f (base ++ b :: ps.map Prod.fst) r)
        (layer patience g (base ++ ps.map Prod.snd) s) ∧
      Below .tooDeep (layer patience g' (base ++ ps.map Prod.snd) s)
        (layer patience f' (base ++ b :: ps.map Prod.fst) r) := by
  have part : ∀ {r s : Rule}, Unrolls base.length name b r s → _ := fun h => hcall ps hps _ _ h
  have inside : ∀ (rest : List Rule) (n : Nat),
      (base ++ rest).take (base.length + n) = base ++ rest.take n :=
    fun rest n => List.take_length_add_append n
  cases h with
  | hole =>
    have hfirst : (base ++ b :: ps.map Prod.fst)[base.length]? = some b := by simp
    simp only [layer, hfirst, inside, List.take_succ_cons, List.take_zero]
    exact hhole _ (by simp)
  | @outerRef l announced hl =>
    have hget : ∀ rest : List Rule, (base ++ rest)[l]? = base[l]? :=
      fun rest => List.getElem?_append_left hl
    have htake : ∀ rest : List Rule, (base ++ rest).take (l + 1) = base.take (l + 1) :=
      fun rest => List.take_append_of_le_length hl
    simp only [layer, hget, htake]
    cases base[l]? with
    | none => exact ⟨.refl _, .refl _⟩
    | some d => exact hsame _ d
  | @outerFix l d hl =>
    have htake : ∀ rest : List Rule, (base ++ rest).take l = base.take l :=
      fun rest => List.take_append_of_le_length hl
    simp only [layer, htake]
    exact hsame _ d
  | @innerRef j announced =>
    -- the definition inside the recursive one is that of a pair, with the pairs up to it around it
    have hget : ∀ (rest : List Rule) (n : Nat), (base ++ rest)[base.length + n]? = rest[n]? := by
      intro rest n
      rw [List.getElem?_append_right (by omega), Nat.add_sub_cancel_left]
    simp only [layer, Nat.add_assoc, hget, inside, List.getElem?_cons_succ, List.take_succ_cons,
      List.getElem?_map, ← List.map_take]
    cases hp : ps[j]? with
    | none => exact ⟨.refl _, .refl _⟩
    | some p =>
      exact hcall _ (fun q hq => hps q (List.mem_of_mem_take hq)) _ _
        (hps p (List.mem_of_getElem? hp))
  | @innerFix j r s h =>
    have hinner : ∀ p ∈ ps.take j ++ [(r, s)], Unrolls base.length name b p.1 p.2 := by
      intro p hp
      rcases List.mem_append.1 hp with hp | hp
      · exact hps p (List.mem_of_mem_take hp)
      · exact List.mem_singleton.1 hp ▸ h
    simpa [layer, Nat.add_assoc, inside] using hcall _ hinner r s h
  | tag => exact ⟨.refl _, .refl _⟩
  | regex => exact ⟨.refl _, .refl _⟩
  | eof => exact ⟨.refl _, .refl _⟩
  | action => exact ⟨.refl _, .refl _⟩
  | map h => exact ⟨(part h).1.transform _, (part h).2.transform _⟩
  | both h h' =>
    exact ⟨((part h).1.both (part h').1).mapValue _, ((part h).2.both (part h').2).mapValue _⟩
  | keepLeft h h' => exact ⟨(part h).1.keepLeft (part h').1, (part h).2.keepLeft (part h').2⟩
  | keepRight h h' => exact ⟨(part h).1.keepRight (part h').1, (part h).2.keepRight (part h').2⟩
  | @choices title qs h =>
    have hlabel := map_map_snd_eq fun q hq => (h q hq).label_eq hname
    simp only [layer, hlabel, List.map_map]
    exact ⟨.choices _ qs fun q hq => (part (h q hq)).1, .choices _ qs fun q hq => (part (h q hq)).2⟩
  | many h =>
    constructor
    · exact ((part h).1.many (.inl rfl) _ _).mapValue _
    · exact ((part h).2.many (.inl rfl) _ _).mapValue _
  | @seq qs h =>
    have hignored := map_map_snd_eq fun q hq => (h q hq).isIgnored_eq hb
    simp only [layer, hignored, List.map_map]
    constructor
    · exact (Below.seqFrom _ qs (fun q hq => (part (h q hq)).1) []).mapValue _
    · exact (Below.seqFrom _ qs (fun q hq => (part (h q hq)).2) []).mapValue _
  | catching h => exact ⟨(part h).1.catching _, (part h).2.catching _⟩
  | named h => exact part h
  | ignored h => exact part h

/-- A name makes a rule need at most one more level of depth. -/
theorem run_below_titled (n : Nat) (env : List Rule) (name : Option String) (r : Rule) :
    Below .tooDeep (run patience n env r) (run patience (n + 1) env (titled name r)) := by
  cases name with
  | some title => exact .refl _
  | none => exact run_below (Nat.le_succ n) env r

theorem run_titled_below (n : Nat) (env : List Rule) (name : Option String) (r : Rule) :
    Below .tooDeep (run patience n env (titled name r)) (run patience n env r) := by
  cases name with
  | some title => exact run_below_layer n env (.named title r)
  | none => exact .refl _

/-- A rule and what it unrolls to do the same, up to depth, of which what it unrolls to may need one
level more: there the finished definition is called in two steps instead of one. -/
theorem run_unrolls (hname : name = none → b.name = none) (hb : b.isIgnored = false)
    (patience limit : Nat)
    (h : Unrolls base.length name b r s) (ps : List (Rule × Rule))
    (hps : ∀ p ∈ ps, Unrolls base.length name b p.1 p.2) :
    Below .tooDeep (run patience limit (base ++ b :: ps.map Prod.fst) r)
        (run patience (limit + 1) (base ++ ps.map Prod.snd) s) ∧
      Below .tooDeep (run patience limit (base ++ ps.map Prod.snd) s)
        (run patience limit (base ++ b :: ps.map Prod.fst) r) := by
  induction limit generalizing r s ps with
  | zero => exact ⟨fault_below _, fault_below _⟩
  | succ limit ih =>
    refine layer_unrolls hname hb (fun ps hps r s h => ih h ps hps) (fun env r => ?_)
      (fun env henv => ?_) h ps hps
    · exact ⟨run_below (Nat.le_succ limit) env r, .refl _⟩
    · have hfix : run patience (limit + 1) env (.fix base.length b) =
          run patience limit (base ++ [b]) b := by
        rw [run_succ, layer, henv]
      rw [← hfix]
      exact ⟨run_below_titled (limit + 1) env name _, run_titled_below (limit + 1) env name _⟩

/-- Inside `level` definitions, two rules come to the same outcomes. -/
structure SameOutcomes (level : Nat) (r s : Rule) : Prop where
  /-- Runs that do not go out of depth end alike, with the cursor at the same place. -/
  equal : ∀ (patience : Nat) (env : List Rule), env.length = level →
    ∀ {text : List Char} (c : Cursor text) n m,
      ((run patience n env r).run c).1 ≠ .fault .tooDeep →
      ((run patience m env s).run c).1 ≠ .fault .tooDeep →
      (run patience n env r).run c = (run patience m env s).run c
  /-- If some depth is enough for the one, some depth is for the other. -/
  enough : ∀ (patience : Nat) (env : List Rule), env.length = level →
    ∀ {text : List Char} (c : Cursor text),
      (∃ n, ((run patience n env r).run c).1 ≠ .fault .tooDeep) ↔
        ∃ m, ((run patience m env s).run c).1 ≠ .fault .tooDeep

/-- Rules that do the same up to depth, each with some more of it than the other, come to the same
outcomes. -/
theorem SameOutcomes.of_below {level : Nat} {r s : Rule} (k : Nat)
    (hrs : ∀ (patience : Nat) (env : List Rule), env.length = level → ∀ n,
      Below .tooDeep (run patience n env r) (run patience (n + k) env s))
    (hsr : ∀ (patience : Nat) (env : List Rule), env.length = level → ∀ n,
      Below .tooDeep (run patience n env s) (run patience (n + k) env r)) :
    SameOutcomes level r s where
  equal patience env henv text c n m hn hm := by
    have same : (run patience (n + k) env s).run c = (run patience n env r).run c :=
      (hrs patience env henv n c).resolve_left hn
    rw [← same]
    refine run_eq_run ?_ hm
    rw [same]
    exact hn
  enough patience env henv text c := by
    constructor
    · rintro ⟨n, hn⟩
      refine ⟨n + k, ?_⟩
      rw [(hrs patience env henv n c).resolve_left hn]
      exact hn
    · rintro ⟨n, hn⟩
      refine ⟨n + k, ?_⟩
      rw [(hsr patience env henv n c).resolve_left hn]
      exact hn

/-- A definition and its body with the definition in place of the references to it come to the same
outcomes. -/
theorem sameOutcomes_of_unrolls {level : Nat} (hname : name = none → b.name = none)
    (hb : b.isIgnored = false) (h : Unrolls level name b b s) :
    SameOutcomes level (titled name (.fix level b)) (titled name s) := by
  have hfix : ∀ (patience : Nat) (env : List Rule), env.length = level → ∀ n,
      run patience (n + 1) env (.fix level b) = run patience n (env ++ [b]) b := by
    intro patience env henv n
    rw [run_succ, layer, ← henv, List.take_length]
  have hbody : ∀ (patience : Nat) (env : List Rule), env.length = level → ∀ n,
      Below .tooDeep (run patience n (env ++ [b]) b) (run patience (n + 1) env s) ∧
        Below .tooDeep (run patience n env s) (run patience n (env ++ [b]) b) := by
    rintro patience env rfl n
    have hrun := run_unrolls hname hb patience n h [] (by simp)
    rwa [List.map_nil, List.map_nil, List.append_nil] at hrun
  refine .of_below 2 (fun patience env henv n => ?_) fun patience env henv n => ?_
  · cases n with
    | zero => exact fault_below _
    | succ n =>
      refine (run_titled_below (n + 1) env name _).trans ?_
      rw [hfix patience env henv]
      exact (hbody patience env henv n).1.trans <| (run_below (by omega) env s).trans
        (run_below_titled (n + 2) env name s)
  · refine (run_titled_below n env name s).trans ((hbody patience env henv n).2.trans ?_)
    rw [← hfix patience env henv]
    exact run_below_titled (n + 1) env name _

end Step

end Rule

/-! ## Building unrolled rules -/

namespace Expr

open Rule

variable {level : Nat} {name : Option String} {b : Rule}

/-- Where the first rule can be built the second can be too, and the first unrolls to it. -/
def BuiltAlike (level : Nat) (name : Option String) (b : Rule) (x y : Except Fault Rule) :
    Prop :=
  ∀ r, x = .ok r → ∃ s, y = .ok s ∧ Unrolls level name b r s

/-- The rules of all variables in the first scope unroll to those in the second. -/
def ScopesAlike (level : Nat) (name : Option String) (b : Rule)
    (scope scope' : List (String × Rule)) : Prop :=
  ∀ x r, scope.lookup x = some r → ∃ s, scope'.lookup x = some s ∧ Unrolls level name b r s

/-- A variable more, which may hide one of the same name. -/
theorem ScopesAlike.cons {scope scope' : List (String × Rule)} {r s : Rule}
    (h : ScopesAlike level name b scope scope') (x : String) (hrs : Unrolls level name b r s) :
    ScopesAlike level name b ((x, r) :: scope) ((x, s) :: scope') := by
  intro y t ht
  rw [List.lookup_cons] at ht ⊢
  split at ht
  · cases ht
    exact ⟨s, rfl, hrs⟩
  · exact h y t ht

/-- A rule around one other rule. -/
theorem BuiltAlike.wrap {wrap : Rule → Rule} {x y : Except Fault Rule}
    (hxy : BuiltAlike level name b x y)
    (hwrap : ∀ {r s}, Unrolls level name b r s → Unrolls level name b (wrap r) (wrap s)) :
    BuiltAlike level name b (do return wrap (← x)) (do return wrap (← y)) := by
  intro r h
  obtain ⟨t, ht, h⟩ := exists_of_bind_eq_ok h
  cases h
  obtain ⟨s, hs, hts⟩ := hxy t ht
  exact ⟨wrap s, by rw [hs]; rfl, hwrap hts⟩

/-- A rule around two other rules. -/
theorem BuiltAlike.join {join : Rule → Rule → Rule} {x y x' y' : Except Fault Rule}
    (hxy : BuiltAlike level name b x y) (hxy' : BuiltAlike level name b x' y')
    (hjoin : ∀ {r s r' s'}, Unrolls level name b r s → Unrolls level name b r' s' →
      Unrolls level name b (join r r') (join s s')) :
    BuiltAlike level name b (do return join (← x) (← x')) (do return join (← y) (← y')) := by
  intro r h
  obtain ⟨t, ht, h⟩ := exists_of_bind_eq_ok h
  obtain ⟨t', ht', h⟩ := exists_of_bind_eq_ok h
  cases h
  obtain ⟨s, hs, hts⟩ := hxy t ht
  obtain ⟨s', hs', hts'⟩ := hxy' t' ht'
  exact ⟨join s s', by rw [hs, hs']; rfl, hjoin hts hts'⟩

mutual

/-- An expression inside the recursive definition is built alike with a reference to it and with the
finished definition in scope. -/
theorem builtAlike_build : ∀ (e : Expr) {scope scope' : List (String × Rule)} {j : Nat},
    ScopesAlike level name b scope scope' →
      BuiltAlike level name b (e.build scope (level + j + 1)) (e.build scope' (level + j))
  | .tag literal, scope, scope', j, _ => by
    intro r h
    rw [build] at h ⊢
    split at h
    · cases h
    · cases h
      exact ⟨_, if_neg ‹_›, .tag⟩
  | .regex pattern modes, scope, scope', j, _ => by
    intro r h
    rw [build] at h ⊢
    refine ⟨r, h, ?_⟩
    rw [ofPattern] at h
    split at h
    · cases h
      exact .regex
    · cases h
  | .eof, scope, scope', j, _ => by
    intro r h
    cases h
    exact ⟨_, rfl, .eof⟩
  | .action run, scope, scope', j, _ => by
    intro r h
    cases h
    exact ⟨_, rfl, .action⟩
  | .choices title es, scope, scope', j, hscope => by
    intro r h
    rw [build] at h ⊢
    obtain ⟨rs, hrs, h⟩ := exists_of_bind_eq_ok h
    obtain ⟨ps, hps, rfl, hall⟩ := builtAlike_buildAll es hscope hrs
    split at h
    · cases h
    · next hne =>
      cases h
      refine ⟨_, ?_, .choices hall⟩
      rw [hps]
      exact if_neg (by simpa using hne)
  | .many min max e, scope, scope', j, hscope => by
    intro r h
    rw [build] at h ⊢
    obtain ⟨t, ht, h⟩ := exists_of_bind_eq_ok h
    obtain ⟨s, hs, hts⟩ := builtAlike_build e hscope t ht
    split at h
    · cases h
    · next hbounds =>
      cases h
      refine ⟨_, ?_, .many hts⟩
      rw [hs]
      exact if_neg hbounds
  | .seq es, scope, scope', j, hscope => by
    intro r h
    rw [build] at h ⊢
    obtain ⟨rs, hrs, h⟩ := exists_of_bind_eq_ok h
    obtain ⟨ps, hps, rfl, hall⟩ := builtAlike_buildAll es hscope hrs
    cases h
    exact ⟨_, by rw [hps]; rfl, .seq hall⟩
  | .recursive x title early body, scope, scope', j, hscope => by
    intro r h
    rw [build] at h ⊢
    split at h
    · cases h
    · next hearly =>
      obtain ⟨d, hd, h⟩ := exists_of_bind_eq_ok h
      obtain ⟨d', hd', hdd'⟩ := builtAlike_build body (hscope.cons x .innerRef) (j := j + 1) d hd
      rw [if_neg hearly, show level + j + 1 = level + (j + 1) from rfl, hd']
      cases title with
      | none =>
        cases h
        exact ⟨_, rfl, .innerFix hdd'⟩
      | some n =>
        cases h
        exact ⟨_, rfl, .named (.innerFix hdd')⟩
  | .bind x e body, scope, scope', j, hscope => by
    intro r h
    rw [build] at h ⊢
    obtain ⟨t, ht, h⟩ := exists_of_bind_eq_ok h
    obtain ⟨s, hs, hts⟩ := builtAlike_build e hscope t ht
    obtain ⟨u, hu, hru⟩ := builtAlike_build body (hscope.cons x hts) r h
    exact ⟨u, by rw [hs]; exact hu, hru⟩
  | .var x, scope, scope', j, hscope => by
    intro r h
    rw [build] at h ⊢
    split at h
    · next t ht =>
      cases h
      obtain ⟨s, hs, hrs⟩ := hscope x _ ht
      exact ⟨s, by rw [hs], hrs⟩
    · cases h
  | .both e f, scope, scope', j, hscope => by
    rw [build, build]
    exact (builtAlike_build e hscope).join (builtAlike_build f hscope) .both
  | .keepLeft e f, scope, scope', j, hscope => by
    rw [build, build]
    exact (builtAlike_build e hscope).join (builtAlike_build f hscope) .keepLeft
  | .keepRight e f, scope, scope', j, hscope => by
    rw [build, build]
    exact (builtAlike_build e hscope).join (builtAlike_build f hscope) .keepRight
  | .orElse e f, scope, scope', j, hscope => by
    rw [build, build]
    exact (builtAlike_build e hscope).join (builtAlike_build f hscope) .orElse
  | .map f e, scope, scope', j, hscope => by
    rw [build, build]
    exact (builtAlike_build e hscope).wrap .map
  | .catching handler e, scope, scope', j, hscope => by
    rw [build, build]
    exact (builtAlike_build e hscope).wrap .catching
  | .optional default e, scope, scope', j, hscope => by
    rw [build, build]
    exact (builtAlike_build e hscope).wrap .catching
  | .named title e, scope, scope', j, hscope => by
    rw [build, build]
    exact (builtAlike_build e hscope).wrap .named
  | .ignored e, scope, scope', j, hscope => by
    rw [build, build]
    exact (builtAlike_build e hscope).wrap .ignored

/-- The same for several expressions. -/
theorem builtAlike_buildAll : ∀ (es : List Expr) {scope scope' : List (String × Rule)} {j : Nat}
    {rs : List Rule}, ScopesAlike level name b scope scope' →
      buildAll scope (level + j + 1) es = .ok rs →
      ∃ ps : List (Rule × Rule), buildAll scope' (level + j) es = .ok (ps.map Prod.snd) ∧
        ps.map Prod.fst = rs ∧ ∀ p ∈ ps, Unrolls level name b p.1 p.2
  | [], scope, scope', j, rs, _, h => by
    cases h
    exact ⟨[], rfl, rfl, by simp⟩
  | e :: es, scope, scope', j, rs, hscope, h => by
    rw [buildAll] at h ⊢
    obtain ⟨r, hr, h⟩ := exists_of_bind_eq_ok h
    obtain ⟨rest, hrest, h⟩ := exists_of_bind_eq_ok h
    cases h
    obtain ⟨s, hs, hrs⟩ := builtAlike_build e hscope r hr
    obtain ⟨ps, hps, rfl, hall⟩ := builtAlike_buildAll es hscope hrest
    refine ⟨(r, s) :: ps, by rw [hs, hps]; rfl, rfl, ?_⟩
    exact List.forall_mem_cons.2 ⟨hrs, hall⟩

end

/-- A rule under a name, if there is one. -/
def titled : Option String → Expr → Expr
  | some name, e => .named name e
  | none, e => e

/-- In the body of a recursive rule the variable stands for a reference. If the body is not an
ignored rule, and not a named one where no name is given, then the same expression can be built with
the finished rule in place of the variable, and comes to the same outcomes. -/
theorem exists_sameOutcomes {x : String} {early : Bool} {body : Expr}
    {scope : List (String × Rule)} {d : Rule}
    (hscope : ∀ y r, scope.lookup y = some r → WellFormedFrom level r)
    (hd : (recursive x name early body).build scope level = .ok d)
    (hname : name = none → d.name = none) (kept : d.isIgnored = false) :
    ∃ u, (bind x (.recursive x name early body) (titled name body)).build scope level = .ok u ∧
      SameOutcomes level d u := by
  have hbuild := hd
  rw [build] at hbuild
  split at hbuild
  · cases hbuild
  · obtain ⟨b, hb, h⟩ := exists_of_bind_eq_ok hbuild
    obtain rfl : Rule.titled name (.fix level b) = d := by cases name <;> exact Except.ok.inj h
    have outside : ScopesAlike level name b scope scope := by
      intro y r hr
      have hlen : (List.replicate level Rule.eof).length = level := List.length_replicate
      have wellFormed := hscope y r hr _ (Nat.le_of_eq hlen.symm)
      exact ⟨r, hr, .of_wellFormed wellFormed (Nat.le_of_eq hlen)⟩
    obtain ⟨s, hs, hbs⟩ := builtAlike_build body (outside.cons x .hole) (j := 0) b hb
    have hunnamed : name = none → b.name = none := by
      rintro rfl
      exact hname rfl
    have hb : b.isIgnored = false := by rwa [isIgnored_titled] at kept
    refine ⟨Rule.titled name s, ?_, sameOutcomes_of_unrolls hunnamed hb hbs⟩
    rw [build, hd]
    cases name with
    | some title =>
      show (do return Rule.named title (← build _ level body)) = _
      rw [show build _ level body = .ok s from hs]
      rfl
    | none => exact hs

/-- A recursive rule is a fixed point. If it is not an ignored one, the same expression can be built
with the finished rule in place of the variable and under the same name, and comes to the same
outcomes: with the same value or the same error, and with the cursor at the same place. So it is
without a name, if the rule gets none from its body. -/
theorem recursive_unrolls {x : String} {early : Bool} {body : Expr} {scope : List (String × Rule)}
    {level : Nat} (hscope : ∀ y r, scope.lookup y = some r → WellFormedFrom level r) :
    (∀ (name : String) (d : Rule), d.isIgnored = false →
      (recursive x (some name) early body).build scope level = .ok d →
      ∃ u, (bind x (.recursive x (some name) early body) (.named name body)).build scope level =
          .ok u ∧ SameOutcomes level d u) ∧
    ∀ d : Rule, d.isIgnored = false → d.name = none →
      (recursive x none early body).build scope level = .ok d →
      ∃ u, (bind x (.recursive x none early body) body).build scope level = .ok u ∧
        SameOutcomes level d u := by
  refine ⟨fun name d kept hd => ?_, fun d kept unnamed hd => ?_⟩
  · exact exists_sameOutcomes hscope hd (by simp) kept
  · exact exists_sameOutcomes hscope hd (fun _ => unnamed) kept

/-- Letters `a` before a `b`, or a group of such behind a parenthesis, or a star there. The variable
of the definition inside hides that of the one around it. -/
def starred : Expr :=
  .orElse (.keepRight (.tag "(") (.orElse (.var "e") (.tag "*")))
    (.recursive "e" none false (.orElse (.keepRight (.tag "a") (.var "e")) (.tag "b")))

/-- Before `(ac` both rules fail, and the notes speak of the group inside by its name. -/
theorem starred_unrolls :
    ∃ d u, (recursive "e" (some "group") false starred).build [] 0 = .ok d ∧
      d.isIgnored = false ∧
      (bind "e" (.recursive "e" (some "group") false starred)
        (.named "group" starred)).build [] 0 = .ok u ∧
      ∃ m e, e.notes = ["<anonymous>: no match: expected one of group, *",
          "<anonymous>: no match: expected one of <anonymous>, b"] ∧
        (run 0 20 [] d).run (⟨0, .empty⟩ : Cursor ['(', 'a', 'c']) = (.failure e, ⟨0, .empty⟩) ∧
        (run 0 m [] u).run (⟨0, .empty⟩ : Cursor ['(', 'a', 'c']) = (.failure e, ⟨0, .empty⟩) := by
  have built : ∃ d, (recursive "e" (some "group") false starred).build [] 0 = .ok d ∧
      d.isIgnored = false ∧ ∃ e, e.notes = ["<anonymous>: no match: expected one of group, *",
          "<anonymous>: no match: expected one of <anonymous>, b"] ∧
        (run 0 20 [] d).run (⟨0, .empty⟩ : Cursor ['(', 'a', 'c']) = (.failure e, ⟨0, .empty⟩) :=
    ⟨_, rfl, rfl, _, by decide, rfl⟩
  obtain ⟨d, hd, kept, e, hnotes, fails⟩ := built
  obtain ⟨u, hu, same⟩ := (recursive_unrolls (by simp)).1 "group" d kept hd
  have ended : ((run 0 20 [] d).run (⟨0, .empty⟩ : Cursor ['(', 'a', 'c'])).1 ≠
      .fault .tooDeep := by
    rw [fails]
    simp
  obtain ⟨m, hm⟩ := (same.enough 0 [] rfl _).1 ⟨20, ended⟩
  refine ⟨d, u, hd, kept, hu, m, e, hnotes, fails, ?_⟩
  rw [← same.equal 0 [] rfl _ 20 m ended hm, fails]

end Expr

end Descent
