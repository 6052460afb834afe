import Descent.Proofs.Calculator.Tree
import Descent.Proofs.Primitive

/-!
# Tokens of the calculator

What the calculator's numbers and operators come to on the visible characters ahead of a cursor. A
number takes all digits there are and has their decimal value, whatever blank characters stand
between them. An operator takes one character, and the text of its location is that character.
-/

namespace Descent

/-! ## Decimal digits -/

theorem toNat_of_isDigit {x : Char} (h : x.isDigit = true) : 48 ≤ x.toNat ∧ x.toNat ≤ 57 := by
  simp only [Char.isDigit, Bool.and_eq_true, decide_eq_true_eq, ge_iff_le] at h
  exact ⟨UInt32.le_iff_toNat_le.1 h.1, UInt32.le_iff_toNat_le.1 h.2⟩

theorem digitValue?_of_isDigit {x : Char} (h : x.isDigit = true) :
    digitValue? x = some (x.toNat - '0'.toNat) := by
  have hx := toNat_of_isDigit h
  have hfound : (decide (48 ≤ x.toNat) && decide (x.toNat < 48 + 10)) = true := by
    simp only [Bool.and_eq_true, decide_eq_true_eq]
    omega
  -- the digits of ASCII come first among those of all scripts
  have hfirst : ∀ rest : List Nat,
      (48 :: rest).find? (fun z => decide (z ≤ x.toNat) && decide (x.toNat < z + 10)) =
        some 48 := by
    intro rest
    rw [List.find?_cons, hfound]
  exact congrArg (Option.map _) (hfirst _)

/-- A digit is not white space. -/
theorem isSpace_of_isDigit {x : Char} (h : x.isDigit = true) : isSpace x = false := by
  have hx := toNat_of_isDigit h
  have hlow : ∀ n, n ≤ 48 → decide (n ≤ x.toNat) = true := by
    intro n hn
    rw [decide_eq_true_eq]
    omega
  have hhigh : decide (133 ≤ x.toNat) = false := by
    rw [decide_eq_false_iff_not]
    omega
  simp only [isSpace, spaces, CharSet.contains, CharSet.holds, hhigh, Bool.false_and]
  rw [hlow 9 (by decide), hlow 14 (by decide), hlow 28 (by decide), hlow 33 (by decide)]
  rfl

theorem surroundsInteger_of_isDigit {x : Char} (h : x.isDigit = true) :
    surroundsInteger x = false := by
  have hx := toNat_of_isDigit h
  have hascii : isAsciiSpace x = false := by
    have hne : (x == ' ') = false := by
      rw [beq_eq_false_iff_ne]
      rintro rfl
      exact absurd h (by decide)
    have hhigh : decide (x.toNat ≤ 13) = false := by
      rw [decide_eq_false_iff_not]
      omega
    rw [isAsciiSpace, hne, hhigh, Bool.and_false, Bool.or_false]
  rw [surroundsInteger, hascii, isSpace_of_isDigit h, Bool.and_false, Bool.or_false]

/-- Digits are read as the number that they make with those read before. -/
theorem readDigits_of_isDigit {digits : List Char} (h : ∀ x ∈ digits, x.isDigit = true)
    (acc : Nat) :
    readDigits acc digits =
      some (digits.foldl (fun n d => n * 10 + (d.toNat - '0'.toNat)) acc) := by
  induction digits generalizing acc with
  | nil => rfl
  | cons x more ih =>
    have hx := h x List.mem_cons_self
    have hne : x ≠ '_' := by
      rintro rfl
      exact absurd hx (by decide)
    rw [readDigits.eq_3 acc x more fun y rest heq _ => hne heq, digitValue?_of_isDigit hx]
    exact ih (fun y hy => h y (List.mem_cons_of_mem x hy)) _

namespace Calculator

/-- A numeral is read as the number with its digits. -/
theorem readInteger_of_isNumeral {digits : List Char} (h : isNumeral digits = true) :
    readInteger digits = some (decimal digits : Int) := by
  rw [isNumeral, Bool.and_eq_true, List.all_eq_true] at h
  obtain ⟨hne, hall⟩ := h
  rw [readInteger, trimBoth_eq_self fun x hx => surroundsInteger_of_isDigit (hall x hx)]
  cases digits with
  | nil => cases hne
  | cons x more =>
    have hx := hall x List.mem_cons_self
    have hminus : x ≠ '-' := by
      rintro rfl
      exact absurd hx (by decide)
    have hplus : x ≠ '+' := by
      rintro rfl
      exact absurd hx (by decide)
    have hmore := readDigits_of_isDigit (fun y hy => hall y (List.mem_cons_of_mem x hy))
      (x.toNat - '0'.toNat)
    rw [readSigned.eq_3 _ (fun rest heq => hminus (List.cons.inj heq).1)
      (fun rest heq => hplus (List.cons.inj heq).1), readNatural, digitValue?_of_isDigit hx]
    simp only [hmore, decimal, List.foldl_cons, Nat.zero_mul, Nat.zero_add]
    rfl

/-! ## Blank characters -/

theorem skips_iff {x : Char} :
    grammar.blanks.skips x = true ↔ x = ' ' ∨ x = '\t' ∨ x = '\r' ∨ x = '\n' := by
  have hentries : grammar.blanks.entries = ["\t", "\n", "\r", " "] := by decide
  rw [Blanks.skips, hentries]
  simp only [List.any_cons, List.any_nil, Bool.or_false, Bool.or_eq_true, beq_iff_eq]
  constructor
  · rintro (h | h | h | h)
    · exact .inr (.inl (List.cons.inj h).1.symm)
    · exact .inr (.inr (.inr (List.cons.inj h).1.symm))
    · exact .inr (.inr (.inl (List.cons.inj h).1.symm))
    · exact .inl (List.cons.inj h).1.symm
  · rintro (rfl | rfl | rfl | rfl)
    · exact .inr (.inr (.inr rfl))
    · exact .inl rfl
    · exact .inr (.inr (.inl rfl))
    · exact .inr (.inl rfl)

/-- Blank characters are single ones, so those skipped are those trimmed. -/
theorem trims_eq_skips : grammar.blanks.trims = grammar.blanks.skips := by
  have hsingle : ∀ e ∈ grammar.blanks.entries, e.length = 1 := by decide
  funext x
  exact (Blanks.skips_eq_trims hsingle x).symm

theorem isSpace_of_skips {x : Char} (h : grammar.blanks.skips x = true) : isSpace x = true := by
  rcases skips_iff.1 h with rfl | rfl | rfl | rfl <;> decide

/-- Without white space, a text whose visible characters are digits has these only. -/
theorem filter_isSpace {l : List Char}
    (h : ∀ x ∈ visible grammar.blanks.skips l, x.isDigit = true) :
    l.filter (fun x => !isSpace x) = visible grammar.blanks.skips l := by
  refine List.filter_congr fun x hx => ?_
  cases hskip : grammar.blanks.skips x with
  | true => rw [isSpace_of_skips hskip]
  | false =>
    have hvisible : x ∈ visible grammar.blanks.skips l := by
      rw [visible, List.mem_filter, hskip]
      exact ⟨hx, rfl⟩
    rw [isSpace_of_isDigit (h x hvisible)]

/-! ## Numbers -/

variable {text : List Char} {c : Cursor text}

/-- What matches a number. -/
def numberAction : Action Value :=
  ((Action.regex "[0-9]+" isNumeral).mapValue .location).transform
    (Transform.onLocation · fun l => Value.squeezedIntegerOf none l.lexeme)

/-- A numeral takes all the digits ahead. -/
theorem tokenLength_isNumeral {token : List Char} (h : ∀ x ∈ token, x.isDigit = true)
    (ahead : List Char) :
    tokenLength isNumeral token ahead = (ahead.takeWhile Char.isDigit).length := by
  induction ahead generalizing token with
  | nil => rfl
  | cons x more ih =>
    have hmore : isNumeral (token ++ [x]) = x.isDigit := by
      have hall : token.all Char.isDigit = true := List.all_eq_true.2 h
      simp [isNumeral, hall]
    rw [tokenLength, hmore]
    cases hx : x.isDigit with
    | true =>
      rw [if_pos rfl, List.takeWhile_cons_of_pos hx, List.length_cons, ih]
      intro y hy
      rcases List.mem_append.1 hy with hy | hy
      · exact h y hy
      · rw [List.mem_singleton.1 hy]
        exact hx
    | false => rw [if_neg Bool.false_ne_true, List.takeWhile_cons_of_neg (by simp [hx])]; rfl

/-- The text of the next visible characters, without blank ones at its ends, has these visible
characters. -/
theorem visible_lexeme (hb : c.blanks = grammar.blanks) (k : Nat) :
    visible grammar.blanks.skips (c.stretch (c.gap k)).lexeme.toList = c.visible.take k := by
  show visible _ (String.ofList (trimBoth c.blanks.trims (c.rest.take (c.gap k)))).toList = _
  rw [String.toList_ofList, hb, trims_eq_skips, visible_trimBoth, Cursor.gap, hb,
    visible_take_offset, Cursor.visible, hb]

/-- Where a digit comes next, a number takes all digits and has their decimal value. -/
theorem numberAction_of_digits (hc : c.Valid) (hb : c.blanks = grammar.blanks) (n : Numeral)
    {rest : List Char} (hv : c.visible = n.digits ++ rest) (hrest : Stops .factor rest) :
    numberAction.run c = (.value (.int (decimal n.digits)), c.onto n.digits.length) := by
  have hnum := n.isNumeral
  rw [isNumeral, Bool.and_eq_true, List.all_eq_true] at hnum
  have htake : c.visible.takeWhile Char.isDigit = n.digits := by
    rw [hv, List.takeWhile_append_of_pos hnum.2]
    cases rest with
    | nil => rw [List.takeWhile_nil, List.append_nil]
    | cons x more =>
      have hx : x.isDigit = false := hrest x rfl
      rw [List.takeWhile_cons_of_neg (by simp [hx]), List.append_nil]
  have hlen : tokenLength isNumeral [] c.visible = n.digits.length := by
    rw [tokenLength_isNumeral (fun x hx => by cases hx), htake]
  have hpos : n.digits.length ≠ 0 := by
    intro hzero
    rw [List.length_eq_zero_iff.1 hzero] at hnum
    exact absurd hnum.1 (by decide)
  have hlexeme : visible grammar.blanks.skips (c.stretch (c.gap n.digits.length)).lexeme.toList =
      n.digits := by
    rw [visible_lexeme hb, hv, List.take_left]
  have hregex := Action.regex_of_valid hc "[0-9]+" isNumeral
  rw [hlen, if_neg hpos] at hregex
  rw [numberAction, Action.transform_of_value (Action.mapValue_of_value hregex)]
  simp only [Transform.onLocation, Value.squeezedIntegerOf, Value.integerOf]
  rw [filter_isSpace (by rw [hlexeme]; exact hnum.2), hlexeme, String.toList_ofList,
    parseInteger_none_eq_ok_iff.2 (readInteger_of_isNumeral n.isNumeral)]

/-- Where no digit comes next, a number fails on the spot. -/
theorem numberAction_of_no_digit (hc : c.Valid) (h : Stops .factor c.visible) :
    ∃ e, numberAction.run c = (.failure e, c) := by
  have hlen : tokenLength isNumeral [] c.visible = 0 := by
    rw [tokenLength_isNumeral (fun x hx => by cases hx)]
    cases hv : c.visible with
    | nil => rfl
    | cons x more =>
      have hx : x.isDigit = false := h x (by rw [hv]; rfl)
      rw [List.takeWhile_cons_of_neg (by simp [hx])]
      rfl
  have hregex := Action.regex_of_valid hc "[0-9]+" isNumeral
  rw [hlen, if_pos rfl] at hregex
  exact ⟨_, Action.transform_of_failure (Action.mapValue_of_failure hregex)⟩

/-! ## Single characters -/

/-- What matches a literal, for its location. -/
def tagAction (literal : String) : Action Value := (Action.tag literal).mapValue .location

theorem agreement_singleton (x : Char) (ahead : List Char) :
    agreement [x] ahead = if ahead.head? = some x then 1 else 0 := by
  cases ahead with
  | nil => rfl
  | cons y more =>
    by_cases hxy : x = y
    · subst hxy
      rw [agreement, if_pos rfl, List.head?_cons, if_pos rfl]
      cases more <;> rfl
    · rw [agreement, if_neg hxy, List.head?_cons, if_neg fun h => hxy (Option.some.inj h).symm]

/-- A literal of one character matches where it comes next. -/
theorem tagAction_of_head (hc : c.Valid) (literal : String) {x : Char}
    (hx : literal.toList = [x]) (h : c.visible.head? = some x) :
    (tagAction literal).run c = (.value (.location (c.stretch (c.gap 1))), c.onto 1) := by
  have hne : literal.toList ≠ [] := by rw [hx]; exact List.cons_ne_nil x []
  have htag := Action.tag_of_valid hc hne
  rw [hx, agreement_singleton, if_pos h, Action.tagOutcome, if_pos (by rw [hx]; rfl)] at htag
  exact Action.mapValue_of_value htag

/-- A literal of one character fails where another one comes next. -/
theorem tagAction_of_not_head (hc : c.Valid) (literal : String) {x : Char}
    (hx : literal.toList = [x]) (h : c.visible.head? ≠ some x) :
    ∃ e, (tagAction literal).run c = (.failure e, c.onto 0) := by
  have hne : literal.toList ≠ [] := by rw [hx]; exact List.cons_ne_nil x []
  have htag := Action.tag_of_valid hc hne
  rw [hx, agreement_singleton, if_neg h, Action.tagOutcome,
    if_neg (by rw [hx]; exact Nat.zero_ne_one)] at htag
  exact ⟨_, Action.mapValue_of_failure htag⟩

/-- The location of one visible character has that character as its text. -/
theorem lexeme_of_head (hb : c.blanks = grammar.blanks) {x : Char}
    (h : c.visible.head? = some x) : (c.stretch (c.gap 1)).lexeme = String.singleton x := by
  obtain ⟨more, hv⟩ := List.head?_eq_some_iff.1 h
  have hone : visible grammar.blanks.skips (c.rest.take (c.gap 1)) = [x] := by
    rw [Cursor.gap, hb, visible_take_offset, ← hb, ← Cursor.visible, hv]
    rfl
  show String.ofList (trimBoth c.blanks.trims (c.rest.take (c.gap 1))) = _
  rw [hb, trims_eq_skips, trimBoth_of_visible_eq_singleton hone]
  rfl

/-! ## Choices between two -/

section Pairs

variable {α : Type} {x y : Action α} {label label' : String} {d d' : Cursor text}

/-- The first alternative ends the choice unless it fails. -/
theorem choices_of_first (hc : c.Valid) {o : Outcome α} (hx : x.run c = (o, d))
    (ho : ∀ e, o ≠ .failure e) (rest : List (String × Action α)) :
    (Action.choices ((label, x) :: rest)).run c = (o, d) := by
  rw [Action.choices_of_valid hc]
  cases o with
  | value a => exact Action.choicesFrom_cons_of_value hx
  | failure e => exact absurd rfl (ho e)
  | fault f => exact Action.choicesFrom_cons_of_fault hx

/-- After a failure the second alternative ends the choice unless it fails too. -/
theorem choices_of_second (hc : c.Valid) {e : ParseError} (hx : x.run c = (.failure e, d))
    (hd : d.blanks = c.blanks) {o : Outcome α} (hy : y.run c = (o, d')) (ho : ∀ e, o ≠ .failure e) :
    (Action.choices [(label, x), (label', y)]).run c = (o, d') := by
  have hback : d.moveTo c.pos = c := Cursor.eq_of_pos_eq rfl hd
  rw [Action.choices_of_valid hc, Action.choicesFrom_cons_of_failure hx]
  cases o with
  | value a => exact Action.choicesFrom_cons_of_value (by rw [hback, hy])
  | failure e => exact absurd rfl (ho e)
  | fault f => exact Action.choicesFrom_cons_of_fault (by rw [hback, hy])

/-- A choice between two that fail fails on the spot. -/
theorem choices_of_failures (hc : c.Valid) {e e' : ParseError} (hx : x.run c = (.failure e, d))
    (hd : d.blanks = c.blanks) (hy : y.run c = (.failure e', d')) (hd' : d'.blanks = c.blanks) :
    ∃ e, (Action.choices [(label, x), (label', y)]).run c = (.failure e, c) := by
  have hback : d.moveTo c.pos = c := Cursor.eq_of_pos_eq rfl hd
  have hback' : d'.moveTo c.pos = c := Cursor.eq_of_pos_eq rfl hd'
  have hfar : c.pos ≤ max (max c.pos d.pos) d'.pos := by omega
  rw [Action.choices_of_valid hc, Action.choicesFrom_cons_of_failure hx,
    Action.choicesFrom_cons_of_failure (by rw [hback, hy])]
  simp only [Action.choicesFrom, Cursor.locate_of_pos_le hc hd' hfar, hback']
  exact ⟨_, rfl⟩

end Pairs

/-! ## Operators -/

/-- The literals of a chain's operators. -/
def Chain.signs : Chain → String × String
  | .product => ("*", "/")
  | .sum => ("+", "-")

/-- What matches an operator of a chain. -/
def operatorAction (chain : Chain) : Action Value :=
  Action.choices
    [(chain.signs.1, tagAction chain.signs.1), (chain.signs.2, tagAction chain.signs.2)]

/-- Where an operator of the chain comes next, it is matched, with its character as its text. -/
theorem operatorAction_of_symbol (hc : c.Valid) (hb : c.blanks = grammar.blanks) {chain : Chain}
    (op : Operator chain) (h : c.visible.head? = some op.symbol) :
    ∃ l : Location, (operatorAction chain).run c = (.value (.location l), c.onto 1) ∧
      l.lexeme = String.singleton op.symbol := by
  refine ⟨c.stretch (c.gap 1), ?_, lexeme_of_head hb h⟩
  have second : ∀ {first sign : String} {x y : Char}, first.toList = [x] → sign.toList = [y] →
      x ≠ y → c.visible.head? = some y →
      (Action.choices [(first, tagAction first), (sign, tagAction sign)]).run c =
        (.value (.location (c.stretch (c.gap 1))), c.onto 1) := by
    intro first sign x y hfirst hsign hne hy
    have hx : c.visible.head? ≠ some x := by
      rw [hy]
      exact fun heq => hne (Option.some.inj heq).symm
    obtain ⟨e, he⟩ := tagAction_of_not_head hc first hfirst hx
    exact choices_of_second hc he (c.blanks_onto 0) (tagAction_of_head hc sign hsign hy) (by simp)
  cases op with
  | times => exact choices_of_first hc (tagAction_of_head hc _ rfl h) (by simp) _
  | dividedBy => exact second rfl rfl (by decide) h
  | plus => exact choices_of_first hc (tagAction_of_head hc _ rfl h) (by simp) _
  | minus => exact second rfl rfl (by decide) h

/-- Where no operator of the chain comes next, none is matched. -/
theorem operatorAction_of_ne (hc : c.Valid) {chain : Chain}
    (h : ∀ op : Operator chain, c.visible.head? ≠ some op.symbol) :
    ∃ e, (operatorAction chain).run c = (.failure e, c) := by
  cases chain with
  | product =>
    obtain ⟨e, he⟩ := tagAction_of_not_head hc "*" rfl (h .times)
    obtain ⟨e', he'⟩ := tagAction_of_not_head hc "/" rfl (h .dividedBy)
    exact choices_of_failures hc he (c.blanks_onto 0) he' (c.blanks_onto 0)
  | sum =>
    obtain ⟨e, he⟩ := tagAction_of_not_head hc "+" rfl (h .plus)
    obtain ⟨e', he'⟩ := tagAction_of_not_head hc "-" rfl (h .minus)
    exact choices_of_failures hc he (c.blanks_onto 0) he' (c.blanks_onto 0)

end Calculator

end Descent
