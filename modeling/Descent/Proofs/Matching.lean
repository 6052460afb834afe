import Mathlib.Order.Bounds.Basic
import Descent.Proofs.Primitive
import Descent.Rule.Run

/-!
# What literals and tokens match

Where all blank entries are single characters, what a literal and a token do from a valid cursor is
told by the visible characters ahead of it alone. A literal takes the longest beginning that it
shares with them (`Rule.run_tag_longest`), a token the longest beginning of which every stage is
accepted (`Rule.run_regex_longest`). In both cases the cursor ends on the first visible character
that is not taken, and the lexeme has the characters that are taken, from the first to the last of
them.
-/

namespace Descent

/-! ## The ends of trimmed text -/

/-- Trimmed text begins with its first visible character. -/
theorem head?_trimBoth (skips : Char → Bool) (text : List Char) :
    (trimBoth skips text).head? = (visible skips text).head? := by
  have front : trimBoth skips text <+: text.dropWhile skips := by
    rw [← List.reverse_suffix, trimBoth, List.reverse_reverse]
    exact List.dropWhile_suffix skips
  cases h : trimBoth skips text with
  | nil =>
    rw [← visible_trimBoth, h]
    rfl
  | cons x rest =>
    obtain ⟨back, hback⟩ := front
    rw [← head?_dropWhile_skips, ← hback, h]
    rfl

/-- Trimmed text ends with its last visible character. -/
theorem getLast?_trimBoth (skips : Char → Bool) (text : List Char) :
    (trimBoth skips text).getLast? = (visible skips text).getLast? := by
  rw [trimBoth, List.getLast?_reverse, head?_dropWhile_skips, visible, List.filter_reverse,
    List.head?_reverse, ← visible, visible_dropWhile]

/-! ## The longest beginnings -/

/-- No text has more of another one in common with it than it has characters. -/
theorem agreement_le_length (xs ys : List Char) : agreement xs ys ≤ xs.length := by
  induction xs generalizing ys with
  | nil => cases ys <;> exact Nat.le_refl 0
  | cons x xs ih =>
    cases ys with
    | nil => exact Nat.zero_le _
    | cons y ys =>
      rw [agreement, List.length_cons]
      split
      · exact Nat.succ_le_succ (ih ys)
      · exact Nat.zero_le _

/-- The characters that two texts agree in are the same in both. -/
theorem take_agreement (xs ys : List Char) :
    xs.take (agreement xs ys) = ys.take (agreement xs ys) := by
  induction xs generalizing ys with
  | nil => cases ys <;> rfl
  | cons x xs ih =>
    cases ys with
    | nil => rfl
    | cons y ys =>
      rw [agreement]
      split
      case isTrue hxy => rw [hxy, List.take_succ_cons, List.take_succ_cons, ih]
      case isFalse => rfl

/-- Two texts agree in every common beginning. -/
theorem length_le_agreement {t xs ys : List Char} (hx : t <+: xs) (hy : t <+: ys) :
    t.length ≤ agreement xs ys := by
  induction t generalizing xs ys with
  | nil => exact Nat.zero_le _
  | cons a t ih =>
    obtain ⟨xs, rfl⟩ := hx
    obtain ⟨ys, rfl⟩ := hy
    rw [List.cons_append, List.cons_append, agreement, if_pos rfl, List.length_cons]
    exact Nat.succ_le_succ (ih (List.prefix_append t xs) (List.prefix_append t ys))

/-- Two texts agree in their longest common beginning. -/
theorem isGreatest_agreement (xs ys : List Char) :
    IsGreatest {n | ∃ t, t <+: xs ∧ t <+: ys ∧ t.length = n} (agreement xs ys) := by
  constructor
  · refine ⟨xs.take (agreement xs ys), List.take_prefix _ _, ?_, ?_⟩
    · rw [take_agreement]
      exact List.take_prefix _ _
    · rw [List.length_take, Nat.min_eq_left (agreement_le_length xs ys)]
  · rintro n ⟨t, hx, hy, rfl⟩
    exact length_le_agreement hx hy

/-- A token takes the longest beginning of the characters ahead of which every stage is
accepted. -/
theorem isGreatest_tokenLength (accepts : List Char → Bool) (ahead : List Char) :
    IsGreatest {n | n ≤ ahead.length ∧ ∀ i, 1 ≤ i → i ≤ n → accepts (ahead.take i) = true}
      (tokenLength accepts [] ahead) := by
  constructor
  · exact ⟨tokenLength_le_length accepts [] ahead, fun i hpos hi =>
      accepts_of_le_tokenLength hpos hi⟩
  · intro n hn
    refine Nat.le_of_not_lt fun hnext => ?_
    -- the stage behind the last one of the token would be accepted
    have hno := not_accepts_of_tokenLength (Nat.lt_of_lt_of_le hnext hn.1)
    rw [List.nil_append, hn.2 _ (Nat.succ_pos _) hnext] at hno
    cases hno

/-- A token takes a character exactly if it accepts the first one by itself. -/
theorem tokenLength_eq_zero_iff {accepts : List Char → Bool} {ahead : List Char} :
    tokenLength accepts [] ahead = 0 ↔ ¬ (ahead ≠ [] ∧ accepts (ahead.take 1) = true) := by
  cases ahead with
  | nil => simp [tokenLength]
  | cons x rest => simp [tokenLength]

/-! ## Lexemes -/

namespace Cursor

variable {text : List Char} {c : Cursor text}

/-- Where blank entries are single characters, a lexeme is trimmed of the characters that are
skipped. -/
theorem lexeme_stretch (single : ∀ e ∈ c.blanks.entries, e.length = 1) (n : Nat) :
    (c.stretch n).lexeme.toList = trimBoth c.blanks.skips (c.rest.take n) := by
  have trims : c.blanks.trims = c.blanks.skips :=
    funext fun x => (Blanks.skips_eq_trims single x).symm
  rw [stretch, String.toList_ofList, trims]

/-- The visible characters of a lexeme are those that the location goes up to. -/
theorem visible_lexeme_stretch (single : ∀ e ∈ c.blanks.entries, e.length = 1) (k : Nat) :
    Descent.visible c.blanks.skips (c.stretch (c.gap k)).lexeme.toList = c.visible.take k := by
  rw [lexeme_stretch single, visible_trimBoth, gap, visible_take_offset, visible]

/-- A lexeme begins with the first of the visible characters that the location goes up to. -/
theorem head?_lexeme_stretch (single : ∀ e ∈ c.blanks.entries, e.length = 1) (k : Nat) :
    (c.stretch (c.gap k)).lexeme.toList.head? = (c.visible.take k).head? := by
  rw [lexeme_stretch single, head?_trimBoth, gap, visible_take_offset, visible]

/-- A lexeme ends with the last of the visible characters that the location goes up to. -/
theorem getLast?_lexeme_stretch (single : ∀ e ∈ c.blanks.entries, e.length = 1) (k : Nat) :
    (c.stretch (c.gap k)).lexeme.toList.getLast? = (c.visible.take k).getLast? := by
  rw [lexeme_stretch single, getLast?_trimBoth, gap, visible_take_offset, visible]

/-- No visible character is blank. -/
theorem skips_of_mem_visible {x : Char} (hx : x ∈ c.visible) : c.blanks.skips x = false := by
  simpa using (List.mem_filter.1 hx).2

end Cursor

/-- A location reaches from where a cursor stands to where another one does. -/
structure Location.Spans {text : List Char} (l : Location) (c d : Cursor text) : Prop where
  text_eq : l.text = text
  start_eq : (l.span.start : Int) = c.pos
  stop_eq : (l.span.stop : Int) = d.pos

/-- The location up to a visible character reaches from the cursor to that character. -/
theorem Cursor.stretch_spans {text : List Char} {c : Cursor text} (hc : c.Valid) (k : Nat) :
    (c.stretch (c.gap k)).Spans c (c.onto k) := by
  have hpos : ((c.pos.toNat : Nat) : Int) = c.pos := Int.toNat_of_nonneg hc.1
  refine ⟨rfl, hpos, ?_⟩
  show ((c.pos.toNat + c.gap k : Nat) : Int) = _
  rw [pos_onto]
  omega

namespace Rule

variable {text : List Char} {c : Cursor text}

/-! ## Literals -/

/-- A literal from a valid cursor agrees with the visible characters ahead in a longest common
beginning, and the cursor ends on the visible character behind it. The literal matches exactly if
the beginning is all of it, which it is not if it has a blank character. The lexeme then is the
literal, but for blank characters inside it. Otherwise the error is located at what has been read,
and tells it, or that the text has ended. -/
theorem run_tag_longest {literal : String} (hne : literal ≠ "") (patience limit : Nat)
    (env : List Rule) (hc : c.Valid) (single : ∀ e ∈ c.blanks.entries, e.length = 1) :
    ∃ k, IsGreatest {n | ∃ t, t <+: literal.toList ∧ t <+: c.visible ∧ t.length = n} k ∧
      ((∃ x ∈ literal.toList, c.blanks.skips x = true) → k ≠ literal.length) ∧
      (k = literal.length → ∃ l : Location,
        (run patience (limit + 1) env (.tag literal)).run c = (.value (.location l), c.onto k) ∧
        l.Spans c (c.onto k) ∧
        l.lexeme.toList.head? = literal.toList.head? ∧
        l.lexeme.toList.getLast? = literal.toList.getLast? ∧
        visible c.blanks.skips l.lexeme.toList = literal.toList) ∧
      (k ≠ literal.length → ∃ e : ParseError,
        (run patience (limit + 1) env (.tag literal)).run c = (.failure e, c.onto k) ∧
        e.location.Spans c (c.onto k) ∧
        visible c.blanks.skips e.location.lexeme.toList = literal.toList.take k ∧
        (e.code = .unexpectedEnd ↔ k = c.visible.length) ∧
        (k ≠ c.visible.length → e.code = .expectedLiteral ∧
          ∃ found, e.issue = .expectedLiteral literal found ∧
            visible c.blanks.skips found.toList = literal.toList.take k)) := by
  have hlist : literal.toList ≠ [] := fun hnil => hne (String.toList_eq_nil_iff.1 hnil)
  have longest := isGreatest_agreement literal.toList c.visible
  have shared := take_agreement literal.toList c.visible
  have hrun := Action.tag_of_valid hc hlist
  generalize agreement literal.toList c.visible = k at longest shared hrun
  refine ⟨k, longest, ?_, fun hk => ?_, fun hk => ?_⟩
  · -- a literal that matched would be among the visible characters
    rintro ⟨x, hx, hblank⟩ hk
    rw [← String.length_toList] at hk
    rw [hk, List.take_length] at shared
    rw [shared] at hx
    rw [Cursor.skips_of_mem_visible (List.mem_of_mem_take hx)] at hblank
    cases hblank
  · rw [← String.length_toList] at hk
    have taken : c.visible.take k = literal.toList := by rw [← shared, hk, List.take_length]
    rw [Action.tagOutcome, if_pos hk] at hrun
    refine ⟨c.stretch (c.gap k), Action.mapValue_of_value hrun, Cursor.stretch_spans hc k, ?_⟩
    rw [Cursor.head?_lexeme_stretch single, Cursor.getLast?_lexeme_stretch single,
      Cursor.visible_lexeme_stretch single, taken]
    exact ⟨rfl, rfl, rfl⟩
  · rw [← String.length_toList] at hk
    have within : k ≤ c.visible.length := by
      obtain ⟨t, -, hprefix, rfl⟩ := longest.1
      exact hprefix.length_le
    have read : visible c.blanks.skips (c.stretch (c.gap k)).lexeme.toList =
        literal.toList.take k := by
      rw [Cursor.visible_lexeme_stretch single, shared]
    rw [Action.tagOutcome, if_neg hk] at hrun
    refine ⟨_, Action.mapValue_of_failure hrun, Cursor.stretch_spans hc k, read, ?_⟩
    cases hnext : c.visible[k]? with
    | none =>
      have hend : k = c.visible.length := by
        rw [List.getElem?_eq_none_iff] at hnext
        omega
      exact ⟨iff_of_true rfl hend, fun hmore => absurd hend hmore⟩
    | some x =>
      have hmore : k ≠ c.visible.length := by
        obtain ⟨hlt, -⟩ := List.getElem?_eq_some_iff.1 hnext
        omega
      exact ⟨iff_of_false (fun h => by cases h) hmore, fun _ => ⟨rfl, _, rfl, read⟩⟩

/-- From behind the parenthesis in `( < = 1`, where blanks are skipped, `<=` is matched up to the
numeral with a blank inside, and `<<` fails on its second character. -/
theorem comparison_longest :
    "<=" ≠ "" ∧ "<<" ≠ "" ∧ (⟨1, .ofList [" "]⟩ : Cursor "( < = 1".toList).Valid ∧
      (∀ e ∈ (Blanks.ofList [" "]).entries, e.length = 1) ∧
      (∃ l : Location,
        (run 0 20 [] (.tag "<=")).run (⟨1, .ofList [" "]⟩ : Cursor "( < = 1".toList) =
          (.value (.location l), ⟨6, .ofList [" "]⟩) ∧
        visible (Blanks.ofList [" "]).skips l.lexeme.toList = ['<', '=']) ∧
      ∃ (e : ParseError) (found : String),
        (run 0 20 [] (.tag "<<")).run (⟨1, .ofList [" "]⟩ : Cursor "( < = 1".toList) =
          (.failure e, ⟨4, .ofList [" "]⟩) ∧
        e.issue = .expectedLiteral "<<" found ∧
        visible (Blanks.ofList [" "]).skips found.toList = ['<'] := by
  have valid : (⟨1, .ofList [" "]⟩ : Cursor "( < = 1".toList).Valid := by decide
  have single : ∀ e ∈ (Blanks.ofList [" "]).entries, e.length = 1 := by decide
  have equals : "<=" ≠ "" := by decide
  have shift : "<<" ≠ "" := by decide
  refine ⟨equals, shift, valid, single, ?_, ?_⟩
  · obtain ⟨k, longest, -, matched, -⟩ := run_tag_longest equals 0 19 [] valid single
    obtain rfl : k = 2 := longest.unique (isGreatest_agreement _ _)
    obtain ⟨l, hrun, -, -, -, hlexeme⟩ := matched rfl
    exact ⟨l, hrun, hlexeme⟩
  · obtain ⟨k, longest, -, -, failed⟩ := run_tag_longest shift 0 19 [] valid single
    obtain rfl : k = 1 := longest.unique (isGreatest_agreement _ _)
    obtain ⟨e, hrun, -, -, -, told⟩ := failed (by decide)
    obtain ⟨-, found, hissue, hfound⟩ := told (by decide)
    exact ⟨e, found, hrun, hissue, hfound⟩

/-! ## Tokens -/

/-- A token from a valid cursor matches exactly if there is a visible character ahead that is
accepted by itself. It takes the longest beginning of the visible characters ahead of which every
stage is accepted, the cursor ends on the visible character behind it, further on than it began, and
the lexeme has these characters, but for blank ones inside it. Otherwise the cursor stays, and the
error tells the first visible character, or that the text has ended. -/
theorem run_regex_longest (pattern : String) (accepts : List Char → Bool)
    (patience limit : Nat) (env : List Rule) (hc : c.Valid)
    (single : ∀ e ∈ c.blanks.entries, e.length = 1) :
    (c.visible ≠ [] ∧ accepts (c.visible.take 1) = true →
      ∃ (n : Nat) (l : Location),
        IsGreatest {n | n ≤ c.visible.length ∧
          ∀ i, 1 ≤ i → i ≤ n → accepts (c.visible.take i) = true} n ∧
        (run patience (limit + 1) env (.regex pattern accepts)).run c =
          (.value (.location l), c.onto n) ∧
        c.pos < (c.onto n).pos ∧
        l.Spans c (c.onto n) ∧
        visible c.blanks.skips l.lexeme.toList = c.visible.take n) ∧
    (¬ (c.visible ≠ [] ∧ accepts (c.visible.take 1) = true) →
      ∃ e : ParseError,
        (run patience (limit + 1) env (.regex pattern accepts)).run c = (.failure e, c) ∧
        e.location.Spans c (c.onto 0) ∧
        (e.code = .unexpectedEnd ↔ c.visible = []) ∧
        (c.visible ≠ [] → e.code = .expectedPattern ∧
          e.issue = .expectedPattern pattern (String.ofList (c.visible.take 1)))) := by
  have hrun := Action.regex_of_valid hc pattern accepts
  refine ⟨fun haccepts => ?_, fun hnot => ?_⟩
  · have hpos : tokenLength accepts [] c.visible ≠ 0 := fun hzero =>
      tokenLength_eq_zero_iff.1 hzero haccepts
    rw [if_neg hpos] at hrun
    refine ⟨_, _, isGreatest_tokenLength accepts c.visible, Action.mapValue_of_value hrun, ?_,
      Cursor.stretch_spans hc _, Cursor.visible_lexeme_stretch single _⟩
    exact Cursor.pos_lt_pos_onto (Nat.pos_of_ne_zero hpos) (List.length_pos_iff.2 haccepts.1)
  · rw [if_pos (tokenLength_eq_zero_iff.2 hnot)] at hrun
    refine ⟨_, Action.mapValue_of_failure hrun, Cursor.stretch_spans hc 0, ?_⟩
    cases hv : c.visible with
    | nil => exact ⟨iff_of_true rfl rfl, fun hne => absurd rfl hne⟩
    | cons x rest =>
      refine ⟨iff_of_false (fun h => by cases h) (List.cons_ne_nil x rest), fun _ => ⟨rfl, ?_⟩⟩
      rw [List.take_succ_cons, List.take_zero, ← String.singleton_eq_ofList]
      rfl

/-- Digits one after another. -/
def numeral : Rule := .regex "[0-9]+" fun token => token.all Char.isDigit

/-- From behind the parenthesis in `( 1 2a`, where blanks are skipped, a numeral takes two digits
with a blank between them, up to the letter; from the letter on it fails on the spot. -/
theorem numeral_longest :
    (⟨1, .ofList [" "]⟩ : Cursor "( 1 2a".toList).Valid ∧
      (⟨5, .ofList [" "]⟩ : Cursor "( 1 2a".toList).Valid ∧
      (∀ e ∈ (Blanks.ofList [" "]).entries, e.length = 1) ∧
      (∃ l : Location,
        (run 0 20 [] numeral).run (⟨1, .ofList [" "]⟩ : Cursor "( 1 2a".toList) =
          (.value (.location l), ⟨5, .ofList [" "]⟩) ∧
        visible (Blanks.ofList [" "]).skips l.lexeme.toList = ['1', '2']) ∧
      ∃ e : ParseError,
        (run 0 20 [] numeral).run (⟨5, .ofList [" "]⟩ : Cursor "( 1 2a".toList) =
          (.failure e, ⟨5, .ofList [" "]⟩) ∧
        e.issue = .expectedPattern "[0-9]+" "a" := by
  have digit : (⟨1, .ofList [" "]⟩ : Cursor "( 1 2a".toList).Valid := by decide
  have letter : (⟨5, .ofList [" "]⟩ : Cursor "( 1 2a".toList).Valid := by decide
  have single : ∀ e ∈ (Blanks.ofList [" "]).entries, e.length = 1 := by decide
  have digits :=
    run_regex_longest "[0-9]+" (fun token => token.all Char.isDigit) 0 19 [] digit single
  have failing :=
    run_regex_longest "[0-9]+" (fun token => token.all Char.isDigit) 0 19 [] letter single
  refine ⟨digit, letter, single, ?_, ?_⟩
  · obtain ⟨n, l, longest, hrun, -, -, hlexeme⟩ := digits.1 (by decide)
    obtain rfl : n = 2 :=
      longest.unique (isGreatest_tokenLength (fun token => token.all Char.isDigit) _)
    exact ⟨l, hrun, hlexeme⟩
  · obtain ⟨e, hrun, -, -, told⟩ := failing.2 (by decide)
    exact ⟨e, hrun, (told (by decide)).2⟩

end Rule

end Descent
