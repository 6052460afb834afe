import Descent.Diagnostic.Rendering
import Descent.Text.JsonReading

/-!
# Errors told to other programs are read back

An object that is written on one line holds no control character, and reading it by the grammar of
the notation gives the members it was written from. Each function that writes a part is met by the
one that reads that part: for every text that may follow, the reader takes exactly what was written
and leaves what follows. Only the end of a number shows in what follows, and in an object this is a
comma or the closing brace.

An error is such an object with eight members. So its rendering determines all eight. An object is
not written at all where an integer in it has more digits than the limit.
-/

namespace Descent

/-! ## No control characters -/

/-- No character of a text is a control character below the space. -/
def NoControl (cs : List Char) : Prop := ∀ c ∈ cs, 0x20 ≤ c.toNat

instance (cs : List Char) : Decidable (NoControl cs) :=
  List.decidableBAll (fun c : Char => 0x20 ≤ c.toNat) cs

theorem noControl_append {as bs : List Char} (ha : NoControl as) (hb : NoControl bs) :
    NoControl (as ++ bs) := by
  intro c hc
  rcases List.mem_append.1 hc with h | h
  · exact ha c h
  · exact hb c h

theorem noControl_cons {c : Char} {cs : List Char} (hc : 0x20 ≤ c.toNat) (hs : NoControl cs) :
    NoControl (c :: cs) := by
  intro d hd
  rcases List.mem_cons.1 hd with rfl | h
  · exact hc
  · exact hs d h

theorem noControl_flatMap {α : Type} {f : α → List Char} {as : List α}
    (h : ∀ a ∈ as, NoControl (f a)) : NoControl (as.flatMap f) := by
  intro c hc
  obtain ⟨a, ha, hmem⟩ := List.mem_flatMap.1 hc
  exact h a ha c hmem

namespace JsonScalar

/-- The escapes of control characters are written with letters and digits. -/
theorem noControl_hexPadded : ∀ n < 0x20, NoControl (hexPadded 4 n) := by decide

theorem noControl_escapedChar (c : Char) : NoControl (escapedChar c) := by
  have hslash : 0x20 ≤ ('\\' : Char).toNat := by decide
  unfold escapedChar
  split
  next hc =>
    rcases Bool.or_eq_true_iff.1 hc with h | h
    · rw [beq_iff_eq.1 h]
      decide
    · rw [beq_iff_eq.1 h]
      decide
  iterate 5
    split
    · decide
  split
  next hlt => exact noControl_cons hslash (noControl_cons (by decide) (noControl_hexPadded _ hlt))
  next hge => exact noControl_cons (Nat.le_of_not_lt hge) (by simp [NoControl])

theorem noControl_textLiteral (s : String) : NoControl (textLiteral s) := by
  have hmark : NoControl ['"'] := by decide
  have hbody : NoControl (s.toList.flatMap escapedChar) :=
    noControl_flatMap fun c _ => noControl_escapedChar c
  exact noControl_append (noControl_append hmark hbody) hmark

theorem noControl_toString (n : Int) : NoControl (toString n).toList := by
  intro c hc
  rcases mem_toString hc with rfl | hdigit
  · decide
  · simp only [Char.isDigit, Bool.and_eq_true, decide_eq_true_eq] at hdigit
    have hzero : (48 : UInt32).toNat ≤ c.val.toNat := hdigit.1
    show 0x20 ≤ c.val.toNat
    exact Nat.le_trans (by decide) hzero

theorem noControl_written (v : JsonScalar) : NoControl v.written := by
  cases v with
  | text s => exact noControl_textLiteral s
  | integer n => exact noControl_toString n

end JsonScalar

@[simp] theorem jsonMembers_singleton (name : String) (v : JsonScalar) :
    jsonMembers [(name, v)] = JsonScalar.textLiteral name ++ ':' :: ' ' :: v.written := by
  simp [jsonMembers, List.intercalate]

@[simp] theorem jsonMembers_cons_cons (name : String) (v : JsonScalar) (m : String × JsonScalar)
    (rest : List (String × JsonScalar)) :
    jsonMembers ((name, v) :: m :: rest) =
      JsonScalar.textLiteral name ++ ':' :: ' ' :: v.written ++ ',' :: ' ' ::
        jsonMembers (m :: rest) := by
  simp [jsonMembers, List.intercalate]

theorem noControl_jsonMembers (ms : List (String × JsonScalar)) : NoControl (jsonMembers ms) := by
  have hmember : ∀ (name : String) (v : JsonScalar),
      NoControl (JsonScalar.textLiteral name ++ ':' :: ' ' :: v.written) := fun name v =>
    noControl_append (JsonScalar.noControl_textLiteral name)
      (noControl_cons (by decide) (noControl_cons (by decide) v.noControl_written))
  induction ms with
  | nil => exact fun c hc => absurd hc (by simp [jsonMembers, List.intercalate])
  | cons m rest ih =>
    obtain ⟨name, v⟩ := m
    cases rest with
    | nil =>
      rw [jsonMembers_singleton]
      exact hmember name v
    | cons m' rest =>
      rw [jsonMembers_cons_cons]
      exact noControl_append (hmember name v)
        (noControl_cons (by decide) (noControl_cons (by decide) ih))

theorem noControl_jsonObject (ms : List (String × JsonScalar)) :
    NoControl (jsonObject ms).toList := by
  have hclose : NoControl ['\x7d'] := by decide
  rw [jsonObject, String.toList_ofList]
  exact noControl_append (noControl_cons (by decide) (noControl_jsonMembers ms)) hclose

/-! ## Texts are read back -/

/-- What a member's value stands for. -/
def JsonScalar.meaning : JsonScalar → Json
  | .text s => .text s
  | .integer n => .number n 0

namespace Json

open JsonScalar

/-- Four digits are read whatever follows them. -/
theorem readUnit_append {cs : List Char} {n : Nat} (h : readUnit cs = some (n, []))
    (rest : List Char) : readUnit (cs ++ rest) = some (n, rest) := by
  unfold readUnit at h
  split at h
  next a b c d tail =>
    obtain ⟨m, hm, hn⟩ := Option.bind_eq_some_iff.1 h
    cases hn
    show (([a, b, c, d].foldlM (fun n digit => (hexValue? digit).map (16 * n + ·)) 0).bind fun n =>
      some (n, rest)) = some (n, rest)
    rw [hm]
    rfl
  next => cases h

theorem readUnit_hexPadded : ∀ n < 0x20, readUnit (hexPadded 4 n) = some (n, []) := by decide

/-- The escape of a control character stands for it. -/
theorem readCodePoint_hexPadded {c : Char} (hc : c.toNat < 0x20) (rest : List Char) :
    readCodePoint (hexPadded 4 c.toNat ++ rest) = some (c, rest) := by
  have hlow : ¬ 0xd800 ≤ c.toNat := by omega
  have hhigh : ¬ 0xdc00 ≤ c.toNat := by omega
  simp [readCodePoint, readUnit_append (readUnit_hexPadded _ hc), hlow, hhigh, Char.ofNat_toNat]

/-- A character is read as it is written. -/
theorem readChar_escapedChar (c : Char) (rest : List Char) :
    readChar (escapedChar c ++ rest) = some (c, rest) := by
  unfold escapedChar
  split
  next h =>
    rcases Bool.or_eq_true_iff.1 h with h | h
    · rw [beq_iff_eq.1 h]
      rfl
    · rw [beq_iff_eq.1 h]
      rfl
  next hplain =>
    iterate 5
      split
      next h =>
        rw [beq_iff_eq.1 h]
        rfl
    split
    next hlt => exact readCodePoint_hexPadded hlt rest
    next hge =>
      have hslash : c ≠ '\\' := by
        intro h
        rw [h] at hplain
        exact hplain rfl
      show readChar (c :: rest) = some (c, rest)
      rw [readChar]
      · rw [if_neg hge]
      · exact hslash

theorem escapedChar_ne_nil (c : Char) : escapedChar c ≠ [] := by
  intro hnil
  have hread := readChar_escapedChar c []
  rw [hnil] at hread
  cases hread

/-- No character is written with a quotation mark at the front, so that the text goes on. -/
theorem head?_escapedChar (c : Char) : (escapedChar c).head? ≠ some '"' := by
  unfold escapedChar
  split
  · simp
  next hplain =>
    iterate 6
      split
      · simp
    intro h
    rw [Option.some.inj h] at hplain
    exact hplain rfl

theorem readChars_of_readChar {most : Nat} {cs rest : List Char} {c : Char}
    (hc : readChar cs = some (c, rest)) (hhead : cs.head? ≠ some '"') :
    readChars (most + 1) cs = (readChars most rest).map fun p => (c :: p.1, p.2) := by
  rw [readChars]
  · rw [hc]
    show ((readChars most rest).bind fun p => some (c :: p.1, p.2)) = _
    cases readChars most rest <;> rfl
  · intro tail h
    rw [h] at hhead
    exact hhead rfl

/-- A text is read up to the quotation mark that follows it. -/
theorem readChars_flatMap_escapedChar (cs rest : List Char) {most : Nat} (h : cs.length < most) :
    readChars most (cs.flatMap escapedChar ++ '"' :: rest) = some (cs, rest) := by
  induction cs generalizing most with
  | nil =>
    obtain ⟨most, rfl⟩ := Nat.exists_eq_add_of_lt h
    rfl
  | cons c cs ih =>
    obtain ⟨fewer, rfl⟩ : ∃ fewer, most = fewer + 1 := ⟨most - 1, by omega⟩
    have hlen : cs.length < fewer := by
      rw [List.length_cons] at h
      omega
    have hhead : (escapedChar c ++ (cs.flatMap escapedChar ++ '"' :: rest)).head? ≠ some '"' := by
      have hc := head?_escapedChar c
      cases hw : escapedChar c with
      | nil => exact absurd hw (escapedChar_ne_nil c)
      | cons d ds =>
        rw [hw] at hc
        exact hc
    rw [List.flatMap_cons, List.append_assoc,
      readChars_of_readChar (readChar_escapedChar c _) hhead, ih hlen]
    rfl

theorem length_le_flatMap_escapedChar (cs : List Char) :
    cs.length ≤ (cs.flatMap escapedChar).length := by
  induction cs with
  | nil => exact Nat.le_refl _
  | cons c cs ih =>
    have hpos : 0 < (escapedChar c).length := List.length_pos_iff.2 (escapedChar_ne_nil c)
    rw [List.flatMap_cons, List.length_append, List.length_cons]
    omega

theorem readText_flatMap_escapedChar (s : String) (rest : List Char) :
    readText (s.toList.flatMap escapedChar ++ '"' :: rest) = some (s, rest) := by
  have hlen := length_le_flatMap_escapedChar s.toList
  have hread : readChars ((s.toList.flatMap escapedChar ++ '"' :: rest).length + 1)
      (s.toList.flatMap escapedChar ++ '"' :: rest) = some (s.toList, rest) := by
    apply readChars_flatMap_escapedChar
    rw [List.length_append]
    omega
  rw [readText, hread]
  show some (String.ofList s.toList, rest) = some (s, rest)
  rw [String.ofList_toList]

theorem textLiteral_append (s : String) (rest : List Char) :
    textLiteral s ++ rest = '"' :: (s.toList.flatMap escapedChar ++ '"' :: rest) := by
  simp [textLiteral]

/-! ## Integers are read back -/

/-- What follows a member's value: a comma or the closing brace. -/
inductive EndsMember : List Char → Prop where
  | comma (rest : List Char) : EndsMember (',' :: rest)
  | brace (rest : List Char) : EndsMember ('\x7d' :: rest)

theorem readNumeral_append {digits rest : List Char} (hne : digits ≠ [])
    (hdigits : ∀ c ∈ digits, c.isDigit = true) (hrest : EndsMember rest) :
    readNumeral (digits ++ rest) = some (digits, rest) := by
  have htake : rest.takeWhile Char.isDigit = [] := by cases hrest <;> rfl
  have hdrop : rest.dropWhile Char.isDigit = rest := by cases hrest <;> rfl
  unfold readNumeral
  rw [List.takeWhile_append_of_pos hdigits, List.dropWhile_append_of_pos hdigits, htake, hdrop,
    List.append_nil, if_neg]
  rw [List.isEmpty_iff]
  exact hne

theorem ne_of_isDigit {c d : Char} (hc : c.isDigit = true) (hd : d.isDigit = false) : c ≠ d := by
  rintro rfl
  rw [hc] at hd
  cases hd

theorem exists_toDigits (n : Nat) :
    ∃ c cs, Nat.toDigits 10 n = c :: cs ∧ c.isDigit = true := by
  cases h : Nat.toDigits 10 n with
  | nil => exact absurd h Nat.toDigits_ne_nil
  | cons c cs =>
    refine ⟨c, cs, rfl, isDigit_of_mem_toDigits (n := n) ?_⟩
    rw [h]
    exact List.mem_cons_self

/-- Only zero is written with a zero at the front. -/
theorem eq_zero_of_head?_toDigits {n : Nat} (h : (Nat.toDigits 10 n).head? = some '0') : n = 0 := by
  have hdigit : ∀ d < 10, Nat.digitChar d = '0' → d = 0 := by decide
  induction n using Nat.strongRecOn with
  | ind n ih =>
    rw [Nat.toDigits_eq_if (by decide)] at h
    split at h
    next hlt => exact hdigit n hlt (Option.some.inj h)
    next hge =>
      obtain ⟨c, cs, hw, -⟩ := exists_toDigits (n / 10)
      have htenth : n / 10 = 0 := by
        apply ih (n / 10) (by omega)
        rw [hw] at h ⊢
        exact h
      omega

theorem readWhole_toDigits (n : Nat) {rest : List Char} (hrest : EndsMember rest) :
    readWhole (Nat.toDigits 10 n ++ rest) = some (Nat.toDigits 10 n, rest) := by
  have hread := readNumeral_append (Nat.toDigits_ne_nil (n := n) (b := 10))
    (fun c hc => isDigit_of_mem_toDigits hc) hrest
  have hzero : ¬ ((Nat.toDigits 10 n).head? = some '0' ∧ 1 < (Nat.toDigits 10 n).length) := by
    rintro ⟨hhead, hlen⟩
    rw [eq_zero_of_head?_toDigits hhead] at hlen
    revert hlen
    decide
  rw [readWhole, hread]
  exact if_neg hzero

theorem readMagnitude_toDigits (n : Nat) {rest : List Char} (hrest : EndsMember rest) :
    readMagnitude (Nat.toDigits 10 n ++ rest) = some ((n, 0), rest) := by
  have hfraction : readFraction rest = some ([], rest) := by cases hrest <;> rfl
  have hexponent : readExponent rest = some (0, rest) := by cases hrest <;> rfl
  simp [readMagnitude, readWhole_toDigits n hrest, hfraction, hexponent]

/-- The first character of an integer is its sign or a digit. -/
theorem exists_toList_toString (n : Int) :
    ∃ c cs, (toString n).toList = c :: cs ∧ (c = '-' ∨ c.isDigit = true) := by
  rw [toList_toString]
  split
  · obtain ⟨c, cs, hw, hdigit⟩ := exists_toDigits n.natAbs
    exact ⟨c, cs, hw, .inr hdigit⟩
  · exact ⟨'-', _, rfl, .inl rfl⟩

theorem readNumber_toString (n : Int) {rest : List Char} (hrest : EndsMember rest) :
    readNumber ((toString n).toList ++ rest) = some (.number n 0, rest) := by
  have hmagnitude := readMagnitude_toDigits n.natAbs hrest
  rw [toList_toString]
  split
  next hn =>
    have habs : (n.natAbs : Int) = n := by omega
    rw [readNumber, hmagnitude]
    · show some (number n.natAbs 0, rest) = _
      rw [habs]
    · intro tail h
      obtain ⟨c, cs, hw, hdigit⟩ := exists_toDigits n.natAbs
      rw [hw] at h
      exact ne_of_isDigit hdigit rfl (List.cons.inj h).1
  next hn =>
    have habs : -(n.natAbs : Int) = n := by omega
    rw [List.cons_append, readNumber, hmagnitude]
    show some (number (-(n.natAbs : Int)) 0, rest) = _
    rw [habs]

/-! ## Members are read back -/

/-- A value begins with a quotation mark, a sign or a digit. -/
theorem exists_written (v : JsonScalar) :
    ∃ c cs, v.written = c :: cs ∧ (c = '"' ∨ c = '-' ∨ c.isDigit = true) := by
  cases v with
  | text s => exact ⟨'"', _, rfl, .inl rfl⟩
  | integer n =>
    obtain ⟨c, cs, hw, hc⟩ := exists_toList_toString n
    exact ⟨c, cs, hw, .inr hc⟩

theorem skipped_written (v : JsonScalar) (rest : List Char) :
    skipped (' ' :: (v.written ++ rest)) = v.written ++ rest := by
  obtain ⟨c, cs, hw, hc⟩ := exists_written v
  have hkept : separates c = false := by
    rcases hc with rfl | rfl | hdigit
    · rfl
    · rfl
    · have hne : ∀ d : Char, d.isDigit = false → (c == d) = false := fun d hd =>
        beq_eq_false_iff_ne.2 (ne_of_isDigit hdigit hd)
      rw [separates, hne ' ' rfl, hne '\t' rfl, hne '\n' rfl, hne '\r' rfl]
      rfl
  rw [hw]
  show (c :: (cs ++ rest)).dropWhile separates = _
  rw [List.dropWhile_cons, hkept]
  rfl

theorem readName_textLiteral (name : String) (rest : List Char) :
    readName (textLiteral name ++ ':' :: rest) = some (name, rest) := by
  rw [textLiteral_append, readName, readText_flatMap_escapedChar]
  rfl

theorem readValue_written (v : JsonScalar) {most : Nat} {rest : List Char} (hmost : 0 < most)
    (hrest : EndsMember rest) : readValue most (v.written ++ rest) = some (v.meaning, rest) := by
  obtain ⟨most, rfl⟩ : ∃ fewer, most = fewer + 1 := ⟨most - 1, by omega⟩
  cases v with
  | text s =>
    show readValue (most + 1) (textLiteral s ++ rest) = _
    rw [textLiteral_append, readValue, readText_flatMap_escapedChar]
    rfl
  | integer n =>
    obtain ⟨c, cs, hw, hc⟩ := exists_toList_toString n
    have hnumber := readNumber_toString n hrest
    show readValue (most + 1) ((toString n).toList ++ rest) = _
    rw [hw] at hnumber ⊢
    rw [List.cons_append] at hnumber ⊢
    have hother : ∀ (d : Char) (tail : List Char), d ≠ '-' → d.isDigit = false →
        c :: (cs ++ rest) = d :: tail → False := by
      intro d tail hsign hd h
      rcases hc with hc | hc
      · exact hsign ((List.cons.inj h).1.symm.trans hc)
      · exact ne_of_isDigit hc hd (List.cons.inj h).1
    rw [readValue, hnumber]
    · rfl
    all_goals exact fun _ => hother _ _ (by decide) rfl

/-- A member is read as its name and its value, and what follows decides whether there are more. -/
theorem readMembers_member (name : String) (v : JsonScalar) {most : Nat} {rest : List Char}
    (hmost : 0 < most) (hrest : EndsMember rest) :
    readMembers (most + 1) (textLiteral name ++ ':' :: ' ' :: (v.written ++ rest)) =
      match skipped rest with
      | ',' :: rest => (readMembers most rest).bind fun p => some ((name, v.meaning) :: p.1, p.2)
      | '\x7d' :: rest => some ([(name, v.meaning)], rest)
      | _ => none := by
  have hname : skipped (textLiteral name ++ ':' :: ' ' :: (v.written ++ rest)) =
      textLiteral name ++ ':' :: ' ' :: (v.written ++ rest) := rfl
  rw [readMembers, hname, readName_textLiteral]
  show ((readValue most (skipped (' ' :: (v.written ++ rest)))).bind _) = _
  rw [skipped_written, readValue_written v hmost hrest]
  rfl

/-- White space before the first member is passed over. -/
theorem readMembers_space (most : Nat) (cs : List Char) :
    readMembers most (' ' :: cs) = readMembers most cs := by
  cases most with
  | zero => rfl
  | succ most => rw [readMembers, readMembers]; rfl

/-- The members of an object are read up to the brace that follows them. -/
theorem readMembers_jsonMembers {ms : List (String × JsonScalar)} (hne : ms ≠ [])
    (rest : List Char) {most : Nat} (hmost : ms.length < most) :
    readMembers most (jsonMembers ms ++ '\x7d' :: rest) =
      some (ms.map fun m => (m.1, m.2.meaning), rest) := by
  induction ms generalizing most with
  | nil => exact absurd rfl hne
  | cons m more ih =>
    obtain ⟨name, v⟩ := m
    obtain ⟨fewer, rfl⟩ : ∃ fewer, most = fewer + 1 := ⟨most - 1, by omega⟩
    rw [List.length_cons] at hmost
    have hfewer : 0 < fewer := by omega
    cases more with
    | nil =>
      rw [jsonMembers_singleton, List.append_assoc, List.cons_append, List.cons_append,
        readMembers_member name v hfewer (.brace rest)]
      rfl
    | cons m' more =>
      have hlength : (m' :: more).length < fewer := by omega
      have hread := ih (List.cons_ne_nil m' more) hlength
      rw [jsonMembers_cons_cons]
      simp only [List.append_assoc, List.cons_append]
      rw [readMembers_member name v hfewer (.comma _)]
      show (readMembers fewer (' ' :: (jsonMembers (m' :: more) ++ '\x7d' :: rest))).bind _ = _
      rw [readMembers_space, hread]
      rfl

theorem exists_jsonMembers_cons (m : String × JsonScalar) (more : List (String × JsonScalar)) :
    ∃ cs, jsonMembers (m :: more) = '"' :: cs := by
  obtain ⟨name, v⟩ := m
  cases more with
  | nil =>
    rw [jsonMembers_singleton, textLiteral_append]
    exact ⟨_, rfl⟩
  | cons m' more =>
    rw [jsonMembers_cons_cons, List.append_assoc, textLiteral_append]
    exact ⟨_, rfl⟩

theorem length_le_jsonMembers (ms : List (String × JsonScalar)) :
    ms.length ≤ (jsonMembers ms).length := by
  induction ms with
  | nil => exact Nat.zero_le _
  | cons m more ih =>
    obtain ⟨name, v⟩ := m
    cases more with
    | nil =>
      obtain ⟨cs, hcs⟩ := exists_jsonMembers_cons (name, v) []
      rw [hcs, List.length_cons, List.length_cons, List.length_nil]
      omega
    | cons m' more =>
      simp only [jsonMembers_cons_cons, List.length_append, List.length_cons] at ih ⊢
      omega

/-- An object is read up to its closing brace. -/
theorem readValue_jsonMembers (ms : List (String × JsonScalar)) (rest : List Char) {most : Nat}
    (hmost : ms.length < most) :
    readValue (most + 1) ('\x7b' :: (jsonMembers ms ++ '\x7d' :: rest)) =
      some (.object (ms.map fun m => (m.1, m.2.meaning)), rest) := by
  cases ms with
  | nil => rfl
  | cons m more =>
    have hread := readMembers_jsonMembers (List.cons_ne_nil m more) rest hmost
    obtain ⟨cs, hcs⟩ := exists_jsonMembers_cons m more
    rw [hcs, List.cons_append] at hread ⊢
    rw [readValue]
    show ((readMembers most ('"' :: (cs ++ '\x7d' :: rest))).bind _) = _
    rw [hread]
    rfl

/-- An object is read as the members that it was written from. -/
theorem decode_jsonObject (ms : List (String × JsonScalar)) :
    decode (jsonObject ms).toList = some (.object (ms.map fun m => (m.1, m.2.meaning))) := by
  have hlen := length_le_jsonMembers ms
  have hmost : ms.length < 2 * ('\x7b' :: (jsonMembers ms ++ ['\x7d'])).length + 1 := by
    rw [List.length_cons, List.length_append]
    omega
  have hread := readValue_jsonMembers ms [] hmost
  rw [jsonObject, String.toList_ofList, List.cons_append, decode]
  show ((readValue _ ('\x7b' :: (jsonMembers ms ++ ['\x7d']))).bind _) = _
  rw [hread]
  rfl

end Json

/-! ## Errors -/

namespace JsonScalar

theorem meaning_injective {v w : JsonScalar} (h : v.meaning = w.meaning) : v = w := by
  cases v with
  | text s =>
    cases w with
    | text t => rw [Json.text.inj h]
    | integer n => cases h
  | integer m =>
    cases w with
    | text t => cases h
    | integer n => rw [(Json.number.inj h).1]

end JsonScalar

/-- Members in a given order are determined by the object that is written of them. -/
theorem jsonObject_injective {ms ns : List (String × JsonScalar)}
    (h : jsonObject ms = jsonObject ns) : ms = ns := by
  have hread := Json.decode_jsonObject ms
  rw [h, Json.decode_jsonObject] at hread
  have hmeanings := Json.object.inj (Option.some.inj hread)
  refine (List.map_inj_right ?_).1 hmeanings.symm
  rintro ⟨name, v⟩ ⟨name', v'⟩ hpair
  obtain ⟨hname, hv⟩ := Prod.mk.inj hpair
  exact Prod.ext hname (JsonScalar.meaning_injective hv)

namespace ParseError

/-- An error is told to other programs exactly if no integer in the object has too many digits. -/
theorem json_eq_ok_iff {e : ParseError} {s : String} :
    e.json = .ok s ↔ jsonDigits e.members ≤ digitLimit ∧ jsonObject e.members = s := by
  rcases Nat.lt_or_ge digitLimit (jsonDigits e.members) with hlong | hfits
  · rw [json, withinDigits_of_lt hlong]
    simp [Nat.not_le.2 hlong]
  · rw [json, withinDigits_of_le hfits]
    simp [hfits]

/-- The eight members of an error determine its code, message, position and lexeme. -/
theorem members_eq_iff {e e' : ParseError} :
    e'.members = e.members ↔
      e'.code = e.code ∧ e'.code.number = e.code.number ∧ e'.message = e.message ∧
        e'.location.snapshot.line = e.location.snapshot.line ∧
        e'.location.snapshot.column = e.location.snapshot.column ∧
        e'.problem.start = e.problem.start ∧ e'.problem.stop = e.problem.stop ∧
        e'.location.lexeme = e.location.lexeme := by
  constructor
  · intro h
    simp only [members, List.cons.injEq, Prod.mk.injEq, JsonScalar.text.injEq,
      JsonScalar.integer.injEq, Int.natCast_inj, true_and, and_true] at h
    obtain ⟨hname, hnumber, hmessage, hline, hcolumn, hstart, hstop, hlexeme⟩ := h
    have hcode : e'.code = e.code := by
      have hfound := Code.ofName?_name e'.code
      rw [hname, Code.ofName?_name] at hfound
      exact (Option.some.inj hfound).symm
    exact ⟨hcode, hnumber, hmessage, hline, hcolumn, hstart, hstop, hlexeme⟩
  · rintro ⟨hcode, -, hmessage, hline, hcolumn, hstart, hstop, hlexeme⟩
    unfold members
    rw [hcode, hmessage, hline, hcolumn, hstart, hstop, hlexeme]

/-- Among the integers of an error is the start of the range that is underlined. -/
theorem digits_start_le (e : ParseError) :
    JsonScalar.digits (.integer e.problem.start) ≤ jsonDigits e.members :=
  digits_le_jsonDigits (m := ("start", .integer e.problem.start)) (by simp [members])

/-- The text goes on with a quotation mark, at the end of its first line. -/
def openQuotation : ParseError :=
  .located (.expectedEnd "\"") ⟨['a', '"', '\n'], ⟨1, 2, by decide⟩, "\"", ⟨1, .empty⟩⟩ none

/-- The same, with another range to underline, which is empty. -/
def quotationAt (n : Nat) : ParseError := { openQuotation with problem := ⟨n, n, Nat.le_refl n⟩ }

theorem digitLimit_lt_quotationAt {n : Nat} (h : digitLimit < digitCount n) :
    digitLimit < jsonDigits (quotationAt n).members :=
  Nat.lt_of_lt_of_le h (quotationAt n).digits_start_le

end ParseError

end Descent
