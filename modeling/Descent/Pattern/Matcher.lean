import Descent.Pattern.Program

/-!
# Searches

A step of a program is tried at a position and hands on to what comes after it, until something
comes of it or every way has been tried. What the groups have matched is remembered from one try
to the next, also when a try comes to nothing: each kind of step says how much of it is taken
back. A repetition stops trying when a round has matched nothing, so every search comes to an
end.
-/

namespace Descent.Pattern

/-! ## Positions -/

/-- Whether the character at an index is a word character; there is none outside the text. -/
def wordAt (text : Array Char) (ascii : Bool) (index : Option Nat) : Bool :=
  ((index.bind fun i => text[i]?).map (Category.contains .word ascii)).getD false

/-- The index before one. -/
def before (pos : Nat) : Option Nat := if pos = 0 then none else some (pos - 1)

/-- Whether a condition holds at a position. -/
def Anchor.holds (text : Array Char) (multiline ascii : Bool) (pos : Nat) : Anchor → Bool
  | .lineStart => pos == 0 || (multiline && text[pos - 1]? == some '\n')
  | .lineEnd =>
    pos == text.size ||
      ((multiline || pos + 1 == text.size) && text[pos]? == some '\n')
  | .textStart => pos == 0
  | .textEnd => pos == text.size
  | .wordEdge negated =>
    !text.isEmpty && (wordAt text ascii (before pos) != wordAt text ascii (some pos)) != negated

/-! ## What a search remembers -/

/-- The positions that have been marked, by their numbers, and how far the search has come. -/
structure Memory where
  marks : List (Option Nat)
  reach : Nat
deriving DecidableEq

namespace Memory

/-- The search has come to a position. -/
def reached (m : Memory) (pos : Nat) : Memory := { m with reach := pos }

/-- Remembers a position under a number. -/
def mark (m : Memory) (index pos : Nat) : Memory :=
  { m with marks :=
      if index < m.marks.length then m.marks.set index (some pos)
      else m.marks ++ List.replicate (index - m.marks.length) none ++ [some pos] }

/-- The two ends of what a group has matched, if both are marked and in order. -/
def group? (m : Memory) (index : Nat) : Option (Nat × Nat) :=
  match m.marks[2 * (index - 1)]?, m.marks[2 * (index - 1) + 1]? with
  | some (some start), some (some stop) => if start ≤ stop then some (start, stop) else none
  | _, _ => none

/-- What is left of the marks of a try that came to nothing. Within a repetition they are again
as they were saved, and elsewhere only the new ones are forgotten. -/
def rewound (m : Memory) (inside : Bool) (saved : Memory) : Memory :=
  { m with marks := if inside then saved.marks else m.marks.take saved.marks.length }

end Memory

/-- What comes of a try: whether it has matched, and what is remembered either way. -/
structure Trial where
  matched : Bool
  memory : Memory
deriving DecidableEq

namespace Trial

/-- A try that came to nothing. -/
def failure (m : Memory) : Trial := ⟨false, m⟩

/-- Another try if this one came to nothing. -/
def orElse (t : Trial) (another : Memory → Trial) : Trial :=
  if t.matched then t else another t.memory

/-- Goes on after a match. -/
def andThen (t : Trial) (next : Memory → Trial) : Trial :=
  if t.matched then next t.memory else t

end Trial

/-- A way to go on from a position. -/
abbrev Next := Nat → Memory → Trial

/-- Nothing more to match. -/
def done : Next := fun pos m => ⟨true, m.reached pos⟩

/-- Whether a copy of the text between two indices stands at a position. -/
def copyAt (text : Array Char) (f : Folding) (start stop pos : Nat) : Bool :=
  (List.range (stop - start)).all fun i =>
    match text[start + i]?, text[pos + i]? with
    | some a, some b => f.lower a.toNat == f.lower b.toNat
    | _, _ => false

/-! ## One character several times over -/

/-- How many of the next `bound` characters pass a test one after another. -/
def stretchLength (text : Array Char) (test : CharTest) (pos : Nat) : Nat → Nat
  | 0 => 0
  | bound + 1 =>
    if test.acceptsAt text pos then stretchLength text test (pos + 1) bound + 1 else 0

/-- Goes on from the end of a stretch, and then from ever earlier positions, down to `least`; if
`next?` is given, only from where that character stands. -/
def shrinking (text : Array Char) (inside : Bool) (next? : Option Nat) (next : Next)
    (saved : Memory) (least : Nat) : Nat → Memory → Trial
  | 0, m =>
    if next?.all fun code => text[least]?.any (·.toNat == code) then
      (next least (m.reached least)).orElse fun m => .failure (m.rewound inside saved)
    else .failure m
  | extra + 1, m =>
    let pos := least + extra + 1
    if next?.all fun code => text[pos]?.any (·.toNat == code) then
      (next pos (m.reached pos)).orElse fun m =>
        shrinking text inside next? next saved least extra (m.rewound inside saved)
    else shrinking text inside next? next saved least extra m

/-- Goes on from a position, and then from ever later ones for as long as the characters pass the
test, with at most `more` of them; `left` is a bound on the characters of the text. -/
def lengthening (text : Array Char) (inside : Bool) (test : CharTest) (next : Next)
    (saved : Memory) (more : Option Nat) : Nat → Nat → Memory → Trial
  | left, pos, m =>
    (next pos (m.reached pos)).orElse fun m =>
      let m := (m.rewound inside saved).reached pos
      if test.acceptsAt text pos then
        let m := if test.isStepwise then m.reached (pos + 1) else m
        match left, more with
        | 0, _ => .failure m
        | _, some 0 => .failure m
        | left + 1, _ =>
          lengthening text inside test next saved (more.map (· - 1)) left (pos + 1) m
      else .failure m

/-- Matches one character several times over. -/
def runStretch (text : Array Char) (inside : Bool) (greed : Greed) (min : Nat)
    (max : Option Nat) (test : CharTest) (next? : Option Nat) (pos : Nat) (m : Memory)
    (next : Next) : Trial :=
  let left := text.size - pos
  if left < min then .failure m
  else
    let bound := match greed, max with
      | .reluctant, _ => min
      | _, some most => Nat.min most left
      | _, none => left
    let count := stretchLength text test pos bound
    let m := m.reached (if test.isStepwise then pos + count else pos)
    if count < min then .failure m
    else
      match greed with
      | .greedy => shrinking text inside next? next m (pos + min) (count - min) m
      | .reluctant =>
        lengthening text inside test next m (max.map (· - min)) (left - min) (pos + min) m
      | .possessive => next (pos + count) (m.reached (pos + count))

/-! ## Steps several times over -/

/-- Whether one more round may be tried: the count allows it, and the last round has matched
something. -/
def roundAllowed (count : Nat) (max : Option Nat) (last : Option Nat) (pos : Nat) : Bool :=
  max.all (count < ·) && last != some pos

/-- Tries as many rounds as possible first. The bound on the rounds is one that no search
reaches. -/
def greedyRounds (body : Nat → Memory → Next → Trial) (min : Nat) (max : Option Nat)
    (next : Next) : Nat → Nat → Option Nat → Nat → Memory → Trial
  | 0, _, _, _, m => .failure m
  | rounds + 1, count, last, pos, m =>
    let m := m.reached pos
    if count < min then
      (body pos m (greedyRounds body min max next rounds (count + 1) last)).orElse fun m =>
        .failure (m.reached pos)
    else
      let leave := fun m => (next pos m).orElse fun m => .failure (m.reached pos)
      if roundAllowed count max last pos then
        (body pos m (greedyRounds body min max next rounds (count + 1) (some pos))).orElse
          fun failed => leave ({ failed with marks := m.marks }.reached pos)
      else leave m

/-- Tries as few rounds as possible first. -/
def reluctantRounds (body : Nat → Memory → Next → Trial) (inside : Bool) (min : Nat)
    (max : Option Nat) (next : Next) : Nat → Nat → Option Nat → Nat → Memory → Trial
  | 0, _, _, _, m => .failure m
  | rounds + 1, count, last, pos, m =>
    let m := m.reached pos
    let again := fun last m =>
      (body pos m (reluctantRounds body inside min max next rounds (count + 1) last)).orElse
        fun m => .failure (m.reached pos)
    if count < min then again last m
    else
      (next pos m).orElse fun m' =>
        let m := (m'.rewound inside m).reached pos
        if roundAllowed count max last pos then again (some pos) m else .failure m

/-- Takes every round that is possible, each in its first way, and gives none back. A round that
comes to nothing takes its marks back, and the search goes on from where the round gave up. -/
def possessiveRounds (body : Nat → Memory → Next → Trial) (min : Nat) (max : Option Nat)
    (start : Nat) (next : Next) : Nat → Nat → Option Nat → Memory → Trial
  | 0, _, _, m => .failure m
  | rounds + 1, count, last, m =>
    if count < min then
      let t := body m.reach m done
      if t.matched then possessiveRounds body min max start next rounds (count + 1) last t.memory
      else .failure (t.memory.reached start)
    else if roundAllowed count max last m.reach then
      let t := body m.reach m done
      if t.matched then
        possessiveRounds body min max start next rounds (count + 1) (some m.reach) t.memory
      else next t.memory.reach { t.memory with marks := m.marks }
    else next m.reach m

/-- Repeats steps. Beyond the least count every round but the last matches something, so the
rounds are at most that count and the length of the text and two more. -/
def runLoop (text : Array Char) (inside : Bool) (greed : Greed) (min : Nat) (max : Option Nat)
    (body : Nat → Memory → Next → Trial) (pos : Nat) (m : Memory) (next : Next) : Trial :=
  let bound := min + text.size + 2
  match greed with
  | .greedy => greedyRounds body min max next bound 0 none pos m
  | .reluctant => reluctantRounds body inside min max next bound 0 none pos m
  | .possessive => possessiveRounds body min max pos next bound 0 none (m.reached pos)

/-! ## Steps -/

/-- Whether a way can be passed over: it begins with a character or a set for which case does not
play a role, and something else stands at the position. -/
def passedOver (text : Array Char) (pos : Nat) : List Instr → Bool
  | .one test :: _ =>
    (test.literal?.isSome || test.isPlainSet) && !test.acceptsAt text pos
  | _ => false

mutual

/-- Tries a step and what comes next, within a repetition or not. -/
def Instr.run (text : Array Char) (inside : Bool) : Instr → Nat → Memory → Next → Trial
  | .one test, pos, m, next =>
    if test.acceptsAt text pos then next (pos + 1) m else .failure m
  | .anchor a multiline ascii, pos, m, next =>
    if a.holds text multiline ascii pos then next pos m else .failure m
  | .mark index, pos, m, next => next pos (m.mark index pos)
  | .backref f group, pos, m, next =>
    match m.group? group with
    | none => .failure m
    | some (start, stop) =>
      if copyAt text f start stop pos then next (pos + (stop - start)) m else .failure m
  | .branch ways, pos, m, next => runAny text inside ways m pos m next
  | .conditional group yes no, pos, m, next =>
    if (m.group? group).isSome then runAll text inside yes pos m next
    else runAll text inside no pos m next
  | .stretch greed min max test next?, pos, m, next =>
    runStretch text inside greed min max test next? pos m next
  | .loop greed min max body, pos, m, next =>
    let within := inside || greed != .possessive
    runLoop text inside greed min max (fun p m k => runAll text within body p m k) pos m next
  | .atomic body, pos, m, next =>
    let t := runAll text inside body pos (m.reached pos) done
    if t.matched then next t.memory.reach t.memory else .failure (t.memory.reached pos)
  | .look negated back body, pos, m, next =>
    if pos < back then if negated then next pos m else .failure m
    else
      let t := runAll text inside body (pos - back) (m.reached (pos - back)) done
      if negated then
        if t.matched then .failure t.memory else next pos (t.memory.rewound inside m)
      else t.andThen (next pos)

/-- Tries steps one after another, and what comes next. -/
def runAll (text : Array Char) (inside : Bool) : List Instr → Nat → Memory → Next → Trial
  | [], pos, m, next => next pos m
  | step :: rest, pos, m, next =>
    step.run text inside pos m fun pos m => runAll text inside rest pos m next

/-- Tries one way after another, and what comes next. After each way the marks are rewound to
those that were saved. -/
def runAny (text : Array Char) (inside : Bool) :
    List (List Instr) → Memory → Nat → Memory → Next → Trial
  | [], _, _, m, _ => .failure m
  | way :: rest, saved, pos, m, next =>
    if passedOver text pos way then runAny text inside rest saved pos m next
    else
      (runAll text inside way pos (m.reached pos) next).orElse fun m =>
        runAny text inside rest saved pos (m.rewound inside saved) next

end

/-- Whether a program matches the whole of a text. -/
def Program.accepts (p : Program) (text : List Char) : Bool :=
  let chars := text.toArray
  p.least ≤ chars.size &&
    (runAll chars false p.steps 0 ⟨[], 0⟩ fun pos m =>
      if pos = chars.size then ⟨true, m.reached pos⟩ else .failure m).matched

end Descent.Pattern
