import Descent.Text.Integer

/-!
# Spans

Half-open ranges of character offsets, and the ways in which a position can be wrong.
-/

namespace Descent

/-- Why a position, or a pair of positions, is refused. -/
inductive PositionError where
  /-- A cursor has to stand within its text, of the given length. -/
  | outside (length : Nat) (pos : Int)
  /-- A span cannot start before the text. -/
  | negativeStart (start : Int)
  /-- A span cannot end before it starts. -/
  | reversed (start stop : Int)
  /-- There is no character that far before the end of the text. -/
  | beforeText
deriving DecidableEq

/-- What is said about a refused position. -/
def PositionError.message : PositionError → String
  | .outside length pos => s!"Source.pos must be within 0..{length}, got {pos}"
  | .negativeStart start => s!"Span.start must be >= 0, got {start}"
  | .reversed start stop => s!"Span.end ({stop}) must be >= start ({start})"
  | .beforeText => ""

/-- The most digits of an integer in what is said about a refused position. -/
def PositionError.mostDigits : PositionError → Nat
  | .outside length pos => max (digitCount length) (digitCount pos)
  | .negativeStart start => digitCount start
  | .reversed start stop => max (digitCount start) (digitCount stop)
  | .beforeText => 0

/-- The offsets from `start` up to, but not including, `stop`. -/
structure Span where
  start : Nat
  stop : Nat
  ordered : start ≤ stop
deriving DecidableEq

namespace Span

/-- The span between two integers, refused unless `0 ≤ start ≤ stop`. -/
def between (start stop : Int) : Except PositionError Span :=
  if h : start < 0 then .error (.negativeStart start)
  else if h' : stop < start then .error (.reversed start stop)
  else .ok ⟨start.toNat, stop.toNat, by omega⟩

/-- The number of offsets in a span. -/
def length (s : Span) : Nat := s.stop - s.start

/-- The greatest number of a signed machine word of 64 bits. -/
def wordMax : Nat := 9223372036854775807

/-- The length where it fits a machine word. -/
def wordLength? (s : Span) : Option Nat := if s.length ≤ wordMax then some s.length else none

/-- Whether an integer is one of the offsets. -/
def contains (s : Span) (pos : Int) : Bool := (s.start : Int) ≤ pos && pos < s.stop

/-- A span as it is shown. -/
def shown (s : Span) : String := s!"Span(start={s.start}, end={s.stop})"

/-- The most digits of an end of a span. -/
def mostDigits (s : Span) : Nat := max (digitCount s.start) (digitCount s.stop)

/-- A span is made exactly from two integers in order, the first not negative. -/
theorem between_eq_ok_iff {start stop : Int} {s : Span} :
    between start stop = .ok s ↔ (s.start : Int) = start ∧ (s.stop : Int) = stop := by
  obtain ⟨a, b, hab⟩ := s
  unfold between
  split
  · simp; omega
  · split
    · simp; omega
    · simp; omega

/-- The span between two offsets in order. -/
theorem between_natCast {a b : Nat} (h : a ≤ b) :
    between (a : Int) (b : Int) = .ok ⟨a, b, h⟩ :=
  between_eq_ok_iff.2 ⟨rfl, rfl⟩

@[simp] theorem contains_iff {s : Span} {pos : Int} :
    s.contains pos = true ↔ (s.start : Int) ≤ pos ∧ pos < s.stop := by
  simp [contains]

end Span

end Descent
