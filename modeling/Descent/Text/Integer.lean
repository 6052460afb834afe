import Descent.Text.Digit
import Descent.Text.Space
import Descent.Text.Trim

/-!
# Integers in text

Reading a decimal integer, with surrounding white space, a sign and single underscores between
digits, and writing a natural number with its digits in groups of three. Where integers are
converted from and to text, their digits may be limited.
-/

namespace Descent

/-! ## Reading -/

/-- White space that may surround an integer: that of ASCII text and that beyond ASCII, so not
the information separators. -/
def surroundsInteger (c : Char) : Bool := isAsciiSpace c || (128 ≤ c.toNat && isSpace c)

/-- The number whose digits are those read so far, `acc`, and then the given ones, of any script.
One underscore may stand before a digit. -/
def readDigits (acc : Nat) : List Char → Option Nat
  | [] => some acc
  | '_' :: c :: rest =>
    match digitValue? c with
    | some d => readDigits (acc * 10 + d) rest
    | none => none
  | c :: rest =>
    match digitValue? c with
    | some d => readDigits (acc * 10 + d) rest
    | none => none

/-- A natural number: a digit first, then digits with underscores between them. -/
def readNatural : List Char → Option Nat
  | [] => none
  | c :: rest =>
    match digitValue? c with
    | some d => readDigits d rest
    | none => none

/-- An optional sign and a natural number. -/
def readSigned : List Char → Option Int
  | '-' :: rest => (readNatural rest).map fun n => -(n : Int)
  | '+' :: rest => (readNatural rest).map fun n => (n : Int)
  | rest => (readNatural rest).map fun n => (n : Int)

/-- The integer that a text stands for, if it stands for one. -/
def readInteger (text : List Char) : Option Int :=
  readSigned (trimBoth surroundsInteger text)

/-! ## Limits -/

/-- The most digits of an integer that is converted from or to text. -/
def digitLimit : Nat := 4300

/-- Why a text is not converted to an integer. -/
inductive IntegerError where
  /-- It does not stand for one. -/
  | malformed
  /-- It begins with more digits than the limit. -/
  | tooLong (digits limit : Nat)
deriving DecidableEq

/-- The number of digits up to the first character that is none, after the `count` ones counted so
far, unless an underscore is out of place. -/
def leadingDigits (count : Nat) : List Char → Option Nat
  | [] => some count
  | ['_'] => none
  | '_' :: c :: rest => if (digitValue? c).isSome then leadingDigits (count + 1) rest else none
  | c :: rest => if (digitValue? c).isSome then leadingDigits (count + 1) rest else some count

/-- A text without the sign that it begins with. -/
def unsigned : List Char → List Char
  | '-' :: rest => rest
  | '+' :: rest => rest
  | rest => rest

/-- The number of digits that a text begins with, after white space and a sign. -/
def digitsIn (text : List Char) : Nat :=
  match unsigned (trimBoth surroundsInteger text) with
  | [] => 0
  | c :: rest => if (digitValue? c).isSome then (leadingDigits 1 rest).getD 0 else 0

/-- The integer that a text stands for, with at most so many digits. Too many digits are noticed
before what follows them is looked at. -/
def parseInteger (limit : Option Nat) (text : List Char) : Except IntegerError Int :=
  match limit.filter (· < digitsIn text), readInteger text with
  | some most, _ => .error (.tooLong (digitsIn text) most)
  | none, some n => .ok n
  | none, none => .error .malformed

/-- Without a limit every text that stands for an integer is converted. -/
theorem parseInteger_none_eq_ok_iff {text : List Char} {n : Int} :
    parseInteger none text = .ok n ↔ readInteger text = some n := by
  cases h : readInteger text <;> simp [parseInteger, h]

/-- The number of decimal digits of an integer. -/
def digitCount (n : Int) : Nat := (Nat.toDigits 10 n.natAbs).length

/-- An integer has at most so many digits exactly if its size is below that power of ten. -/
theorem digitCount_le_iff {n : Int} {k : Nat} (hk : 0 < k) :
    digitCount n ≤ k ↔ n.natAbs < Nat.pow 10 k :=
  Nat.length_toDigits_le_iff (by decide) hk

/-- A power of ten has more digits than its exponent says. -/
theorem lt_digitCount_pow {k : Nat} (hk : 0 < k) : k < digitCount (Nat.pow 10 k) := by
  refine Nat.lt_of_not_le fun h => ?_
  exact Nat.lt_irrefl _ ((digitCount_le_iff hk).1 h)

/-! ## Writing -/

/-- An integer is written with its sign before the digits of its size. -/
theorem toList_toString (n : Int) :
    (toString n).toList =
      if 0 ≤ n then Nat.toDigits 10 n.natAbs else '-' :: Nat.toDigits 10 n.natAbs := by
  rw [Int.toString_eq_repr, Int.repr_eq_if]
  split
  next h =>
    rw [Nat.toList_repr, show n.toNat = n.natAbs by omega]
  next h =>
    rw [String.toList_append, Nat.toList_repr, show (-n).toNat = n.natAbs by omega]
    rfl

theorem isDigit_of_mem_toDigits {n : Nat} {c : Char} (h : c ∈ Nat.toDigits 10 n) :
    c.isDigit = true :=
  Nat.isDigit_of_mem_toDigits (by decide) (by decide) h

/-- Apart from its sign an integer is written with digits only. -/
theorem mem_toString {n : Int} {c : Char} (h : c ∈ (toString n).toList) :
    c = '-' ∨ c.isDigit = true := by
  rw [toList_toString] at h
  split at h
  · exact .inr (isDigit_of_mem_toDigits h)
  · rcases List.mem_cons.1 h with rfl | h
    · exact .inl rfl
    · exact .inr (isDigit_of_mem_toDigits h)

/-- Digits from the least significant on, with a comma after every third. -/
def groupedReversed : List Char → List Char
  | a :: b :: c :: d :: rest => a :: b :: c :: ',' :: groupedReversed (d :: rest)
  | few => few

/-- A natural number with its digits in groups of three. -/
def grouped (n : Nat) : String :=
  String.ofList (groupedReversed (Nat.toDigits 10 n).reverse).reverse

end Descent
