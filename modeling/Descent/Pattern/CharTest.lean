import Descent.Pattern.Tree
import Descent.Text.Alphanumeric
import Descent.Text.Case
import Descent.Text.Digit
import Descent.Text.Space

/-!
# Tests of single characters

The parts of a pattern that match exactly one character, with their modes resolved: a character,
any character, or a set, up to letter case or not.
-/

namespace Descent.Pattern

/-- Whether a character is in a category, or in its ASCII part. -/
def Category.contains (k : Category) (ascii : Bool) (c : Char) : Bool :=
  match k with
  | .digit => if ascii then c.isDigit else isDecimalDigit c
  | .space => if ascii then isAsciiSpace c else isSpace c
  | .word => if ascii then c.isAlphanum || c == '_' else isWordChar c

/-! ## Letter case -/

namespace Folding

/-- A code point with its case folded away, up to letters that share an upper case. -/
def lower (f : Folding) (n : Nat) : Nat :=
  match f with
  | .exact => n
  | .ascii => asciiLowerCode n
  | .full => lowerCode n

/-- Whether two code points are the same up to case. -/
def same (f : Folding) (m n : Nat) : Bool :=
  match f with
  | .exact => m == n
  | .ascii => asciiLowerCode m == asciiLowerCode n
  | .full => (lowerVariants (lowerCode m)).contains (lowerCode n)

/-- The other code points that are the same as one up to case. -/
def variants (f : Folding) (n : Nat) : List Nat :=
  match f with
  | .exact => []
  | .ascii => if 97 ≤ n && n ≤ 122 then [n - 32] else [asciiLowerCode n]
  | .full => caseVariants n

/-- Whether some code point from `first` to `last` has a case that does not matter. -/
def someCasedIn (f : Folding) (first last : Nat) : Bool :=
  match f with
  | .exact => false
  | .ascii => (first ≤ 90 && 65 ≤ last) || (first ≤ 122 && 97 ≤ last)
  | .full => someCased first last

end Folding

/-! ## Sets -/

/-- The first code point beyond the basic plane. -/
def basicPlaneEnd : Nat := 0x10000

namespace SetItem

/-- Whether a set's item holds a character. Beyond the basic plane the item is compared with the
lower case of the text's character, and a range also with the upper case of that. -/
def contains (f : Folding) (ascii : Bool) (c : Char) : SetItem → Bool
  | .single code =>
    if f == .full && basicPlaneEnd ≤ code then f.lower c.toNat == code else f.same code c.toNat
  | .range first last =>
    let within := fun n => first ≤ n && n ≤ last
    let withinBasic := fun n => n < basicPlaneEnd && within n
    if f == .exact then within c.toNat
    else
      withinBasic c.toNat || (f.variants c.toNat).any withinBasic ||
        (basicPlaneEnd ≤ last &&
          (within (f.lower c.toNat) || within (upperCode (f.lower c.toNat))))
  | .category k negated => k.contains ascii c != negated

/-- Whether letter case matters to how an item is compared. -/
def isFolded (f : Folding) : SetItem → Bool
  | .single code => f != .exact && (basicPlaneEnd ≤ code || f.someCasedIn code code)
  | .range first last => f != .exact && (basicPlaneEnd ≤ last || f.someCasedIn first last)
  | .category .. => false

end SetItem

/-! ## Tests -/

/-- A condition on one character. -/
inductive CharTest where
  /-- A character, or any but that one. -/
  | char (folding : Folding) (negated : Bool) (code : Nat)
  /-- Any character, line ends included or not. -/
  | any (lineEnds : Bool)
  /-- A character of a set, or any outside it. -/
  | set (folding : Folding) (ascii negated : Bool) (items : List SetItem)
deriving DecidableEq

namespace CharTest

/-- Whether a character passes a test. -/
def accepts (c : Char) : CharTest → Bool
  | .char f negated code => f.same code c.toNat != negated
  | .any lineEnds => lineEnds || c != '\n'
  | .set f ascii negated items => items.any (·.contains f ascii c) != negated

/-- Whether the character at an index passes a test; there is none outside the text. -/
def acceptsAt (t : CharTest) (text : Array Char) (pos : Nat) : Bool :=
  text[pos]?.any t.accepts

/-- The one character that passes a test for which case does not play a role. -/
def literal? : CharTest → Option Nat
  | .char f false code => if f.someCasedIn code code then none else some code
  | _ => none

/-- Whether a test is a set for which case does not play a role. -/
def isPlainSet : CharTest → Bool
  | .set f _ _ items => !items.any (·.isFolded f)
  | _ => false

/-- Whether a test is made one character at a time when it is repeated: a set up to case, or a
letter that shares its upper case with another one. -/
def isStepwise : CharTest → Bool
  | .set f _ _ items => items.any (·.isFolded f)
  | .char .full _ code => someCased code code && 1 < (lowerVariants (lowerCode code)).length
  | _ => false

end CharTest

end Descent.Pattern
