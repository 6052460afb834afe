/-!
# Modes of patterns

The modes in which a pattern, or a part of one, is read and matched, and how letter case is
treated in them.
-/

namespace Descent.Pattern

/-- The modes in which a pattern, or a part of one, is read. -/
inductive Flag where
  | ignoreCase
  | multiline
  | dotAll
  | verbose
  | ascii
  | unicode
  | locale
  /-- A mode for patterns without repetitions, for the whole pattern only. -/
  | template
deriving DecidableEq

namespace Flag

/-- The mode with a letter. -/
def ofLetter? : Char → Option Flag
  | 'i' => some .ignoreCase
  | 'm' => some .multiline
  | 's' => some .dotAll
  | 'x' => some .verbose
  | 'a' => some .ascii
  | 'u' => some .unicode
  | 'L' => some .locale
  | 't' => some .template
  | _ => none

/-- The modes that say which characters are letters; at most one of them is in force. -/
def isAlphabet : Flag → Bool
  | .ascii | .unicode | .locale => true
  | _ => false

end Flag

/-- The modes of a part within a pattern: those around it, with some turned on and some off. -/
def scopedModes (around on off : List Flag) : List Flag :=
  let kept := if on.any Flag.isAlphabet then around.filter (!·.isAlphabet) else around
  (kept ++ on).filter (!off.contains ·)

/-! ## Letter case -/

/-- How letter case is treated when characters are compared. -/
inductive Folding where
  /-- Case matters. -/
  | exact
  /-- The case of ASCII letters does not matter. -/
  | ascii
  /-- The case of letters does not matter. -/
  | full
deriving DecidableEq

/-- How letter case is treated in a mode. -/
def foldingOf (modes : List Flag) : Folding :=
  if modes.contains .ignoreCase then
    if modes.contains .ascii then .ascii else .full
  else .exact

end Descent.Pattern
