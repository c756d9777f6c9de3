import GuildRelay.Text.CaseFold
import GuildRelay.Text.CodeRange
/-!
# Classes of characters

A `CharClass` is an expression for a set of characters, and `CharClass.holds` decides membership.
Ignoring case is one of its operations: a character is in `anyCase c` if one of its case variants is
in `c`.
-/

namespace GuildRelay

open Text

/-- A set of characters. -/
inductive CharClass where
  | ranges (rs : List CodeRange)
  | compl (c : CharClass)
  | union (c d : CharClass)
  | inter (c d : CharClass)
  | diff (c d : CharClass)
  | symmDiff (c d : CharClass)
  /-- All characters that differ from one of the class in case only. -/
  | anyCase (c : CharClass)
  /-- The same with the letters of ASCII alone. -/
  | anyAsciiCase (c : CharClass)
deriving Repr, DecidableEq

namespace CharClass

/-- The character in the other case, if it is a letter of ASCII. -/
def otherAsciiCase (c : Char) : Char :=
  if c.isUpper then c.toLower else c.toUpper

/-- The class has the character. -/
def holds : CharClass → Char → Bool
  | ranges rs, x => inRanges rs x
  | compl c, x => !c.holds x
  | union c d, x => c.holds x || d.holds x
  | inter c d, x => c.holds x && d.holds x
  | diff c d, x => c.holds x && !d.holds x
  | symmDiff c d, x => c.holds x != d.holds x
  | anyCase c, x => (caseVariants x).any c.holds
  | anyAsciiCase c, x => c.holds x || c.holds (otherAsciiCase x)

/-- The class with no character. -/
def none : CharClass := ranges []

/-- The class with one character. -/
def only (c : Char) : CharClass := ranges [⟨c.toNat, c.toNat⟩]

/-- The class of the characters from one to another. -/
def between (first last : Char) : CharClass := ranges [⟨first.toNat, last.toNat⟩]

/-- The class of all characters. -/
def all : CharClass := ranges [⟨0, 0x10FFFF⟩]

/-- The characters of one of several classes. -/
def unions (cs : List CharClass) : CharClass :=
  cs.foldr union none

/-- The class has no character of the upper half of the bytes. -/
def isAscii (c : CharClass) : Bool :=
  (List.range 128).all fun n => !c.holds (Char.ofNat (n + 128))

/-- About how many ranges a class takes. Other cases seldom lie apart from the class. -/
def weight : CharClass → Nat
  | ranges rs => countJoined rs
  | compl c => c.weight + 1
  | union c d => c.weight + d.weight
  | inter c d => c.weight + d.weight
  | diff c d => c.weight + d.weight
  | symmDiff c d => c.weight + d.weight
  | anyCase c => c.weight + 1
  | anyAsciiCase c => c.weight + 1

end CharClass

end GuildRelay
