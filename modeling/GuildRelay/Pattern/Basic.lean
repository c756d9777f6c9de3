import GuildRelay.Pattern.Property
/-!
# Patterns

A `Pattern` is a regular expression with looks at the neighbours of a place in a text. A place lies
between two characters or at an end, and a set of places is a number with a bit for each.
`Pattern.ends` sends the places where a match may start to those where it may end. Patterns are one
engine among those that routing tables can be used with.
-/

namespace GuildRelay

/-- A place in a text, by the characters on both sides. -/
structure Place where
  before : Option Char
  after : Option Char
deriving DecidableEq, Repr

/-- The places of a text that follows a character. -/
def placesFrom (before : Option Char) : List Char → List Place
  | [] => [⟨before, none⟩]
  | c :: rest => ⟨before, some c⟩ :: placesFrom (some c) rest

/-- The places of a text. -/
def places (cs : List Char) : List Place :=
  placesFrom none cs

/-- What can be asked of a place. -/
inductive Look where
  | textStart
  | textEnd
  /-- At the start of a line; with `crlf`, both parts of a line break end lines. -/
  | lineStart (crlf : Bool)
  | lineEnd (crlf : Bool)
  | wordBoundary (unicode : Bool)
  | noWordBoundary (unicode : Bool)
  | wordStart (unicode : Bool)
  | wordEnd (unicode : Bool)
  | wordStartHalf (unicode : Bool)
  | wordEndHalf (unicode : Bool)
deriving DecidableEq, Repr

namespace Look

/-- A character of a word is on this side. -/
def isWord (unicode : Bool) (side : Option Char) : Bool :=
  side.any (Pattern.wordClass unicode).holds

/-- The look is true of a place. -/
def holds : Look → Place → Bool
  | textStart, p => p.before.isNone
  | textEnd, p => p.after.isNone
  | lineStart crlf, p =>
    p.before.isNone || p.before == some '\n' ||
      (crlf && p.before == some '\r' && p.after != some '\n')
  | lineEnd crlf, p =>
    p.after.isNone ||
      if crlf then p.after == some '\r' || (p.after == some '\n' && p.before != some '\r')
      else p.after == some '\n'
  | wordBoundary u, p => isWord u p.before != isWord u p.after
  | noWordBoundary u, p => isWord u p.before == isWord u p.after
  | wordStart u, p => !isWord u p.before && isWord u p.after
  | wordEnd u, p => isWord u p.before && !isWord u p.after
  | wordStartHalf u, p => !isWord u p.before
  | wordEndHalf u, p => !isWord u p.after

end Look

/-- A regular expression. -/
inductive Pattern where
  /-- Nothing. -/
  | empty
  /-- One character of a class. -/
  | one (c : CharClass)
  /-- Nothing, where a look is true. -/
  | look (l : Look)
  | seq (p q : Pattern)
  | alt (p q : Pattern)
  /-- At least `least` times and, if there is a bound, at most `most` times. -/
  | times (p : Pattern) (least : Nat) (most : Option Nat)
  /-- A part in parentheses. -/
  | group (p : Pattern)
deriving DecidableEq, Repr

/-! ## Sets of places -/

/-- The set of the places for which a test is true. -/
def placeSet (test : Place → Bool) : List Place → Nat
  | [] => 0
  | p :: rest => 2 * placeSet test rest + if test p then 1 else 0

/-- Applies a step some times; it ends early where the step changes nothing. -/
def applyTimes (step : Nat → Nat) : Nat → Nat → Nat
  | 0, s => s
  | n + 1, s =>
    let t := step s
    if t = s then s else applyTimes step n t

/-- Adds what a step reaches, some times over. -/
def grow (step : Nat → Nat) (n s : Nat) : Nat :=
  applyTimes (fun t => t ||| step t) n s

namespace Pattern

/-- Where matches end that start at one of the given places. -/
def ends (ps : List Place) : Pattern → Nat → Nat
  | empty, s => s
  | one c, s => 2 * (s &&& placeSet (fun p => p.after.any c.holds) ps)
  | look l, s => s &&& placeSet l.holds ps
  | seq p q, s => q.ends ps (p.ends ps s)
  | alt p q, s => p.ends ps s ||| q.ends ps s
  | times p least most, s =>
    let s := applyTimes (p.ends ps) least s
    grow (p.ends ps) ((most.map (· - least)).getD ps.length) s
  | group p, s => p.ends ps s

/-- Some part of the text matches. -/
def isMatch (p : Pattern) (text : String) : Bool :=
  let ps := places text.toList
  p.ends ps (placeSet (fun _ => true) ps) != 0

end Pattern

end GuildRelay
