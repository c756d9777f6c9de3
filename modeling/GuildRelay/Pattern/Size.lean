import GuildRelay.Pattern.Basic
/-!
# Size of patterns

A pattern is refused if a machine for it would take too much room. `Pattern.room` counts its states
and transitions with counted repetitions written out.
-/

namespace GuildRelay.Pattern

/-- The room of a state, in bytes. -/
def stateRoom : Nat := 32

/-- The room of a transition, in bytes. -/
def transitionRoom : Nat := 8

/-- The most room that a pattern may take, in bytes. -/
def roomLimit : Nat := 10 * 1024 * 1024

/-- How many bytes a character takes in UTF-8. -/
def encodedSize (n : Nat) : Nat :=
  if n < 0x80 then 1 else if n < 0x800 then 2 else if n < 0x10000 then 3 else 4

/-- The room for one character of a class. -/
def classRoom : CharClass → Nat
  | .ranges [r] =>
    if r.first = r.last then stateRoom * encodedSize r.first
    else if r.last < 0x80 then 2 * stateRoom + transitionRoom
    else 2 * stateRoom + 4 * (stateRoom + 2 * transitionRoom)
  | c => if c.isAscii then 2 * stateRoom + transitionRoom * c.weight
         else 2 * stateRoom + (stateRoom + 2 * transitionRoom) * c.weight

/-- The pattern matches no character at all. -/
def isBare : Pattern → Bool
  | empty => true
  | one _ => false
  | look _ => true
  | seq p q => p.isBare && q.isBare
  | alt p q => p.isBare && q.isBare
  | times p _ most => most = some 0 || p.isBare
  | group p => p.isBare

/-- The room for a machine that runs the pattern. To repeat what matches no character takes no more
room than to have it once. -/
def room : Pattern → Nat
  | empty => stateRoom
  | one c => classRoom c
  | look _ => stateRoom
  | seq p q => p.room + q.room
  | alt p q => p.room + q.room + 2 * stateRoom
  | times p least most =>
    if p.isBare then p.room + stateRoom
    else
      match most with
      | none => if least = 0 then p.room + 3 * stateRoom else least * p.room + stateRoom
      | some most => most * p.room + (most - least + 1) * stateRoom
  | group p => p.room + 2 * stateRoom

end GuildRelay.Pattern
