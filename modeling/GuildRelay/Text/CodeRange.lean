/-!
# Ranges of code points

A property of characters is given as a list of inclusive ranges. `ranges` reads the list from its
written form, in which a range is two hexadecimal numbers joined by a hyphen, a single code point is
one number, and blanks separate them.
-/

namespace GuildRelay.Text

/-- The code points from `first` to `last`, both included. -/
structure CodeRange where
  first : Nat
  last : Nat
deriving Repr, DecidableEq

/-- The range holds the character. -/
def CodeRange.holds (r : CodeRange) (c : Char) : Bool :=
  r.first ≤ c.toNat && c.toNat ≤ r.last

/-- Some range of the list holds the character. -/
def inRanges (rs : List CodeRange) (c : Char) : Bool :=
  rs.any fun r => r.holds c

/-- How many ranges are left when those that touch are joined. -/
def countJoined (rs : List CodeRange) : Nat :=
  let sorted := rs.mergeSort fun r s => r.first ≤ s.first
  let joined := sorted.foldl (fun (done : List CodeRange) r =>
    match done with
    | s :: rest =>
      if r.first ≤ s.last + 1 then ⟨s.first, max s.last r.last⟩ :: rest else r :: s :: rest
    | [] => [r]) []
  joined.length

/-! ## The written form -/

/-- The value of a hexadecimal digit of either case. -/
def hexValue? (c : Char) : Option Nat :=
  if '0' ≤ c && c ≤ '9' then some (c.toNat - '0'.toNat)
  else if 'a' ≤ c && c ≤ 'f' then some (c.toNat - 'a'.toNat + 10)
  else if 'A' ≤ c && c ≤ 'F' then some (c.toNat - 'A'.toNat + 10)
  else none

/-- A range being read: the digits before the hyphen, and those after it once it was seen. -/
structure RangeReader where
  done : List CodeRange
  first : Option Nat
  last : Option Nat

/-- Ends the range being read, if one is. -/
def RangeReader.close (s : RangeReader) : List CodeRange :=
  match s.first, s.last with
  | some a, some b => ⟨a, b⟩ :: s.done
  | some a, none => ⟨a, a⟩ :: s.done
  | none, _ => s.done

/-- Reads one more character of the written form. -/
def RangeReader.step (s : RangeReader) (c : Char) : RangeReader :=
  match hexValue? c with
  | some d =>
    match s.last with
    | some b => { s with last := some (16 * b + d) }
    | none => { s with first := some (16 * s.first.getD 0 + d) }
  | none => if c = '-' then { s with last := some 0 } else ⟨s.close, none, none⟩

/-- The ranges that a text writes, in order. -/
def ranges (s : String) : List CodeRange :=
  (s.toList.foldl RangeReader.step ⟨[], none, none⟩).close.reverse

end GuildRelay.Text
