import GuildRelay.Store.Cell
import GuildRelay.Text.Entries
/-!
# Stores

A `Store` has a cell for every key, and all but finitely many cells are empty. `Store.cell` is the
view of a store: `cell_put` says what writing a cell does to it.
-/

namespace GuildRelay

/-- The cells of a store that are not empty. -/
structure Store where
  cells : List (String × Cell) := []
deriving DecidableEq, Repr

namespace Store

/-- What is kept under a key. -/
def cell (s : Store) (key : String) : Cell :=
  (s.cells.lookup key).getD {}

/-- The store with another cell under a key. -/
def put (s : Store) (key : String) (c : Cell) : Store :=
  let others := Entries.without s.cells key
  if c = {} then ⟨others⟩ else ⟨(key, c) :: others⟩

/-- The answer to an operation at a moment, and the store after it. -/
def answer (now : Nat) (s : Store) (key : String) (op : Operation) : op.Reply × Store :=
  let (reply, c) := (s.cell key).answer now op
  (reply, s.put key c)

/-- The keys whose cells are not empty. -/
def keys (s : Store) : List String :=
  s.cells.map (·.1)

/-! ## The view -/

/-- Writing a cell changes the cell under its key and no other. -/
theorem cell_put (s : Store) (k k' : String) (c : Cell) :
    (s.put k c).cell k' = if k' = k then c else s.cell k' := by
  by_cases hk : k' = k
  · subst hk
    by_cases hc : c = {}
    · simp [put, cell, hc, Entries.lookup_without_self]
    · simp [put, cell, hc]
  · by_cases hc : c = {}
    · simp [put, cell, hc, hk, Entries.lookup_without_ne hk]
    · have hb : (k' == k) = false := by simpa using hk
      simp [put, cell, hc, hk, List.lookup_cons, hb, Entries.lookup_without_ne hk]

/-- An operation changes the cell under its key and no other. -/
theorem cell_answer (now : Nat) (s : Store) (key : String) (op : Operation) (k : String) :
    (s.answer now key op).2.cell k =
      if k = key then ((s.cell key).answer now op).2 else s.cell k := by
  simp [answer, cell_put]

theorem reply_answer (now : Nat) (s : Store) (key : String) (op : Operation) :
    (s.answer now key op).1 = ((s.cell key).answer now op).1 := rfl

end Store

end GuildRelay
