import GuildRelay.Store.Operation
import GuildRelay.Store.Range
/-!
# Cells of a store

What a store keeps under one key, and the answers to operations. A set is kept in order and without
repetitions; a value that has expired is as good as none.
-/

namespace GuildRelay

/-- A value and the moment at which it expires. -/
structure StoredValue where
  text : String
  expiry : Option Nat
deriving DecidableEq, Repr

/-- The value has not expired. -/
def StoredValue.isLive (v : StoredValue) (now : Nat) : Bool :=
  match v.expiry with
  | some moment => now < moment
  | none => true

/-- What is kept under one key. -/
structure Cell where
  value : Option StoredValue := none
  /-- In order, without repetitions. -/
  members : List String := []
  /-- The newest item first. -/
  items : List String := []
deriving DecidableEq, Repr

/-- A text put into its place in an ordered list, unless it is there. -/
def insertInOrder (s : String) : List String → List String
  | [] => [s]
  | t :: rest =>
    if s = t then t :: rest
    else if s < t then s :: t :: rest
    else t :: insertInOrder s rest

theorem mem_insertInOrder {s t : String} {ts : List String} :
    t ∈ insertInOrder s ts ↔ t = s ∨ t ∈ ts := by
  induction ts with
  | nil => simp [insertInOrder]
  | cons u rest ih =>
    by_cases h : s = u
    · subst h; simp [insertInOrder]
    · by_cases hlt : s < u
      · simp [insertInOrder, h, hlt]
      · simp only [insertInOrder, h, hlt, if_false, List.mem_cons, ih]
        grind

/-- Several texts put into their places in an ordered list. -/
def insertAll (new members : List String) : List String :=
  new.foldl (fun ms m => insertInOrder m ms) members

theorem mem_insertAll {new members : List String} {t : String} :
    t ∈ insertAll new members ↔ t ∈ new ∨ t ∈ members := by
  induction new generalizing members with
  | nil => simp [insertAll]
  | cons s rest ih =>
    have := @ih (insertInOrder s members)
    simp only [insertAll, List.foldl_cons, List.mem_cons] at this ⊢
    rw [this, mem_insertInOrder]
    grind

namespace Cell

/-- The text of the value, if there is one that has not expired. -/
def liveValue (c : Cell) (now : Nat) : Option String :=
  match c.value with
  | some v => if v.isLive now then some v.text else none
  | none => none

/-- The answer to an operation at a moment, and the cell after it. -/
def answer (now : Nat) (c : Cell) : (op : Operation) → op.Reply × Cell
  | .set text ttl => ((), { c with value := some ⟨text, ttl.map (now + ·)⟩ })
  | .get => (c.liveValue now, c)
  | .delete => ((), {})
  | .addToSet members => ((), { c with members := insertAll members c.members })
  | .removeFromSet member => ((), { c with members := c.members.filter (· != member) })
  | .setMembers => (c.members, c)
  | .isSetMember member => (c.members.contains member, c)
  | .pushList items => ((), { c with items := items.reverse ++ c.items })
  | .trimList start stop => ((), { c with items := slice start stop c.items })
  | .rangeList start stop => (slice start stop c.items, c)
  | .setIfAbsent text ttl =>
    if (c.liveValue now).isSome then (false, c)
    else (true, { c with value := some ⟨text, some (now + ttl)⟩ })

end Cell

end GuildRelay
