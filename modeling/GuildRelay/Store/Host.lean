import GuildRelay.Store.Basic
import GuildRelay.Store.Program
/-!
# Hosts

A `Host` answers the calls of programs from a store in memory. It also plays what may go wrong: a
call may fail before it reaches the store, and fetched ban lists depend on the fetches before. It
keeps a record of all calls and fetches.
-/

namespace GuildRelay

/-- A call to a store. -/
structure StoreCall where
  key : String
  op : Operation
deriving DecidableEq, Repr

/-- A store in memory with its surroundings. -/
structure Host where
  store : Store := {}
  /-- The time in milliseconds. -/
  now : Nat := 0
  /-- The error that a call fails with, by the number of calls before. -/
  faults : Nat → Option CacheError := fun _ => none
  /-- The ban list of a guild, by the guilds asked for before, the latest first. -/
  banLists : List String → String → Except CacheError (List Ban) := fun _ _ => .error .notFound
  /-- The calls made, the latest first. -/
  calls : List StoreCall := []
  /-- The guilds whose ban lists were fetched, the latest first. -/
  fetches : List String := []

namespace Host

/-- Answers a call. -/
def call (h : Host) (key : String) (op : Operation) : Except CacheError op.Reply × Host :=
  let fault := h.faults h.calls.length
  let h := { h with calls := ⟨key, op⟩ :: h.calls }
  match fault with
  | some e => (.error e, h)
  | none =>
    let (reply, store) := h.store.answer h.now key op
    (.ok reply, { h with store })

/-- Answers a fetch. -/
def fetchBans (h : Host) (guildId : String) : Except CacheError (List Ban) × Host :=
  (h.banLists h.fetches guildId, { h with fetches := guildId :: h.fetches })

/-- A host as whoever answers calls. -/
def backend : Backend Host := ⟨call, fetchBans⟩

/-- The host whose next calls, after some that pass, fail a number of times. -/
def failing (h : Host) (after times : Nat) (e : CacheError) : Host :=
  let first := h.calls.length + after
  { h with faults := fun n => if first ≤ n && n < first + times then some e else none }

/-- What is under a key and has not expired. -/
structure Content where
  value : Option String
  members : List String
  items : List String
deriving DecidableEq

/-- What is under a key now. -/
def content (h : Host) (key : String) : Content :=
  let c := h.store.cell key
  ⟨c.liveValue h.now, c.members, c.items⟩

/-- Nothing is there. -/
def Content.isEmpty (c : Content) : Bool :=
  c.value.isNone && c.members.isEmpty && c.items.isEmpty

/-- The keys under which something is. -/
def liveKeys (h : Host) : List String :=
  h.store.keys.filter fun key => !(h.content key).isEmpty

/-- The keys under which something else is than on another host. -/
def changedKeys (before after : Host) : List String :=
  let fresh := after.store.keys.filter fun key => !before.store.keys.contains key
  (before.store.keys ++ fresh).filter fun key => before.content key != after.content key

/-- How many keys have a value that has not expired. -/
def valueCount (h : Host) : Nat :=
  (h.store.keys.filter fun key => (h.content key).value.isSome).length

end Host

end GuildRelay
