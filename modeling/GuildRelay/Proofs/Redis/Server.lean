import GuildRelay.Redis.Command
import GuildRelay.Store.Host
import GuildRelay.Store.Range
/-!
# What a Redis server does

The meaning of the commands that the operations of a store are asked with, as far as they are asked
(`Operation.request`). A `RedisServer` has one kind of data under a name: a text, a set or a list.
A command for another kind is refused, and a set or a list without items is gone. A text may expire
and is then as good as gone; the server may forget it at once or later. The members of a set are
listed in any order, which may be another one every time.

`RedisHost` answers the calls of programs with such a server in place of a store in memory.
-/

namespace GuildRelay

/-! ## Data -/

/-- What a server keeps under a name. -/
inductive RedisData where
  | text (s : String)
  /-- In any order, without repetitions. -/
  | set (members : List String)
  | list (items : List String)
deriving DecidableEq, Repr

structure RedisEntry where
  data : RedisData
  expiry : Option Nat := none
deriving DecidableEq, Repr

def RedisEntry.isLive (now : Nat) (e : RedisEntry) : Bool :=
  match e.expiry with
  | some moment => now < moment
  | none => true

/-- A server, whose commands all succeed in reaching it. -/
structure RedisServer where
  entries : List (String × RedisEntry) := []
  /-- The time in milliseconds. -/
  now : Nat := 0
  /-- The commands carried out with what came back, the latest first. -/
  log : List (RedisCommand × RedisValue) := []
  /-- The order in which members are listed, by the number of commands before. -/
  arrange : Nat → List String → List String := fun _ members => members
  arrange_perm : ∀ count members, (arrange count members).Perm members := by
    exact fun _ _ => .refl _

/-- The same in both, but for the order of members. -/
structure Host.Content.SameAs (x y : Host.Content) : Prop where
  value : x.value = y.value
  members : x.members.Perm y.members
  items : x.items = y.items

namespace RedisEntry

/-- The members of a set, which has none where nothing is kept. -/
def members? : Option RedisEntry → Option (List String)
  | none => some []
  | some ⟨.set members, _⟩ => some members
  | _ => none

/-- The items of a list, which has none where nothing is kept. -/
def items? : Option RedisEntry → Option (List String)
  | none => some []
  | some ⟨.list items, _⟩ => some items
  | _ => none

/-- The entry with other members; without members it is gone. -/
def withMembers (e : Option RedisEntry) : List String → Option RedisEntry
  | [] => none
  | m :: ms => some ⟨.set (m :: ms), e.bind (·.expiry)⟩

/-- The entry with other items; without items it is gone. -/
def withItems (e : Option RedisEntry) : List String → Option RedisEntry
  | [] => none
  | i :: is => some ⟨.list (i :: is), e.bind (·.expiry)⟩

def content : Option RedisEntry → Host.Content
  | none => ⟨none, [], []⟩
  | some ⟨.text s, _⟩ => ⟨some s, [], []⟩
  | some ⟨.set members, _⟩ => ⟨none, members, []⟩
  | some ⟨.list items, _⟩ => ⟨none, [], items⟩

end RedisEntry

/-! ## Words -/

namespace RedisServer

/-- The refusal of a command for another kind of data. -/
def wrongType : RedisValue :=
  .error "WRONGTYPE Operation against a key holding the wrong kind of value"

/-- The refusal of a word that is no number of 64 bits. -/
def noInteger : RedisValue :=
  .error "ERR value is not an integer or out of range"

def badSyntax : RedisValue :=
  .error "ERR syntax error"

/-- The refusal of a time that is over at once. -/
def badExpiry : RedisValue :=
  .error "ERR invalid expire time in set"

/-- A number of 64 bits, in its plain decimal form. -/
def numberOf? (word : String) : Option Int :=
  match RedisValue.integerOf? word with
  | some n =>
    if -9223372036854775808 ≤ n ∧ n < 9223372036854775808 ∧ toString n = word then some n else none
  | none => none

structure SetOptions where
  /-- Nothing is written where there is something. -/
  ifAbsent : Bool := false
  /-- After how many milliseconds the text expires. -/
  ttl : Option Nat := none
deriving DecidableEq

/-- What the words behind a text tell about writing it. -/
def setOptions : List String → Except RedisValue SetOptions
  | [] => .ok {}
  | "NX" :: rest => (setOptions rest).map fun o => { o with ifAbsent := true }
  | "PX" :: word :: rest =>
    match numberOf? word with
    | some n =>
      if 0 < n then (setOptions rest).map fun o => { o with ttl := some n.toNat }
      else .error badExpiry
    | none => .error noInteger
  | _ => .error badSyntax

def rangeOf? (start stop : String) : Option (Int × Int) :=
  match numberOf? start, numberOf? stop with
  | some first, some last => some (first, last)
  | _, _ => none

/-- The items of a list from one position to another, both included. Negative positions count from
the end, and a position that is out of range is taken for the nearest. -/
def range {α : Type} (start stop : Int) (items : List α) : List α :=
  let first := if start < 0 then max 0 (items.length + start) else start
  let last := min (if stop < 0 then items.length + stop else stop) (items.length - 1)
  if last < first then [] else (items.drop first.toNat).take (last - first + 1).toNat

def addMembers (new members : List String) : List String :=
  new.foldl (fun ms m => if m ∈ ms then ms else m :: ms) members

/-! ## Commands -/

/-- What comes back for a command with a name and words behind the key, and what is under the key
then. `e` is what is there and has not expired. -/
def answer (now : Nat) (arrange : List String → List String) (e : Option RedisEntry) :
    String → List String → RedisValue × Option RedisEntry
  | "SET", text :: options =>
    match setOptions options with
    | .ok o =>
      if o.ifAbsent && e.isSome then (.nil, e)
      else (.okay, some ⟨.text text, o.ttl.map (now + ·)⟩)
    | .error refusal => (refusal, e)
  | "GET", [] =>
    match e with
    | none => (.nil, e)
    | some ⟨.text s, _⟩ => (.ofText s, e)
    | some _ => (wrongType, e)
  | "DEL", [] => (.integer (if e.isSome then 1 else 0), none)
  | "SADD", m :: ms =>
    match RedisEntry.members? e with
    | some members =>
      let all := addMembers (m :: ms) members
      (.integer (all.length - members.length), RedisEntry.withMembers e all)
    | none => (wrongType, e)
  | "SREM", m :: ms =>
    match RedisEntry.members? e with
    | some members =>
      let rest := members.filter fun member => member ∉ m :: ms
      (.integer (members.length - rest.length), RedisEntry.withMembers e rest)
    | none => (wrongType, e)
  | "SMEMBERS", [] =>
    match RedisEntry.members? e with
    | some members => (.ofTexts (arrange members), e)
    | none => (wrongType, e)
  | "SISMEMBER", [member] =>
    match RedisEntry.members? e with
    | some members => (.integer (if member ∈ members then 1 else 0), e)
    | none => (wrongType, e)
  | "LPUSH", i :: is =>
    match RedisEntry.items? e with
    | some items =>
      let all := (i :: is).reverse ++ items
      (.integer all.length, RedisEntry.withItems e all)
    | none => (wrongType, e)
  | "LTRIM", [start, stop] =>
    match rangeOf? start stop, RedisEntry.items? e with
    | some (first, last), some items => (.okay, RedisEntry.withItems e (range first last items))
    | none, _ => (noInteger, e)
    | _, none => (wrongType, e)
  | "LRANGE", [start, stop] =>
    match rangeOf? start stop, RedisEntry.items? e with
    | some (first, last), some items => (.ofTexts (range first last items), e)
    | none, _ => (noInteger, e)
    | _, none => (wrongType, e)
  | _, _ => (badSyntax, e)

/-- What the server keeps under a name, expired or not. -/
def stored (d : RedisServer) (key : String) : Option RedisEntry :=
  d.entries.lookup key

/-- What the server has under a name. -/
def entry (d : RedisServer) (key : String) : Option RedisEntry :=
  (d.stored key).filter (·.isLive d.now)

def put (d : RedisServer) (key : String) (e : Option RedisEntry) : RedisServer :=
  { d with entries := (e.map (key, ·)).toList ++ Entries.without d.entries key }

def execute (d : RedisServer) (command : RedisCommand) : RedisValue × RedisServer :=
  match command with
  | name :: key :: words =>
    let (v, e) := answer d.now (d.arrange d.log.length) (d.entry key) name words
    (v, { d.put key e with log := (command, v) :: d.log })
  | _ => (badSyntax, { d with log := (command, badSyntax) :: d.log })

def call (d : RedisServer) (key : String) (op : Operation) :
    Except CacheError op.Reply × RedisServer :=
  match op.request key with
  | .inl reply => (.ok reply, d)
  | .inr command =>
    let (v, d) := d.execute command
    (op.ofValue v, d)

/-- What is under a name and has not expired. -/
def content (d : RedisServer) (key : String) : Host.Content :=
  RedisEntry.content (d.entry key)

def RefusesNone (d : RedisServer) : Prop :=
  ∀ exchange ∈ d.log, exchange.2.refusal? = none

/-! ## Entries -/

theorem stored_put (d : RedisServer) (key name : String) (e : Option RedisEntry) :
    (d.put key e).stored name = if name = key then e else d.stored name := by
  by_cases h : name = key
  · subst h
    cases e with
    | none => simp [put, stored, Entries.lookup_without_self]
    | some e => simp [put, stored]
  · have hne : (name == key) = false := beq_eq_false_iff_ne.mpr h
    cases e with
    | none => simp [put, stored, Entries.lookup_without_ne h, h]
    | some e => simp [put, stored, List.lookup_cons, hne, Entries.lookup_without_ne h, h]

end RedisServer

/-- A server in place of a store in memory. Ban lists are fetched as before. -/
structure RedisHost where
  server : RedisServer := {}
  /-- The ban list of a guild, by the guilds asked for before, the latest first. -/
  banLists : List String → String → Except CacheError (List Ban) := fun _ _ => .error .notFound
  /-- The guilds whose ban lists were fetched, the latest first. -/
  fetches : List String := []

namespace RedisHost

def call (d : RedisHost) (key : String) (op : Operation) : Except CacheError op.Reply × RedisHost :=
  let (reply, server) := d.server.call key op
  (reply, { d with server })

def fetchBans (d : RedisHost) (guildId : String) : Except CacheError (List Ban) × RedisHost :=
  (d.banLists d.fetches guildId, { d with fetches := guildId :: d.fetches })

def backend : Backend RedisHost := ⟨call, fetchBans⟩

end RedisHost

end GuildRelay
