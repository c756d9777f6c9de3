import GuildRelay.Proofs.Cache.World
import GuildRelay.Proofs.Guild.Codec
/-!
# Typed programs

Every key of the cache is for one thing only: a value, a set or a list (`Key.shape`), and not every
text may stand under it (`Key.Admits`). The text under the key of a record is a record with the id
in the key, and its other ids that keys are made of are plain.

A program is typed when its calls suit their keys whatever it reads, as long as what it reads is
admitted (`Program.Typed`). Two things follow. A typed program leaves everything admitted and ends
with an expected result (`Program.Typed.ensures`), so a text that is no record is never read. And
its calls could be made to any store that tells values, sets and lists apart.

What a program may do besides is told by its `Liberties`. The rules below are for what programs are
made of; the rules for handlers and lookups follow them.
-/

namespace GuildRelay

/-! ## What stands under a key -/

inductive Shape where
  | value
  | set
  | list
deriving DecidableEq, Repr

namespace Key

/-- What the key is for. -/
def shape : Key → Shape
  | guild _ => .value
  | member _ _ => .value
  | channel _ => .value
  | user _ => .value
  | channelMessages _ => .list
  | claim _ _ _ => .value
  | _ => .set

end Key

/-- A guild in the place for an id. -/
def Guild.IsAt (guildId : String) (g : Guild) : Prop :=
  g.id = guildId ∧ ∀ c ∈ g.channelList, PlainId c.id

def Member.IsAt (userId : String) (m : Member) : Prop :=
  m.user.id = userId ∧ PlainId m.guildId

def Channel.IsAt (channelId : String) (c : Channel) : Prop :=
  c.id = channelId ∧ PlainId c.guildId

def User.IsAt (userId : String) (u : User) : Prop :=
  u.id = userId

/-- A message among those of a channel. -/
def Message.IsAt (channelId : String) (m : Message) : Prop :=
  m.channelId = channelId

/-- The text is the JSON of a record with a property. -/
def IsRecord {α : Type} [Encode α] (P : α → Prop) (text : String) : Prop :=
  ∃ a, text = (encode a).json ∧ P a

/-- The text may stand under the key, as its value, in its set or in its list. -/
def Key.Admits : Key → String → Prop
  | guild guildId => IsRecord (Guild.IsAt guildId)
  | member _ userId => IsRecord (Member.IsAt userId)
  | channel channelId => IsRecord (Channel.IsAt channelId)
  | user userId => IsRecord (User.IsAt userId)
  | channelMessages channelId => IsRecord (Message.IsAt channelId)
  | allGuildIds => PlainId
  | _ => fun _ => True

/-- Under the key there is only what it is for, and what it admits. -/
structure Host.Content.Fits (k : Key) (x : Host.Content) : Prop where
  value : ∀ text ∈ x.value, k.shape = .value ∧ k.Admits text
  members : ∀ id ∈ x.members, k.shape = .set ∧ k.Admits id
  items : ∀ text ∈ x.items, k.shape = .list ∧ k.Admits text

/-- Under every key there is only what it is for, and what it admits. -/
def View.Fits (v : View) : Prop :=
  ∀ k, (v k).Fits k

theorem View.fits_empty : View.Fits fun _ => ⟨none, [], []⟩ := fun _ =>
  ⟨fun _ h => absurd h (Option.not_mem_none _), fun _ h => absurd h List.not_mem_nil,
    fun _ h => absurd h List.not_mem_nil⟩

theorem View.Fits.update {v : View} (hv : v.Fits) {k : Key} {x : Host.Content} (hx : x.Fits k) :
    View.Fits (Function.update v k x) := by
  intro k'
  by_cases h : k' = k
  · rw [h, Function.update_self]
    exact hx
  · rw [Function.update_of_ne h]
    exact hv k'

theorem Key.admits_of_isBan {k : Key} (hk : k.isBan = true) (text : String) : k.Admits text := by
  cases k <;> first | exact trivial | cases hk

/-! ## Operations on a key -/

theorem mem_of_mem_slice {α : Type} {start stop : Int} {items : List α} {a : α}
    (h : a ∈ slice start stop items) : a ∈ items :=
  List.mem_of_mem_take (List.mem_of_mem_drop h)

namespace Operation

/-- The operation is for keys like this one, and what it brings is admitted. -/
def Suits (k : Key) : Operation → Prop
  | set text _ => k.shape = .value ∧ k.Admits text
  | setIfAbsent text _ => k.shape = .value ∧ k.Admits text
  | get => k.shape = .value
  | delete => True
  | addToSet ids => k.shape = .set ∧ ∀ id ∈ ids, k.Admits id
  | removeFromSet _ => k.shape = .set
  | setMembers => k.shape = .set
  | isSetMember _ => k.shape = .set
  | pushList texts => k.shape = .list ∧ ∀ text ∈ texts, k.Admits text
  | trimList _ _ => k.shape = .list
  | rangeList _ _ => k.shape = .list

def Reads (k : Key) : (op : Operation) → op.Reply → Prop
  | get, reply => ∀ text ∈ reply, k.Admits text
  | setMembers, reply => ∀ id ∈ reply, k.Admits id
  | rangeList _ _, reply => ∀ text ∈ reply, k.Admits text
  | _, _ => True

theorem Suits.isOnSet {k : Key} {op : Operation} (h : op.Suits k) (hk : k.shape = .set) :
    op.isOnSet = true := by
  cases op with
  | set | setIfAbsent | pushList => exact nomatch hk.symm.trans h.1
  | get | trimList | rangeList => exact nomatch hk.symm.trans h
  | _ => rfl

end Operation

/-- An operation that suits the key keeps to what the key admits. -/
theorem Host.Content.Fits.answer {k : Key} {x : Host.Content} (hx : x.Fits k) {op : Operation}
    (hop : op.Suits k) (live : Bool) : (x.answer live op).2.Fits k := by
  cases op with
  | set text ttl =>
      refine ⟨fun text' h => ?_, hx.members, hx.items⟩
      rw [← Option.mem_some.mp h]
      exact hop
  | setIfAbsent text ttl =>
      simp only [Host.Content.answer]
      split
      · exact hx
      · refine ⟨fun text' h => ?_, hx.members, hx.items⟩
        rw [← Option.mem_some.mp h]
        exact hop
  | delete => exact View.fits_empty k
  | addToSet ids =>
      refine ⟨hx.value, fun id h => ?_, hx.items⟩
      rcases mem_insertAll.mp h with h | h
      · exact ⟨hop.1, hop.2 id h⟩
      · exact hx.members id h
  | removeFromSet id =>
      exact ⟨hx.value, fun id' h => hx.members id' (List.mem_filter.mp h).1, hx.items⟩
  | pushList texts =>
      refine ⟨hx.value, hx.members, fun text h => ?_⟩
      rcases List.mem_append.mp h with h | h
      · exact ⟨hop.1, hop.2 text (List.mem_reverse.mp h)⟩
      · exact hx.items text h
  | trimList start stop =>
      exact ⟨hx.value, hx.members, fun text h => hx.items text (mem_of_mem_slice h)⟩
  | get | setMembers | isSetMember | rangeList => exact hx

theorem Host.Content.Fits.reads {k : Key} {x : Host.Content} (hx : x.Fits k) (live : Bool)
    (op : Operation) : op.Reads k (x.answer live op).1 := by
  cases op with
  | get =>
      intro text h
      cases live with
      | true => exact (hx.value text h).2
      | false => exact absurd h (Option.not_mem_none _)
  | setMembers => exact fun id h => (hx.members id h).2
  | rangeList start stop => exact fun text h => (hx.items text (mem_of_mem_slice h)).2
  | _ => exact trivial

/-! ## Programs -/

/-- What a typed program may do besides. -/
structure Liberties where
  /-- It may ask for all members of a set. -/
  listing : Bool
  /-- It may use numbers that a server cannot count, and times that are over at once. -/
  unbounded : Bool
  /-- It may fetch ban lists, which may fail in any way. -/
  fetching : Bool

def IsCountable (n : Int) : Prop :=
  -9223372036854775808 ≤ n ∧ n < 9223372036854775808

/-- A time that passes, and that a server can count in milliseconds. -/
def IsGranted (ttl : Nat) : Prop :=
  0 < ttl ∧ IsCountable ttl

namespace Operation

/-- A server can count the numbers of the operation, and its times do pass. -/
def IsBounded : Operation → Prop
  | set _ ttl => ∀ n ∈ ttl, IsGranted n
  | setIfAbsent _ ttl => IsGranted ttl
  | trimList start stop => IsCountable start ∧ IsCountable stop
  | rangeList start stop => IsCountable start ∧ IsCountable stop
  | _ => True

end Operation

namespace Liberties

def Permits (l : Liberties) (op : Operation) : Prop :=
  (op = .setMembers → l.listing = true) ∧ (l.unbounded = false → op.IsBounded)

def Covers (l : Liberties) (settings : CacheSettings) : Prop :=
  l.unbounded = false → ∀ ttl ∈ settings.expiry, IsGranted ttl

/-- What an action may end with: a result as expected, or an error. Only where ban lists are fetched
it may be any error. -/
def Expects {α : Type} (l : Liberties) (P : α → Prop) : Except CacheError α → Prop
  | .ok x => P x
  | .error e => l.fetching = true ∨ e.isExpected = true

end Liberties

namespace Program

variable {α β : Type} {l : Liberties}

/-- As long as what it reads is admitted, the program calls plain keys with operations that suit
them, and its result is as `P` says. -/
def Typed (l : Liberties) : Program Key α → (α → Prop) → Prop
  | done a, P => P a
  | call k op next, P =>
    k.IsPlain ∧ op.Suits k ∧ l.Permits op ∧
      ∀ reply, op.Reads k reply → (next (.ok reply)).Typed l P
  | fetchBans _ next, P => l.fetching = true ∧ ∀ reply, (next reply).Typed l P

theorem Typed.mono {P P' : α → Prop} (h : ∀ a, P a → P' a) :
    ∀ {p : Program Key α}, p.Typed l P → p.Typed l P'
  | done a, hp => h a hp
  | call _ _ _, ⟨hk, hop, hl, hnext⟩ =>
      ⟨hk, hop, hl, fun reply hreply => (hnext reply hreply).mono h⟩
  | fetchBans _ _, ⟨hl, hnext⟩ => ⟨hl, fun reply => (hnext reply).mono h⟩

theorem Typed.andThen {f : α → Program Key β} {P : α → Prop} {Q : β → Prop}
    (hf : ∀ a, P a → (f a).Typed l Q) :
    ∀ {p : Program Key α}, p.Typed l P → (p.andThen f).Typed l Q
  | done a, hp => hf a hp
  | call _ _ _, ⟨hk, hop, hl, hnext⟩ =>
      ⟨hk, hop, hl, fun reply hreply => (hnext reply hreply).andThen hf⟩
  | fetchBans _ _, ⟨hl, hnext⟩ => ⟨hl, fun reply => (hnext reply).andThen hf⟩

/-- The surroundings in which anything may happen beside a program. -/
def anywhere : Surroundings := ⟨true, true⟩

/-- A typed program ends as expected and leaves everything admitted, whatever happens beside it. -/
theorem Typed.ensures {P : α → Prop} :
    ∀ {p : Program Key α} {v : View}, p.Typed l P → v.Fits →
      p.Ensures anywhere v fun a v' => P a ∧ v'.Fits
  | done _, _, hp, hv => ⟨hp, hv⟩
  | call k op next, v, ⟨hk, hop, _, hnext⟩, hv => by
      have hset : k.isBan = true → op.isOnSet = true := fun hban =>
        hop.isOnSet (by cases k <;> first | rfl | cases hban)
      refine ⟨hk, ⟨nofun, hset⟩, fun live reply _ hreply => ?_⟩
      refine (hnext reply ?_).ensures (hv.update ((hv k).answer hop live))
      cases hshared : anywhere.shares k with
      | false =>
          rw [hreply hshared]
          exact (hv k).reads live op
      | true =>
          -- Others write to the key, but it admits everything.
          have hadmits := Key.admits_of_isBan (k := k) hshared
          cases op <;> first | exact trivial | exact fun text _ => hadmits text
  | fetchBans _ _, _, ⟨_, hnext⟩, hv => fun reply => (hnext reply).ensures hv

end Program

/-! ## Actions -/

namespace Action

variable {α β : Type} {l : Liberties}

/-- The action is typed, and ends with a result as `P` says or with an error. -/
def Typed (l : Liberties) (a : Action Key α) (P : α → Prop) : Prop :=
  (ExceptT.run a).Typed l (l.Expects P)

namespace Typed

variable {P : α → Prop} {Q : β → Prop}

theorem mono {P' : α → Prop} {a : Action Key α} (ha : a.Typed l P) (h : ∀ x, P x → P' x) :
    a.Typed l P' := by
  refine Program.Typed.mono (fun r hr => ?_) ha
  cases r with
  | ok x => exact h x hr
  | error e => exact hr

theorem pure {x : α} (h : P x) : (Pure.pure x : Action Key α).Typed l P :=
  h

theorem throw {e : CacheError} (h : e.isExpected = true) :
    (MonadExcept.throw e : Action Key α).Typed l P :=
  .inr h

theorem bind {a : Action Key α} {f : α → Action Key β} (ha : a.Typed l P)
    (hf : ∀ x, P x → (f x).Typed l Q) : (a >>= f).Typed l Q := by
  unfold Typed
  rw [run_bind]
  refine Program.Typed.andThen (fun r hr => ?_) ha
  cases r with
  | ok x => exact hf x hr
  | error e => exact hr

/-- What the first action ends with does not matter. -/
theorem next {a : Action Key α} {f : α → Action Key β} (ha : a.Typed l fun _ => True)
    (hf : ∀ x, (f x).Typed l Q) : (a >>= f).Typed l Q :=
  ha.bind fun x _ => hf x

theorem found {a : Action Key α} (ha : a.Typed l P) : a.found.Typed l fun x => ∀ y ∈ x, P y := by
  refine Program.Typed.andThen (fun r hr => ?_) ha
  rcases r with (_ | _) | x
  case ok => exact fun y hy => Option.mem_some.mp hy ▸ hr
  case error.notFound => exact fun y hy => absurd hy (Option.not_mem_none y)
  all_goals exact hr

theorem ofOption {o : Option α} (h : ∀ x ∈ o, P x) :
    (Action.ofOption o : Action Key α).Typed l P := by
  cases o with
  | some x => exact h x rfl
  | none => exact .throw rfl

theorem forM {items : List β} {f : β → Action Key Unit}
    (hf : ∀ b ∈ items, (f b).Typed l fun _ => True) : (items.forM f).Typed l fun _ => True := by
  induction items with
  | nil => exact .pure trivial
  | cons b items ih =>
      exact .bind (hf b List.mem_cons_self) fun _ _ =>
        ih fun b' hb' => hf b' (List.mem_cons_of_mem b hb')

theorem ask {k : Key} {op : Operation} {R : op.Reply → Prop} (hk : k.IsPlain) (hop : op.Suits k)
    (hl : l.Permits op) (h : ∀ reply, op.Reads k reply → R reply) : (Action.ask k op).Typed l R :=
  ⟨hk, hop, hl, h⟩

end Typed

end Action

namespace Cache

open GuildRelay.Action

variable {l : Liberties} {settings : CacheSettings} {k : Key}

theorem typed_read {α : Type} [Decode α] [Encode α] [LawfulCodec α] [Writable α] {P : α → Prop}
    (hk : k.IsPlain) (hshape : k.shape = .value) (hadmits : k.Admits = IsRecord P) :
    (read k : CacheAction α).Typed l P := by
  refine .bind (.ask hk hshape ⟨nofun, fun _ => trivial⟩ fun _ h => h) fun reply h => ?_
  cases reply with
  | none => exact .throw rfl
  | some text =>
      have hrecord := h text rfl
      rw [hadmits] at hrecord
      obtain ⟨a, rfl, ha⟩ := hrecord
      show l.Expects P (readText (encode a).json)
      rw [readText_json]
      exact ha

theorem typed_write {α : Type} [Encode α] {P : α → Prop} {a : α} (hs : l.Covers settings)
    (hk : k.IsPlain) (hshape : k.shape = .value) (hadmits : k.Admits = IsRecord P) (ha : P a) :
    (write settings k a).Typed l fun _ => True := by
  refine .ask hk ⟨hshape, ?_⟩ ⟨nofun, hs⟩ fun _ _ => trivial
  rw [hadmits]
  exact ⟨a, rfl, ha⟩

theorem typed_drop (hk : k.IsPlain) : (drop k).Typed l fun _ => True :=
  .ask hk trivial ⟨nofun, fun _ => trivial⟩ fun _ _ => trivial

theorem typed_addIds {ids : List String} (hk : k.IsPlain) (hshape : k.shape = .set)
    (hids : ∀ id ∈ ids, k.Admits id) : (addIds k ids).Typed l fun _ => True :=
  .ask hk ⟨hshape, hids⟩ ⟨nofun, fun _ => trivial⟩ fun _ _ => trivial

theorem typed_removeId {id : String} (hk : k.IsPlain) (hshape : k.shape = .set) :
    (removeId k id).Typed l fun _ => True :=
  .ask hk hshape ⟨nofun, fun _ => trivial⟩ fun _ _ => trivial

theorem typed_ids (hl : l.listing = true) (hk : k.IsPlain) (hshape : k.shape = .set) :
    (ids k).Typed l fun ids => ∀ id ∈ ids, k.Admits id :=
  .ask hk hshape ⟨fun _ => hl, fun _ => trivial⟩ fun _ h => h

end Cache

end GuildRelay
