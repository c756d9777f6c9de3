import GuildRelay.Proofs.Cache.Claims
import GuildRelay.Proofs.Cache.Moves
import GuildRelay.Proofs.Redis.Settled
/-!
# A server in place of a store in memory

A `CacheRequest` is anything that the cache is asked to do: to apply an event, to look something up,
to claim an event, or to fill a ban list. Two services answer requests, `Host.service` from a store
in memory and `RedisHost.service` with a server, and time may pass before every request.

`RedisHost.agrees_with_memory`: whatever is asked, from an empty store on, nobody can tell the two
apart. They answer alike and have the same content, and the server refuses nothing. Only the ids of
an index may come in another order, and another one of several bots may be picked.

Both hold one shelf all the time (`Host.IsPairedWith`). A request is settled, so its outcome is the
same on both, whatever the order in which the server lists members.
-/

namespace GuildRelay

/-! ## Requests -/

/-- What the cache is asked to do. -/
inductive CacheRequest where
  | apply (botId : String) (e : Event)
  | lookup (q : Lookup)
  | claim (e : Event) (source : String)
  | initializeBans (guildId botId : String)
  | backfillBans (guildId botId : String)

namespace CacheRequest

abbrev Result : CacheRequest → Type
  | apply _ _ => Except CacheError (Option String)
  | lookup q => Except CacheError q.Result
  | claim _ _ => Bool
  | initializeBans _ _ => Except CacheError Unit
  | backfillBans _ _ => Unit

def program (settings : CacheSettings) : (r : CacheRequest) → Program Key r.Result
  | apply botId e => ExceptT.run (Cache.apply settings botId e)
  | lookup q => ExceptT.run q.action
  | claim e source => Cache.isNew (Cache.claimKey e source)
  | initializeBans guildId botId => ExceptT.run (Cache.initializeBans guildId botId)
  | backfillBans guildId botId => Cache.backfillBans guildId botId

/-- The guilds, channels and users that keys are made of are named by plain ids. -/
def IsWellNamed : CacheRequest → Prop
  | apply _ e => e.IsWellNamed
  | lookup q => q.IsWellNamed
  | claim _ _ => True
  | initializeBans guildId _ => PlainId guildId
  | backfillBans guildId _ => PlainId guildId

/-- The answers are the same, but for what lookups leave open. -/
def Alike (bots : String → List String) : (r : CacheRequest) → r.Result → r.Result → Prop
  | lookup q, r, r' => q.Alike bots r r'
  | apply _ _, r, r' | claim _ _, r, r' | initializeBans _ _, r, r' | backfillBans _ _, r, r' =>
    r = r'

end CacheRequest

/-- A request, and the milliseconds that pass before it. -/
structure TimedRequest where
  delay : Nat := 0
  request : CacheRequest

/-! ## Services -/

/-- Whoever answers calls, as time goes on. -/
structure Service (σ : Type) extends Backend σ where
  later : σ → Nat → σ

namespace Service

variable {σ : Type} (v : Service σ) (ns : String) (settings : CacheSettings)

/-- The answer to a request, and the state after it. -/
def answer (s : σ) (t : TimedRequest) : t.request.Result × σ :=
  ((t.request.program settings).mapKeys (Key.text ns)).run v.toBackend (v.later s t.delay)

def after (s : σ) (ts : List TimedRequest) : σ :=
  ts.foldl (fun s t => (v.answer ns settings s t).2) s

end Service

namespace Host

def later (h : Host) (delay : Nat) : Host :=
  { h with now := h.now + delay }

def service : Service Host :=
  { backend with later }

def bots (h : Host) (ns guildId : String) : List String :=
  (h.content ((Key.guildBotIds guildId).text ns)).members

end Host

namespace RedisHost

def later (d : RedisHost) (delay : Nat) : RedisHost :=
  { d with server := { d.server with now := d.server.now + delay } }

def service : Service RedisHost :=
  { backend with later }

def IsFresh (d : RedisHost) : Prop :=
  d.server.entries = [] ∧ d.server.log = []

/-- An empty store in memory in the same place, at the same time and with the same ban lists. -/
def inMemory (d : RedisHost) : Host where
  now := d.server.now
  banLists := d.banLists
  fetches := d.fetches

end RedisHost

/-- A store in memory and a server cannot be told apart: they have the same content, have fetched
the same ban lists and answer every request alike, and the server has refused nothing. -/
structure Host.AgreesWith (ns : String) (settings : CacheSettings) (d : RedisHost) (h : Host) :
    Prop where
  content : ∀ name, (h.content name).SameAs (d.server.content name)
  fetches : h.fetches = d.fetches
  answers : ∀ t : TimedRequest, t.request.IsWellNamed →
    t.request.Alike (h.bots ns) (Host.service.answer ns settings h t).1
      (RedisHost.service.answer ns settings d t).1
  refusesNone : d.server.RefusesNone

/-! ## Requests are settled -/

section Settled

open Cache

variable {settings : CacheSettings} {m : Moment} {w : Shelf} {bots bots' : String → List String}

theorem Lookup.Alike.congr {q : Lookup} (hq : q.IsWellNamed)
    (hbots : ∀ guildId, PlainId guildId → bots guildId = bots' guildId)
    {r r' : Except CacheError q.Result} (h : q.Alike bots r r') : q.Alike bots' r r' := by
  cases q with
  | botOfGuild guildId =>
      show SameOrAmong (bots' guildId) r r'
      rw [← hbots guildId hq]
      exact h
  | _ => exact h

theorem CacheRequest.Alike.congr {r : CacheRequest} (hr : r.IsWellNamed)
    (hbots : ∀ guildId, PlainId guildId → bots guildId = bots' guildId) {a a' : r.Result}
    (h : r.Alike bots a a') : r.Alike bots' a a' := by
  cases r with
  | lookup q => exact Lookup.Alike.congr hr hbots h
  | _ => exact h

/-- The outcome of a request does not depend on the order in which members are listed. -/
theorem CacheRequest.settledAt_program (hexpiry : ∀ ttl ∈ settings.expiry, IsGranted ttl)
    (hw : w.Fits) {r : CacheRequest} (hr : r.IsWellNamed) :
    (r.program settings).SettledAt m w (fun _ => True) (r.Alike w.bots) := by
  have htyped : ∀ {α : Type} {P : α → Prop} {p : Program Key α},
      p.Typed Liberties.ofRequests P → p.SettledAt m w (fun _ => True) Eq := fun hp =>
    (hp.settledAt rfl rfl hw).mono (fun _ _ => trivial) fun _ _ h => h
  cases r with
  | apply botId e =>
      exact (settled_apply (Liberties.ofRequests_covers hexpiry) botId hr w hw).mono
        (fun _ _ => trivial) fun _ _ h => h
  | lookup q => exact q.settledAt_action hw hr
  | claim e source => exact htyped (typed_isNew (isPlain_claimKey e source) rfl)
  | initializeBans guildId botId => exact htyped (typed_initializeBans rfl hr botId)
  | backfillBans guildId botId => exact htyped (typed_attemptBackfill rfl hr botId _)

end Settled

/-! ## Both hold one shelf -/

section Paired

variable {ns : String} {settings : CacheSettings} {m : Moment} {w : Shelf} {h : Host}
  {d : RedisHost}

def Moment.later (m : Moment) (delay : Nat) : Moment :=
  { m with now := m.now + delay }

theorem Host.Holds.later (hw : h.Holds ns m w) (delay : Nat) :
    (h.later delay).Holds ns (m.later delay) w :=
  ⟨hw.faultless, congrArg (· + delay) hw.now, hw.banLists, hw.fetches, hw.plain, hw.other⟩

theorem RedisHost.Holds.later (hw : d.Holds ns m w) (delay : Nat) :
    (d.later delay).Holds ns (m.later delay) w :=
  ⟨congrArg (· + delay) hw.now, hw.banLists, hw.fetches,
    fun k hk => (hw.plain k hk).later (Nat.le_add_right m.now delay), hw.other, hw.refusesNone⟩

/-- The store in memory and the server hold the same shelf. -/
def Host.IsPairedWith (ns : String) (d : RedisHost) (h : Host) : Prop :=
  ∃ m w, Shelf.Fits w ∧ h.Holds ns m w ∧ d.Holds ns m w

namespace Host.IsPairedWith

/-- Nothing is kept in the beginning. -/
theorem of_isFresh (hd : d.IsFresh) : d.inMemory.IsPairedWith ns d := by
  obtain ⟨hentries, hlog⟩ := hd
  have hnone : ∀ name, d.server.stored name = none := fun name => by
    rw [RedisServer.stored, hentries, List.lookup_nil]
  refine ⟨⟨d.server.now, d.banLists⟩, ⟨fun _ => {}, d.fetches⟩, ⟨Shelf.fits_empty.whole,
    Shelf.fits_empty.inOrder⟩, ?_, ?_⟩
  · exact ⟨fun _ => rfl, rfl, rfl, rfl, fun _ _ => rfl, fun _ _ => rfl⟩
  · refine ⟨rfl, rfl, rfl, fun k _ => ?_, fun name _ => hnone name, ?_⟩
    · rw [hnone]
      exact .nothing
    · intro exchange hexchange
      rw [hlog] at hexchange
      exact absurd hexchange List.not_mem_nil

theorem content (hp : h.IsPairedWith ns d) (name : String) :
    (h.content name).SameAs (d.server.content name) := by
  obtain ⟨m, w, -, hw, hd⟩ := hp
  by_cases hname : ∃ k : Key, k.IsPlain ∧ k.text ns = name
  · obtain ⟨k, hk, rfl⟩ := hname
    have hcell := (hd.plain k hk).content
    rw [← hw.plain k hk, ← hd.now] at hcell
    rw [Host.content, hw.now, ← hd.now]
    exact hcell
  · have hother : ∀ k : Key, k.IsPlain → k.text ns ≠ name := fun k hk h => hname ⟨k, hk, h⟩
    have hcell : h.content name = ⟨none, [], []⟩ := by
      rw [Host.content, hw.other name hother]
      rfl
    have hentry : d.server.content name = ⟨none, [], []⟩ := by
      rw [RedisServer.content, RedisServer.entry, hd.other name hother]
      rfl
    rw [hcell, hentry]
    exact ⟨rfl, .refl [], rfl⟩

/-- Both answer a request alike, and go on holding the same shelf. -/
theorem answer (hexpiry : ∀ ttl ∈ settings.expiry, IsGranted ttl) (hp : h.IsPairedWith ns d)
    {t : TimedRequest} (ht : t.request.IsWellNamed) :
    t.request.Alike (h.bots ns) (Host.service.answer ns settings h t).1
        (RedisHost.service.answer ns settings d t).1
      ∧ (Host.service.answer ns settings h t).2.IsPairedWith ns
        (RedisHost.service.answer ns settings d t).2 := by
  obtain ⟨m, w, hfits, hw, hd⟩ := hp
  have hsettled : (t.request.program settings).SettledAt (m.later t.delay) w (fun _ => True)
      (t.request.Alike w.bots) := CacheRequest.settledAt_program hexpiry hfits ht
  obtain ⟨hresult, hholds⟩ := (hw.later t.delay).run hsettled.settles
  obtain ⟨w', ⟨halike, rfl⟩, hholds'⟩ := (hd.later t.delay).run hsettled.settles hfits
  refine ⟨?_, _, _, hsettled.fits, hholds, hholds'⟩
  -- The bots on the shelf are those in memory, where the guild has a plain id.
  have hbots : ∀ guildId, PlainId guildId → w.bots guildId = h.bots ns guildId := fun g hg =>
    congrArg Cell.members (hw.plain (.guildBotIds g) hg).symm
  have hsame := CacheRequest.Alike.congr ht hbots halike
  rw [← hresult] at hsame
  exact hsame

theorem after (hexpiry : ∀ ttl ∈ settings.expiry, IsGranted ttl) (hp : h.IsPairedWith ns d)
    {ts : List TimedRequest} (hts : ∀ t ∈ ts, t.request.IsWellNamed) :
    (Host.service.after ns settings h ts).IsPairedWith ns
      (RedisHost.service.after ns settings d ts) := by
  induction ts generalizing h d with
  | nil => exact hp
  | cons t ts ih =>
      obtain ⟨ht, hts⟩ := List.forall_mem_cons.mp hts
      exact ih (hp.answer hexpiry ht).2 hts

theorem agreesWith (hexpiry : ∀ ttl ∈ settings.expiry, IsGranted ttl) (hp : h.IsPairedWith ns d) :
    h.AgreesWith ns settings d := by
  refine ⟨hp.content, ?_, fun t ht => (hp.answer hexpiry ht).1, ?_⟩
  · obtain ⟨m, w, -, hw, hd⟩ := hp
    exact hw.fetches.trans hd.fetches.symm
  · obtain ⟨m, w, -, -, hd⟩ := hp
    exact hd.refusesNone

end Host.IsPairedWith

end Paired

/-! ## The two stores -/

/-- Whatever is asked of them from the beginning, an empty store in memory and a server with nothing
in it cannot be told apart. Records expire after a time that a server can count, if at all: of the
times that settings can ask for, `IsGranted` leaves out those of `2 ^ 63` milliseconds and more, and
no others, as a time of no length stands for records that never expire. -/
theorem RedisHost.agrees_with_memory {ns : String} {settings : CacheSettings}
    (hexpiry : ∀ ttl ∈ settings.expiry, IsGranted ttl) {d : RedisHost} (hd : d.IsFresh)
    {ts : List TimedRequest} (hts : ∀ t ∈ ts, t.request.IsWellNamed) :
    (Host.service.after ns settings d.inMemory ts).AgreesWith ns settings
      (RedisHost.service.after ns settings d ts) :=
  ((Host.IsPairedWith.of_isFresh hd).after hexpiry hts).agreesWith hexpiry

def sampleSettings : CacheSettings where
  expiry := some 3600000

/-- A bot finds a guild, and another one a second later. -/
def sampleRequests : List TimedRequest :=
  [{ request := .apply "3" (.guildCreate World.sampleGuild) },
    { delay := 1000, request := .apply "3" (.guildCreate { id := "5" }) }]

def sampleMemory : Host :=
  Host.service.after "relay" sampleSettings (RedisHost.inMemory {}) sampleRequests

def sampleServer : RedisHost :=
  RedisHost.service.after "relay" sampleSettings {} sampleRequests

/-- The server has the guilds in another order. -/
theorem RedisHost.sample_agrees_with_memory :
    sampleMemory.AgreesWith "relay" sampleSettings sampleServer
    ∧ (sampleMemory.content (Key.allGuildIds.text "relay")).members = ["1", "5"]
    ∧ (sampleServer.server.content (Key.allGuildIds.text "relay")).members = ["5", "1"] := by
  have hexpiry : ∀ ttl ∈ sampleSettings.expiry, IsGranted ttl := by
    rintro _ ⟨⟩
    exact ⟨by decide, by decide, by decide⟩
  have hsecond : (Event.guildCreate { id := "5" }).IsWellNamed := ⟨by decide, by decide, by decide⟩
  have hrequests : ∀ t ∈ sampleRequests, t.request.IsWellNamed :=
    List.forall_mem_cons.mpr ⟨World.sampleGuild_isWellNamed, List.forall_mem_singleton.mpr hsecond⟩
  have hfresh : IsFresh {} := ⟨rfl, rfl⟩
  exact ⟨agrees_with_memory hexpiry hfresh hrequests, by decide +kernel, by decide +kernel⟩

end GuildRelay
