import GuildRelay.Proofs.Cache.BanCheck
/-!
# Ban lists that change while they are fetched

Between the fetch of a ban list and the moment at which it is written any time may pass. Users are
banned and unbanned meanwhile, and the events that tell of it are applied while the run that fills
the list is under way. A `Race` is such a run beside the handler of ban events: the two make their
calls in any order, with no lock between them, and changes of the list go on.

The fetched list wins over the events that were applied before it was written, so whoever is banned
when the list is fetched may be on it in the end and banned no longer (`Race.exists_overtaken`). The
race that shows it is put together from the calls of its two parties (`Race.Party`).
-/

namespace GuildRelay

/-! ## Changes of a ban list -/

/-- A user is banned, or is banned no longer. -/
inductive BanChange where
  | banned (user : User)
  | lifted (user : User)

namespace BanChange

def userId : BanChange → String
  | banned u => u.id
  | lifted u => u.id

/-- The user is banned after the change. -/
def isBan : BanChange → Bool
  | banned _ => true
  | lifted _ => false

/-- The banned users after the change. -/
def applyTo (userIds : List String) : BanChange → List String
  | banned u => insertAll [u.id] userIds
  | lifted u => userIds.filter (· != u.id)

/-- The event that tells of the change. -/
def event (guildId : String) : BanChange → Event
  | banned u => .guildBanAdd guildId u
  | lifted u => .guildBanRemove guildId u

/-- The operation on the list that is kept. -/
def op : BanChange → Operation
  | banned u => .addToSet [u.id]
  | lifted u => .removeFromSet u.id

theorem mem_applyTo {c : BanChange} {userIds : List String} {u : String} :
    u ∈ c.applyTo userIds ↔ if u = c.userId then c.isBan = true else u ∈ userIds := by
  cases c with
  | banned user =>
      by_cases heq : u = user.id <;> simp [applyTo, userId, isBan, mem_insertAll, heq]
  | lifted user =>
      by_cases heq : u = user.id <;> simp [applyTo, userId, isBan, heq]

theorem mem_applyTo_self (c : BanChange) (userIds : List String) :
    c.userId ∈ c.applyTo userIds ↔ c.isBan = true := by
  rw [mem_applyTo, if_pos rfl]

theorem mem_applyTo_of_ne {c : BanChange} {u : String} (hne : u ≠ c.userId)
    (userIds : List String) : u ∈ c.applyTo userIds ↔ u ∈ userIds := by
  rw [mem_applyTo, if_neg hne]

theorem isOnSet_op (c : BanChange) : c.op.isOnSet = true := by
  cases c <;> rfl

theorem members_answer_op (c : BanChange) (now : Nat) (cell : Cell) :
    (cell.answer now c.op).2.members = c.applyTo cell.members := by
  cases c <;> rfl

end BanChange

/-! ## Races -/

/-- A run that fills a ban list, the handler of ban events and the list that is to be known. -/
structure Race where
  host : Host
  /-- The users who are banned. -/
  upstream : List String
  /-- What is left of the run. -/
  run : Program Key (Except CacheError Unit)
  /-- The users whom the fetched list names. -/
  fetched : List String := []
  /-- The changes whose events have not arrived, the oldest first. -/
  pending : List BanChange := []
  /-- The change whose event is being applied, and what is left to do. -/
  handler : Option (BanChange × Program Key (Except CacheError (Option String))) := none
  /-- The users about whom events were written to the list since the run wrote to it last. -/
  told : List String := []

namespace Race

/-- One step of a race. The handler takes the events in the order of the changes, and the next when
it is done with the one before; it and the run make one call at a time. -/
inductive Step (ns : String) (settings : CacheSettings) (botId guildId : String) :
    Race → Race → Prop
  | wait {r : Race} {now : Nat} : r.host.now ≤ now →
      Step ns settings botId guildId r { r with host := { r.host with now } }
  | change {r : Race} (c : BanChange) :
      Step ns settings botId guildId r
        { r with upstream := c.applyTo r.upstream, pending := r.pending ++ [c] }
  | receive {r : Race} {c : BanChange} {rest : List BanChange} :
      r.handler = none → r.pending = c :: rest →
      Step ns settings botId guildId r
        { r with
          pending := rest
          handler := some (c, ExceptT.run (Cache.apply settings botId (c.event guildId))) }
  | handle {r : Race} {c : BanChange} {k : Key} {op : Operation}
      {next : Except CacheError op.Reply → Program Key (Except CacheError (Option String))} :
      r.handler = some (c, .call k op next) →
      Step ns settings botId guildId r
        { r with
          host := (r.host.call (k.text ns) op).2
          handler := some (c, next (r.host.call (k.text ns) op).1)
          told := if k = .guildBannedUserIds guildId then c.userId :: r.told else r.told }
  | finish {r : Race} {c : BanChange} {result : Except CacheError (Option String)} :
      r.handler = some (c, .done result) →
      Step ns settings botId guildId r { r with handler := none }
  | call {r : Race} {k : Key} {op : Operation}
      {next : Except CacheError op.Reply → Program Key (Except CacheError Unit)} :
      r.run = .call k op next →
      Step ns settings botId guildId r
        { r with
          host := (r.host.call (k.text ns) op).2
          run := next (r.host.call (k.text ns) op).1
          told := if k = .guildBannedUserIds guildId then [] else r.told }
  | fetch {r : Race} {bans : List Ban}
      {next : Except CacheError (List Ban) → Program Key (Except CacheError Unit)} :
      r.run = .fetchBans guildId next → (r.host.fetchBans guildId).1 = .ok bans →
      (∀ u, u ∈ bans.map (fun ban => ban.user.id) ↔ u ∈ r.upstream) →
      Step ns settings botId guildId r
        { r with
          host := (r.host.fetchBans guildId).2
          run := next (.ok bans)
          fetched := bans.map fun ban => ban.user.id }

/-- The races for the ban list of a guild that is not marked, on a host where no call fails. The bot
may read the bans throughout. -/
inductive Reachable (ns : String) (settings : CacheSettings) (botId guildId : String) :
    Race → Prop
  | start {h : Host} (upstream : List String) : (∀ n, h.faults n = none) →
      h.mayReadBans ns botId guildId = true →
      guildId ∉ h.members ns .banInitializedGuildIds →
      Reachable ns settings botId guildId
        { host := h, upstream, run := ExceptT.run (Cache.initializeBans guildId botId) }
  | step {r r' : Race} : Reachable ns settings botId guildId r →
      Step ns settings botId guildId r r' → r'.host.mayReadBans ns botId guildId = true →
      Reachable ns settings botId guildId r'

end Race

/-! ## What the run and the handler do -/

namespace Program

theorem andThen_andThen {α β γ : Type} (p : Program Key α) (f : α → Program Key β)
    (g : β → Program Key γ) : (p.andThen f).andThen g = p.andThen fun a => (f a).andThen g := by
  induction p with
  | done a => rfl
  | call k op next ih => exact congrArg (Program.call k op) (funext ih)
  | fetchBans guildId next ih => exact congrArg (Program.fetchBans guildId) (funext ih)

end Program

namespace Cache

open GuildRelay.Action

theorem run_initializeBans (guildId botId : String) :
    ∃ cont, ExceptT.run (initializeBans guildId botId)
        = (ExceptT.run (canReadBans botId guildId)).andThen cont
      ∧ cont (.ok true) = ExceptT.run (fillBans guildId) :=
  ⟨_, run_bind _ _, rfl⟩

theorem run_ifCanReadBans (botId guildId : String) (change : CacheAction Unit) :
    ∃ cont, ExceptT.run ((do if ← canReadBans botId guildId then change) >>= fun _ =>
          (pure none : CacheAction (Option String)))
        = (ExceptT.run (canReadBans botId guildId)).andThen cont
      ∧ cont (.ok true) = (ExceptT.run change).andThen fun
          | .ok _ => .done (.ok none)
          | .error e => .done (.error e) := by
  have hcheck := run_bind (canReadBans botId guildId)
    fun allowed => (if allowed then change else pure () : CacheAction Unit)
  have hrun := run_bind (canReadBans botId guildId >>= fun allowed =>
      (if allowed then change else pure () : CacheAction Unit))
    fun _ => (pure none : CacheAction (Option String))
  rw [hcheck, Program.andThen_andThen] at hrun
  refine ⟨_, hrun, congrArg (Program.andThen _) (funext fun r => ?_)⟩
  cases r <;> rfl

/-- A ban event is checked first and then written in one call. -/
theorem run_apply_event (settings : CacheSettings) (botId guildId : String) (c : BanChange) :
    ∃ cont, ExceptT.run (apply settings botId (c.event guildId))
        = (ExceptT.run (canReadBans botId guildId)).andThen cont
      ∧ ∃ next, cont (.ok true) = .call (.guildBannedUserIds guildId) c.op next
        ∧ ∀ reply, next (.ok reply) = .done (.ok none) := by
  cases c with
  | banned u =>
      obtain ⟨cont, hrun, hcont⟩ := run_ifCanReadBans botId guildId
        (addIds (.guildBannedUserIds guildId) [u.id])
      exact ⟨cont, hrun, _, hcont, fun _ => rfl⟩
  | lifted u =>
      obtain ⟨cont, hrun, hcont⟩ := run_ifCanReadBans botId guildId
        (removeId (.guildBannedUserIds guildId) u.id)
      exact ⟨cont, hrun, _, hcont, fun _ => rfl⟩

end Cache

/-! ## A race that ends with a ban too many -/

/-- A host that differs from another in the ban list of a guild and in what was asked of it. -/
structure Host.Resembles (ns guildId : String) (h h' : Host) : Prop where
  faultless : ∀ n, h'.faults n = none
  value : h'.value ns = h.value ns
  marks : h'.members ns .banInitializedGuildIds = h.members ns .banInitializedGuildIds
  banLists : h'.banLists = h.banLists

theorem Host.Resembles.call {ns guildId : String} {h h' : Host} (hh : h.Resembles ns guildId h')
    (hnone : h.value ns (.guildBannedUserIds guildId) = none) {k : Key} {op : Operation}
    (hop : op.isRead = true ∨ (k = .guildBannedUserIds guildId ∧ op.isOnSet = true)) :
    h.Resembles ns guildId (h'.call (k.text ns) op).2 := by
  have hf := hh.faultless
  refine ⟨Host.faults_call hf _ _, ?_, ?_, ?_⟩
  · rw [← hh.value]
    refine Host.value_call hf (hop.imp id And.right) ?_
    rintro rfl
    obtain ⟨rfl, -⟩ := hop.resolve_left Bool.false_ne_true
    rw [hh.value, hnone]
  · rw [← hh.marks]
    rcases hop with hread | ⟨rfl, -⟩
    · exact Host.members_call_of_isRead hf hread _ _
    · rw [Host.members_call hf, if_neg (Key.text_guildBannedUserIds_ne ns guildId).symm]
  · rw [← hh.banLists]
    simp only [Host.call, hf]

theorem Program.run_source {α : Type} (p : Program String α) (h : Host) :
    (p.run Host.backend h).2.faults = h.faults
      ∧ (p.run Host.backend h).2.banLists = h.banLists := by
  induction p generalizing h with
  | done a => exact ⟨rfl, rfl⟩
  | call key op next ih =>
      obtain ⟨hfaults, hbanLists⟩ := ih (h.call key op).1 (h.call key op).2
      have hcall : (h.call key op).2.faults = h.faults
          ∧ (h.call key op).2.banLists = h.banLists := by
        unfold Host.call
        cases h.faults h.calls.length <;> exact ⟨rfl, rfl⟩
      exact ⟨hfaults.trans hcall.1, hbanLists.trans hcall.2⟩
  | fetchBans guildId next ih => exact ih _ (h.fetchBans guildId).2

namespace Race

variable {ns botId guildId : String} {h : Host} {settings : CacheSettings} {r : Race}

/-- One of the two programs of a race, with its place in the race. -/
structure Party (ns : String) (settings : CacheSettings) (botId guildId : String) (α : Type) where
  set : Program Key α → Race → Race
  host_set : ∀ p r, (set p r).host = r.host
  set_host : ∀ p r (h : Host) (told : List String),
    { set p r with host := h, told } = set p { r with host := h, told }
  step : ∀ r k op next, ∃ told, Step ns settings botId guildId (set (.call k op next) r)
    (set (next (r.host.call (k.text ns) op).1)
      { r with host := (r.host.call (k.text ns) op).2, told })

namespace Party

def filler : Party ns settings botId guildId (Except CacheError Unit) where
  set p r := { r with run := p }
  host_set _ _ := rfl
  set_host _ _ _ _ := rfl
  step _ _ _ _ := ⟨_, .call rfl⟩

def handler (c : BanChange) :
    Party ns settings botId guildId (Except CacheError (Option String)) where
  set p r := { r with handler := some (c, p) }
  host_set _ _ := rfl
  set_host _ _ _ _ := rfl
  step _ _ _ _ := ⟨_, .handle rfl⟩

end Party

/-- The race may come about, on a host like `h` with a ban list and with users who were told of. -/
def CanBe (ns : String) (settings : CacheSettings) (botId guildId : String) (h : Host)
    (listed : List String) (r : Race) : Prop :=
  ∃ h' told, h.Resembles ns guildId h' ∧ h'.members ns (.guildBannedUserIds guildId) = listed
    ∧ Reachable ns settings botId guildId { r with host := h', told }

section

variable {α : Type} {listed : List String}
variable (hf : ∀ n, h.faults n = none) (hmay : h.mayReadBans ns botId guildId = true)
variable (hnone : h.value ns (.guildBannedUserIds guildId) = none)

include hf hmay hnone

/-- A party makes its next call. -/
theorem CanBe.call (x : Party ns settings botId guildId α) {k : Key} {op : Operation}
    {next : Except CacheError op.Reply → Program Key α}
    (hr : CanBe ns settings botId guildId h listed (x.set (.call k op next) r))
    (hop : op.isRead = true ∨ (k = .guildBannedUserIds guildId ∧ op.isOnSet = true))
    (reply : op.Reply) (listed' : List String)
    (hanswer : ∀ h', h.Resembles ns guildId h' →
      h'.members ns (.guildBannedUserIds guildId) = listed →
      ((h'.store.cell (k.text ns)).answer h'.now op).1 = reply
        ∧ (h'.call (k.text ns) op).2.members ns (.guildBannedUserIds guildId) = listed') :
    CanBe ns settings botId guildId h listed' (x.set (next (.ok reply)) r) := by
  obtain ⟨h', told, hh, hlisted, hr⟩ := hr
  obtain ⟨hreply, hlisted'⟩ := hanswer h' hh hlisted
  have hh' := hh.call hnone hop
  obtain ⟨told', hstep⟩ := x.step { r with host := h', told } k op next
  rw [x.set_host] at hr
  have hnext := hr.step hstep (by
    rw [x.host_set]
    exact Host.mayReadBans_of_value hf hmay hh'.faultless hh'.value)
  rw [Host.reply_call hh.faultless, hreply] at hnext
  refine ⟨_, told', hh', hlisted', ?_⟩
  rw [x.set_host]
  exact hnext

/-- A party gets as far as the answer to its questions. -/
theorem CanBe.check (x : Party ns settings botId guildId α)
    {p : Program Key (Except CacheError Bool)} {a : Except CacheError Bool}
    {cont : Except CacheError Bool → Program Key α} (hp : p.Reads (h.value ns) a)
    (hr : CanBe ns settings botId guildId h listed (x.set (p.andThen cont) r)) :
    CanBe ns settings botId guildId h listed (x.set (cont a) r) := by
  generalize htexts : h.value ns = texts at hp
  induction hp with
  | done a => exact hr
  | @get k text next a _ htext _ ih =>
      refine ih (CanBe.call hf hmay hnone x hr (.inl rfl) (some text) listed
        fun h' hh hlisted => ⟨?_, ?_⟩)
      · rw [← htext, ← htexts, ← hh.value]
        rfl
      · rw [Host.members_call_of_isRead hh.faultless rfl, hlisted]

/-- The event of the next change is applied. -/
theorem CanBe.apply {c : BanChange} {rest : List BanChange}
    (hr : CanBe ns settings botId guildId h listed r) (hhandler : r.handler = none)
    (hpending : r.pending = c :: rest) :
    CanBe ns settings botId guildId h (c.applyTo listed) { r with pending := rest } := by
  obtain ⟨cont, hrun, next, hcont, hnext⟩ := Cache.run_apply_event settings botId guildId c
  let handler : Party ns settings botId guildId _ := .handler c
  have hreceived : CanBe ns settings botId guildId h listed (handler.set
      ((ExceptT.run (Cache.canReadBans botId guildId)).andThen cont)
      { r with pending := rest }) := by
    obtain ⟨h', told, hh, hlisted, hr⟩ := hr
    have hstep := hr.step (.receive hhandler hpending)
      (Host.mayReadBans_of_value hf hmay hh.faultless hh.value)
    rw [hrun] at hstep
    exact ⟨h', told, hh, hlisted, hstep⟩
  have hchecked := hreceived.check hf hmay hnone handler (Host.reads_canReadBans hf hmay)
  rw [hcont] at hchecked
  obtain ⟨reply, hreply⟩ : ∃ reply : c.op.Reply, ∀ now (cell : Cell),
      (cell.answer now c.op).1 = reply := by
    cases c <;> exact ⟨(), fun _ _ => rfl⟩
  have hwritten := hchecked.call hf hmay hnone handler (.inr ⟨rfl, c.isOnSet_op⟩) reply
    (c.applyTo listed) fun h' hh hlisted => ⟨hreply _ _, by
      rw [Host.members_call hh.faultless, if_pos rfl, c.members_answer_op, ← hlisted]
      rfl⟩
  rw [hnext] at hwritten
  obtain ⟨h', told, hh, hlisted, hr⟩ := hwritten
  have hstep := hr.step (.finish rfl) (Host.mayReadBans_of_value hf hmay hh.faultless hh.value)
  rw [← hhandler] at hstep
  exact ⟨h', told, hh, hlisted, hstep⟩

/-- Whoever is banned when the list is fetched may be on it in the end and banned no longer. -/
theorem exists_overtaken (settings : CacheSettings)
    (hunmarked : guildId ∉ h.members ns .banInitializedGuildIds) {bans : List Ban}
    (hbans : ∀ asked, h.banLists asked guildId = .ok bans) {ban : Ban} (hban : ban ∈ bans) :
    ∃ r, Reachable ns settings botId guildId r
      ∧ r.run = .done (.ok ()) ∧ r.handler = none ∧ r.pending = []
      ∧ ban.user.id ∈ r.host.members ns (.guildBannedUserIds guildId)
      ∧ ban.user.id ∉ r.upstream := by
  let userIds := bans.map fun ban => ban.user.id
  let c := BanChange.lifted ban.user
  let filler : Party ns settings botId guildId _ := .filler
  let race : Race := { host := h, upstream := userIds, run := .done (.ok ()) }
  obtain ⟨cont, hfill, hcont⟩ := Cache.run_initializeBans guildId botId
  have hstart : CanBe ns settings botId guildId h (h.members ns (.guildBannedUserIds guildId))
      (filler.set (ExceptT.run (Cache.initializeBans guildId botId)) race) :=
    ⟨h, [], ⟨hf, rfl, rfl, rfl⟩, rfl, .start userIds hf hmay hunmarked⟩
  rw [hfill] at hstart
  have hchecked := hstart.check hf hmay hnone filler (Host.reads_canReadBans hf hmay)
  rw [hcont] at hchecked
  have hclearing : CanBe ns settings botId guildId h (h.members ns (.guildBannedUserIds guildId))
      (filler.set (ExceptT.run (Cache.refillBans guildId)) race) := by
    refine hchecked.call hf hmay hnone filler (.inl rfl) false _ fun h' hh hlisted => ⟨?_, ?_⟩
    · rw [← hh.marks] at hunmarked
      exact Host.reply_isSetMember_of_not_mem hunmarked
    · rw [Host.members_call_of_isRead hh.faultless rfl, hlisted]
  have hfetching : CanBe ns settings botId guildId h []
      (filler.set (ExceptT.run (Cache.fetchAndWriteBans guildId)) race) := by
    refine hclearing.call hf hmay hnone filler (.inr ⟨rfl, rfl⟩) () _ fun h' hh _ => ⟨rfl, ?_⟩
    rw [Host.members_call hh.faultless, if_pos rfl]
    rfl
  -- The user is unbanned after the fetch, and the event comes before the list is written.
  let overtaken : Race := { race with upstream := c.applyTo userIds, fetched := userIds }
  have hlifted : CanBe ns settings botId guildId h []
      (filler.set (ExceptT.run (Cache.writeBans guildId userIds))
        { overtaken with pending := [c] }) := by
    obtain ⟨h', told, hh, hlisted, hr⟩ := hfetching
    have hh' : h.Resembles ns guildId (h'.fetchBans guildId).2 :=
      ⟨hh.faultless, hh.value, hh.marks, hh.banLists⟩
    have hmay' := Host.mayReadBans_of_value hf hmay hh'.faultless hh'.value
    have hreply : (h'.fetchBans guildId).1 = .ok bans :=
      (congrFun₂ hh.banLists _ _).trans (hbans _)
    have hfetched := hr.step (.fetch rfl hreply fun _ => Iff.rfl) hmay'
    exact ⟨_, told, hh', hlisted, hfetched.step (.change c) hmay'⟩
  have htold : CanBe ns settings botId guildId h (c.applyTo [])
      (filler.set (ExceptT.run (Cache.writeBans guildId userIds)) overtaken) :=
    hlifted.apply hf hmay hnone rfl rfl
  have hmarking : CanBe ns settings botId guildId h (insertAll userIds (c.applyTo []))
      (filler.set (ExceptT.run (Cache.markFilled guildId)) overtaken) := by
    refine htold.call hf hmay hnone filler (.inr ⟨rfl, rfl⟩) () _ fun h' hh hlisted => ⟨rfl, ?_⟩
    rw [Host.members_call hh.faultless, if_pos rfl, ← hlisted]
    rfl
  obtain ⟨h', told, hh, hlisted, hr⟩ := hmarking
  have hvalue : (h'.call (Key.banInitializedGuildIds.text ns) (.addToSet [guildId])).2.value ns
      = h'.value ns := Host.value_call hh.faultless (.inr rfl) nofun
  have hdone := hr.step (.call rfl) (Host.mayReadBans_of_value hf hmay
    (Host.faults_call hh.faultless _ _) (hvalue.trans hh.value))
  refine ⟨_, hdone, ?_, rfl, rfl, ?_, ?_⟩
  · simp only
    rw [Host.reply_call hh.faultless]
  · simp only
    rw [Host.members_call hh.faultless, if_neg (Key.text_guildBannedUserIds_ne ns guildId), hlisted]
    exact mem_insertAll.mpr (.inl (List.mem_map_of_mem hban))
  · show ban.user.id ∉ userIds.filter (· != ban.user.id)
    simp

end

/-- A user who is banned when the list is fetched is on it in the end and banned no longer. -/
theorem sample_exists_overtaken : ∃ r, Reachable "relay" {} "3" "1" r
    ∧ r.run = .done (.ok ()) ∧ r.handler = none ∧ r.pending = []
    ∧ "7" ∈ r.host.members "relay" (.guildBannedUserIds "1") ∧ "7" ∉ r.upstream := by
  obtain ⟨hfaults, hbanLists⟩ := Program.run_source (ExceptT.run ((Cache.apply {} "3"
    (.guildCreate { id := "1", ownerId := "3" })).mapKeys (Key.text "relay"))) Chronicle.sampleHost
  have hstart : Chronicle.sampleGuild.2.mayReadBans "relay" "3" "1" = true
      ∧ "1" ∉ Chronicle.sampleGuild.2.members "relay" .banInitializedGuildIds
      ∧ Chronicle.sampleGuild.2.value "relay" (.guildBannedUserIds "1") = none := by
    decide +kernel
  obtain ⟨hmay, hunmarked, hnone⟩ := hstart
  exact exists_overtaken (h := Chronicle.sampleGuild.2) (fun n => congrFun hfaults n) hmay hnone {}
    hunmarked (fun asked => congrFun₂ hbanLists asked "1") (List.mem_singleton_self _)

end Race

end GuildRelay
