import GuildRelay.Proofs.Cache.BanHistory
/-!
# Reading that a bot may read bans

Before anything is done to a ban list the bot's permission is looked up, call by call, and others
may make calls meanwhile. The lookup does nothing but read records, and where one is missing the
answer is no (`Program.NeedsTexts`), so a yes says which texts were there (`Program.Reads`). Whoever
leaves the values of a host alone therefore does not change what its bots may read
(`Host.mayReadBans_congr`), and operations on sets do (`Host.value_call`).
-/

namespace GuildRelay

/-! ## Calls -/

theorem StoredValue.isLive_of_le {v : StoredValue} {now later : Nat}
    (hnow : now ≤ later) (hlive : v.isLive later = true) : v.isLive now = true := by
  unfold StoredValue.isLive at hlive ⊢
  cases hexpiry : v.expiry with
  | none => rfl
  | some moment =>
      rw [hexpiry] at hlive
      exact decide_eq_true (Nat.lt_of_le_of_lt hnow (of_decide_eq_true hlive))

namespace Host

variable {ns : String} {h : Host} {k : Key} {op : Operation}

section

variable (hf : ∀ n, h.faults n = none)

include hf

theorem reply_call (name : String) (op : Operation) :
    (h.call name op).1 = .ok ((h.store.cell name).answer h.now op).1 := by
  simp only [call, hf, Store.reply_answer]

theorem content_call (name : String) (op : Operation) (other : String) :
    (h.call name op).2.content other
      = if other = name then
          let c := ((h.store.cell name).answer h.now op).2
          ⟨c.liveValue h.now, c.members, c.items⟩
        else h.content other := by
  simp only [call, hf, content, Store.cell_answer]
  split <;> rfl

theorem members_call (k k' : Key) (op : Operation) :
    (h.call (k.text ns) op).2.members ns k'
      = if k'.text ns = k.text ns then ((h.store.cell (k.text ns)).answer h.now op).2.members
        else h.members ns k' := by
  rw [members, content_call hf]
  split <;> rfl

theorem members_call_of_isRead (hop : op.isRead = true) (k k' : Key) :
    (h.call (k.text ns) op).2.members ns k' = h.members ns k' := by
  rw [members_call hf, Cell.answer_of_isRead hop]
  split
  · next heq => rw [members, content, heq]
  · rfl

/-- Operations on sets change no value, unless one is dropped. -/
theorem value_call (hop : op.isRead = true ∨ op.isOnSet = true)
    (hdelete : op = .delete → h.value ns k = none) :
    (h.call (k.text ns) op).2.value ns = h.value ns := by
  funext k'
  rw [value, content_call hf]
  split
  · next heq =>
    have hsame : h.value ns k' = h.value ns k := by rw [value, heq, value]
    rw [hsame]
    rcases hop with hread | hset
    · rw [Cell.answer_of_isRead hread]
      rfl
    · cases op with
      | delete => rw [hdelete rfl]; rfl
      | _ => first | rfl | cases hset
  · rfl

theorem value_call_of_isRead (hop : op.isRead = true) :
    (h.call (k.text ns) op).2.value ns = h.value ns := by
  refine value_call hf (.inl hop) ?_
  rintro rfl
  cases hop

/-- Operations on sets bring no value about. -/
theorem value_of_value_call (hop : op.isRead = true ∨ op.isOnSet = true) {k' : Key} {text : String}
    (hlive : (h.call (k.text ns) op).2.value ns k' = some text) : h.value ns k' = some text := by
  by_cases hdelete : op = .delete
  · subst hdelete
    rw [value, content_call hf] at hlive
    split at hlive
    · cases hlive
    · exact hlive
  · rwa [value_call hf hop fun heq => absurd heq hdelete] at hlive

end

theorem reply_isSetMember_of_not_mem {member : String} (hmember : member ∉ h.members ns k) :
    ((h.store.cell (k.text ns)).answer h.now (.isSetMember member)).1 = false := by
  show (h.members ns k).contains member = false
  rw [← Bool.not_eq_true, List.contains_iff_mem]
  exact hmember

/-- A value that is there later is there now. -/
theorem value_of_value_wait {now : Nat} (hnow : h.now ≤ now) {text : String}
    (hlive : { h with now }.value ns k = some text) : h.value ns k = some text := by
  simp only [value, content, Cell.liveValue] at hlive ⊢
  cases hv : (h.store.cell (k.text ns)).value with
  | none => rw [hv] at hlive; exact hlive
  | some v =>
      rw [hv] at hlive
      obtain ⟨hlater, htext⟩ := Option.ite_none_right_eq_some.mp hlive
      simp only [StoredValue.isLive_of_le hnow hlater, if_true, htext]

end Host

/-! ## Programs that need texts -/

namespace Program

variable {α : Type} {ns : String} {h : Host}

/-- The program comes to a result by reading texts that are there, not from ban data. -/
inductive Reads (texts : Key → Option String) : Program Key α → α → Prop
  | done (a : α) : Reads texts (.done a) a
  | get {k : Key} {text : String} {next : Except CacheError (Option String) → Program Key α}
      {a : α} : k.isBan = false → texts k = some text → Reads texts (next (.ok (some text))) a →
      Reads texts (.call k .get next) a

/-- The program does nothing but read, and where a text is missing it says no. -/
def NeedsTexts : Program Key (Except CacheError Bool) → Prop
  | done _ => True
  | call k .get next =>
    k.isBan = false ∧ next (.ok none) = .done (.ok false) ∧
      ∀ text, (next (.ok (some text))).NeedsTexts
  | _ => False

/-- Where such a program says yes, it has found its texts. -/
theorem NeedsTexts.reads {p : Program Key (Except CacheError Bool)} (hp : p.NeedsTexts)
    (hf : ∀ n, h.faults n = none)
    (hyes : ((p.mapKeys (Key.text ns)).run Host.backend h).1 = .ok true) :
    p.Reads (h.value ns) (.ok true) := by
  induction p generalizing h with
  | done a =>
      rw [show a = .ok true from hyes]
      exact .done _
  | call k op next ih =>
      cases op with
      | get =>
          obtain ⟨hban, hmiss, hnext⟩ := hp
          have hreply : (h.call (k.text ns) .get).1 = .ok (h.value ns k) := Host.reply_call hf _ _
          have hyes : (((next (h.call (k.text ns) .get).1).mapKeys (Key.text ns)).run Host.backend
              (h.call (k.text ns) .get).2).1 = .ok true := hyes
          rw [hreply] at hyes
          cases htext : h.value ns k with
          | none =>
              rw [htext, hmiss] at hyes
              cases hyes
          | some text =>
              rw [htext] at hyes
              have hrest := ih _ (hnext text) (Host.faults_call hf _ _) hyes
              rw [Host.value_call_of_isRead hf rfl] at hrest
              exact .get hban htext hrest
      | _ => exact hp.elim
  | fetchBans guildId next => exact hp.elim

/-- A host with the texts lets the program come to its result. -/
theorem Reads.run {p : Program Key α} {a : α} {texts : Key → Option String}
    (hp : p.Reads texts a) (hf : ∀ n, h.faults n = none) (htexts : h.value ns = texts) :
    ((p.mapKeys (Key.text ns)).run Host.backend h).1 = a := by
  induction hp generalizing h with
  | done a => rfl
  | @get k text next a _ htext _ ih =>
      have hreply : (h.call (k.text ns) .get).1 = .ok (h.value ns k) := Host.reply_call hf _ _
      show (((next (h.call (k.text ns) .get).1).mapKeys (Key.text ns)).run Host.backend
        (h.call (k.text ns) .get).2).1 = a
      rw [hreply, htexts, htext]
      exact ih (Host.faults_call hf _ _) ((Host.value_call_of_isRead hf rfl).trans htexts)

end Program

/-! ## The lookup of the permission -/

namespace Cache

open GuildRelay.Action

theorem run_read {α : Type} [Decode α] (k : Key) :
    ExceptT.run (read k : CacheAction α) = .call k .get fun
      | .ok (some text) => .done (readText text)
      | .ok none => .done (.error .notFound)
      | .error e => .done (.error e) := by
  refine congrArg (Program.call k .get) (funext fun reply => ?_)
  rcases reply with _ | _ | _ <;> rfl

theorem needsTexts_canReadBans (botId guildId : String) :
    (ExceptT.run (canReadBans botId guildId)).NeedsTexts := by
  unfold canReadBans userPermissions guild member found
  simp only [run_bind, run_read, ExceptT.run_mk, Program.andThen]
  refine ⟨rfl, rfl, fun text => ?_⟩
  simp only
  cases (readText text : Except CacheError Guild) with
  | error e => cases e <;> trivial
  | ok g =>
      simp only [Program.andThen]
      split
      · trivial
      · simp only [run_bind, run_read, Program.andThen]
        refine ⟨rfl, rfl, fun text => ?_⟩
        simp only
        cases (readText text : Except CacheError Member) with
        | error e => cases e <;> trivial
        | ok m => trivial

end Cache

namespace Host

variable {ns botId guildId : String} {h h' : Host}

theorem reads_canReadBans (hf : ∀ n, h.faults n = none)
    (hmay : h.mayReadBans ns botId guildId = true) :
    (ExceptT.run (Cache.canReadBans botId guildId)).Reads (h.value ns) (.ok true) := by
  refine (Cache.needsTexts_canReadBans botId guildId).reads hf ?_
  unfold mayReadBans at hmay
  split at hmay
  · next heq => rw [hmay] at heq; exact heq
  · cases hmay

theorem mayReadBans_of_value (hf : ∀ n, h.faults n = none)
    (hmay : h.mayReadBans ns botId guildId = true) (hf' : ∀ n, h'.faults n = none)
    (hvalue : h'.value ns = h.value ns) : h'.mayReadBans ns botId guildId = true := by
  have hrun : (((Cache.canReadBans botId guildId).mapKeys (Key.text ns)).runOn backend h').1
      = .ok true := (reads_canReadBans hf hmay).run hf' hvalue
  rw [mayReadBans, hrun]

/-- What a bot may read is told by the values on a host. -/
theorem mayReadBans_congr (hf : ∀ n, h.faults n = none) (hf' : ∀ n, h'.faults n = none)
    (hvalue : h'.value ns = h.value ns) :
    h'.mayReadBans ns botId guildId = h.mayReadBans ns botId guildId := by
  rw [Bool.eq_iff_iff]
  exact ⟨fun hmay => mayReadBans_of_value hf' hmay hf hvalue.symm,
    fun hmay => mayReadBans_of_value hf hmay hf' hvalue⟩

end Host

/-! ## A run that fills a ban list, in parts -/

namespace Cache

open GuildRelay.Action

def markFilled (guildId : String) : CacheAction Unit :=
  addIds .banInitializedGuildIds [guildId]

def writeBans (guildId : String) (userIds : List String) : CacheAction Unit := do
  addIds (.guildBannedUserIds guildId) userIds
  markFilled guildId

def fetchAndWriteBans (guildId : String) : CacheAction Unit := do
  let bans ← askBans guildId
  writeBans guildId (bans.map fun ban => ban.user.id)

def refillBans (guildId : String) : CacheAction Unit := do
  drop (.guildBannedUserIds guildId)
  fetchAndWriteBans guildId

/-- What a run does where the bot may read the bans. -/
def fillBans (guildId : String) : CacheAction Unit := do
  if ← ask .banInitializedGuildIds (.isSetMember guildId) then return
  refillBans guildId

/-- What a run does where the bot may not read the bans. -/
def clearBans (guildId : String) : CacheAction Unit := do
  drop (.guildBannedUserIds guildId)
  removeId .banInitializedGuildIds guildId

theorem initializeBans_eq (guildId botId : String) :
    initializeBans guildId botId
      = canReadBans botId guildId >>= fun allowed =>
          if allowed then fillBans guildId else clearBans guildId := rfl

end Cache

end GuildRelay
