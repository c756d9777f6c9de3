import GuildRelay.Cache.Update
import GuildRelay.Proofs.Cache.View
/-!
# What handlers are made of

Every handler is put together from calls by sequence, by lookups that may find nothing and by
results of its own (`Action.Scripted`). Three things follow for all handlers at once, whatever the
replies to their calls are. They never touch the mark of a claimed event (`Scripted.sparesClaims`).
They write ban data but read none of it (`Scripted.ignoresBans`). And a call that fails, other than
by a miss, is the last one, and its error is the result (`Scripted.stops`); a result of their own is
never an error that may pass.
-/

namespace GuildRelay

namespace Operation

/-- The answer tells nothing. -/
def isSilent : Operation → Bool
  | set _ _ => true
  | delete => true
  | addToSet _ => true
  | removeFromSet _ => true
  | pushList _ => true
  | trimList _ _ => true
  | _ => false

theorem reply_unique {op : Operation} (h : op.isSilent = true) (r r' : op.Reply) : r = r' := by
  cases op <;> first | rfl | cases h

end Operation

/-! ## Claims are spared, bans are not looked at, and failures are final -/

namespace Program

variable {α β : Type}

/-- No call of the program is about the mark of a claimed event. -/
def SparesClaims : Program Key α → Prop
  | done _ => True
  | call k _ next => k.isClaim = false ∧ ∀ reply, (next reply).SparesClaims
  | fetchBans _ next => ∀ reply, (next reply).SparesClaims

theorem SparesClaims.andThen {f : α → Program Key β} (hf : ∀ a, (f a).SparesClaims) :
    ∀ {p : Program Key α}, p.SparesClaims → (p.andThen f).SparesClaims
  | done a, _ => hf a
  | call _ _ _, ⟨hk, hnext⟩ => ⟨hk, fun reply => (hnext reply).andThen hf⟩
  | fetchBans _ _, hnext => fun reply => (hnext reply).andThen hf

/-- The program reads nothing of ban data, and it fetches none. -/
def IgnoresBans : Program Key α → Prop
  | done _ => True
  | call k op next =>
    (k.isBan = true → op.isSilent = true) ∧ ∀ reply, (next reply).IgnoresBans
  | fetchBans _ _ => False

theorem IgnoresBans.andThen {f : α → Program Key β} (hf : ∀ a, (f a).IgnoresBans) :
    ∀ {p : Program Key α}, p.IgnoresBans → (p.andThen f).IgnoresBans
  | done a, _ => hf a
  | call _ _ _, ⟨hk, hnext⟩ => ⟨hk, fun reply => (hnext reply).andThen hf⟩

/-- The program makes no call after one that has failed, unless for a missing record, and its result
is that error. Of itself it never ends with an error that may pass, and it fetches nothing. -/
def Stops : Program Key (Except CacheError α) → Prop
  | done r => ∀ e, r = .error e → e.isTransient = false
  | call _ _ next =>
    (∀ e, e ≠ .notFound → next (.error e) = .done (.error e)) ∧ ∀ reply, (next (.ok reply)).Stops
  | fetchBans _ _ => False

theorem Stops.andThen {f : Except CacheError α → Program Key (Except CacheError β)}
    (hstop : ∀ e, e ≠ .notFound → f (.error e) = .done (.error e))
    (hf : ∀ r, (∀ e, r = .error e → e.isTransient = false) → (f r).Stops) :
    ∀ {p : Program Key (Except CacheError α)}, p.Stops → (p.andThen f).Stops
  | done r, hr => hf r hr
  | call _ _ _, ⟨herror, hnext⟩ =>
      ⟨fun e he => (congrArg (Program.andThen · f) (herror e he)).trans (hstop e he),
        fun reply => (hnext reply).andThen hstop hf⟩
  | fetchBans _ _, h => h.elim

end Program

open GuildRelay.Action

namespace Action

variable {α β : Type}

theorem sparesClaims_bind {a : Action Key α} {f : α → Action Key β}
    (ha : (ExceptT.run a).SparesClaims) (hf : ∀ x, (ExceptT.run (f x)).SparesClaims) :
    (ExceptT.run (a >>= f)).SparesClaims := by
  rw [run_bind]
  refine ha.andThen fun r => ?_
  cases r with
  | ok x => exact hf x
  | error e => exact trivial

/-- Actions that are put together from single calls. No call is about a claim or reads ban data, and
no result in between is an error that may pass. -/
inductive Scripted : {α : Type} → Action Key α → Prop
  | result {α : Type} {r : Except CacheError α} :
      (∀ e, r = .error e → e.isTransient = false) → Scripted (ExceptT.mk (.done r))
  | ask (k : Key) (op : Operation) : k.isClaim = false → (k.isBan = true → op.isSilent = true) →
      Scripted (Action.ask k op)
  | bind {α β : Type} {a : Action Key α} {f : α → Action Key β} :
      Scripted a → (∀ x, Scripted (f x)) → Scripted (a >>= f)
  | found {α : Type} {a : Action Key α} : Scripted a → Scripted a.found

namespace Scripted

theorem pure (x : α) : Scripted (Pure.pure x : Action Key α) :=
  result fun _ h => by cases h

theorem miss : Scripted (throw .notFound : Action Key α) :=
  result fun _ h => by cases h; rfl

theorem forM {items : List β} {f : β → Action Key Unit} (hf : ∀ b, Scripted (f b)) :
    Scripted (items.forM f) := by
  induction items with
  | nil => exact pure ()
  | cons b items ih => exact bind (hf b) fun _ => ih

theorem sparesClaims {a : Action Key α} (ha : Scripted a) : (ExceptT.run a).SparesClaims := by
  induction ha with
  | result _ => exact trivial
  | ask k op hk _ => exact ⟨hk, fun _ => trivial⟩
  | bind _ _ ha hf => exact sparesClaims_bind ha hf
  | found _ ha => exact ha.andThen fun r => by rcases r with (_ | _) | _ <;> exact trivial

theorem ignoresBans {a : Action Key α} (ha : Scripted a) : (ExceptT.run a).IgnoresBans := by
  induction ha with
  | result _ => exact trivial
  | ask k op _ hban => exact ⟨hban, fun _ => trivial⟩
  | bind _ _ ha hf =>
      rw [run_bind]
      refine ha.andThen fun r => ?_
      cases r with
      | ok x => exact hf x
      | error e => exact trivial
  | found _ ha => exact ha.andThen fun r => by rcases r with (_ | _) | _ <;> exact trivial

theorem stops {a : Action Key α} (ha : Scripted a) : (ExceptT.run a).Stops := by
  induction ha with
  | result hr => exact hr
  | ask k op _ _ => exact ⟨fun _ _ => rfl, fun reply e he => by cases he⟩
  | bind _ _ ha hf =>
      rw [run_bind]
      refine ha.andThen ?_ fun r hr => ?_
      · exact fun e _ => rfl
      · cases r with
        | ok x => exact hf x
        | error e => exact fun e' he' => by cases he'; exact hr e rfl
  | found _ ha =>
      refine ha.andThen ?_ fun r hr => ?_
      · exact fun e he => by cases e <;> first | exact absurd rfl he | rfl
      · cases r with
        | ok x => exact fun e he => by cases he
        | error e =>
            cases e with
            | notFound => exact fun e he => by cases he
            | _ => exact fun e he => by cases he; exact hr _ rfl

end Scripted

end Action

/-! ## The handlers -/

namespace Cache

section Calls

variable {α : Type}

theorem scripted_read [Decode α] {k : Key} (hk : k.isClaim = false) (hban : k.isBan = false) :
    Scripted (read k : CacheAction α) := by
  refine .bind (.ask k .get hk fun h => nomatch hban.symm.trans h) fun text => ?_
  cases text with
  | none => exact .miss
  | some text =>
      refine .result fun e he => ?_
      unfold readText at he
      split at he
      · cases he
      · split at he <;> cases he <;> rfl

theorem scripted_write [Encode α] (settings : CacheSettings) {k : Key} (hk : k.isClaim = false)
    (a : α) : Scripted (write settings k a) :=
  .ask k _ hk fun _ => rfl

theorem scripted_drop {k : Key} (hk : k.isClaim = false) : Scripted (drop k) :=
  .ask k _ hk fun _ => rfl

theorem scripted_addIds {k : Key} (hk : k.isClaim = false) (ids : List String) :
    Scripted (addIds k ids) :=
  .ask k _ hk fun _ => rfl

theorem scripted_removeId {k : Key} (hk : k.isClaim = false) (id : String) :
    Scripted (removeId k id) :=
  .ask k _ hk fun _ => rfl

theorem scripted_ids {k : Key} (hk : k.isClaim = false) (hban : k.isBan = false) :
    Scripted (ids k) :=
  .ask k _ hk fun h => nomatch hban.symm.trans h

end Calls

section Handlers

variable (settings : CacheSettings) (botId : String)

theorem scripted_writeChannel (c : Channel) : Scripted (writeChannel settings c) :=
  scripted_write settings rfl c

theorem scripted_writeMember (guildId : String) (m : Member) :
    Scripted (writeMember settings guildId m) :=
  .bind (scripted_write settings rfl m) fun _ => scripted_write settings rfl m.user

theorem scripted_writeChildren (g : Guild) : Scripted (writeChildren settings g) :=
  .bind (.forM (scripted_writeChannel settings)) fun _ =>
  .bind (scripted_addIds rfl _) fun _ =>
  .bind (.forM (scripted_writeMember settings g.id)) fun _ =>
  .bind (scripted_addIds rfl _) fun _ => scripted_addIds rfl _

theorem scripted_writeGuild (g : Guild) : Scripted (writeGuild settings g) :=
  .bind (scripted_write settings rfl g) fun _ => scripted_addIds rfl _

theorem scripted_addBot (guildId : String) : Scripted (addBot guildId botId) := by
  unfold addBot
  split
  · exact .pure ()
  · exact scripted_addIds rfl _

theorem scripted_resetGuild (payload : Guild) : Scripted (resetGuild settings botId payload) :=
  .bind (scripted_writeGuild settings _) fun _ =>
  .bind (scripted_writeChildren settings _) fun _ => scripted_addBot botId _

theorem scripted_applyReady (r : Ready) : Scripted (applyReady settings botId r) :=
  .bind (scripted_write settings rfl r.user) fun _ =>
  .bind (.forM (scripted_resetGuild settings botId)) fun _ =>
  .bind (.forM (scripted_writeChannel settings)) fun _ => scripted_addIds rfl _

theorem scripted_addGuild (payload : Guild) : Scripted (addGuild settings botId payload) :=
  .bind (scripted_writeChildren settings _) fun _ =>
  .bind (.found (scripted_read rfl rfl)) fun _ =>
  .bind (scripted_writeGuild settings _) fun _ => scripted_addBot botId _

theorem scripted_dropChannel (channelId : String) : Scripted (dropChannel channelId) :=
  .bind (scripted_drop rfl) fun _ => scripted_removeId rfl channelId

theorem scripted_removeGuild (payload : Guild) : Scripted (removeGuild payload) :=
  .bind (.found (scripted_read rfl rfl)) fun _ =>
  .bind (scripted_drop rfl) fun _ =>
  .bind (scripted_removeId rfl _) fun _ =>
  .bind (.forM fun c => scripted_dropChannel c.id) fun _ =>
  .bind (scripted_ids rfl rfl) fun _ =>
  .bind (.forM fun _ => scripted_drop rfl) fun _ =>
  .bind (scripted_drop rfl) fun _ =>
  .bind (scripted_drop rfl) fun _ =>
  .bind (scripted_drop rfl) fun _ => scripted_removeId rfl _

theorem scripted_addMember (payload : Member) : Scripted (addMember settings payload) :=
  .bind (scripted_read rfl rfl) fun _ =>
  .bind (.found (scripted_read rfl rfl)) fun _ =>
  .bind (scripted_write settings rfl _) fun _ =>
  .bind (scripted_writeMember settings _ _) fun _ =>
  .bind (scripted_addIds rfl _) fun _ => scripted_addIds rfl _

theorem scripted_isMemberElsewhere (guildId userId : String) : ∀ guildIds : List String,
    Scripted (isMemberElsewhere guildId userId guildIds)
  | [] => .pure false
  | other :: rest => by
      unfold isMemberElsewhere
      split
      · exact scripted_isMemberElsewhere guildId userId rest
      · refine .bind (.ask _ _ rfl nofun) fun isMember => ?_
        cases isMember with
        | true => exact .pure true
        | false => exact scripted_isMemberElsewhere guildId userId rest

theorem scripted_removeMember (payload : Member) : Scripted (removeMember settings payload) := by
  refine .bind (scripted_read rfl rfl) fun g => .bind (scripted_drop rfl) fun _ =>
    .bind (scripted_removeId rfl _) fun _ => .bind (scripted_ids rfl rfl) fun guildIds =>
    .bind (scripted_isMemberElsewhere _ _ guildIds) fun elsewhere => ?_
  cases elsewhere with
  | true => exact scripted_write settings rfl _
  | false =>
      exact .bind (scripted_drop rfl) fun _ => .bind (scripted_removeId rfl _) fun _ =>
        scripted_write settings rfl _

theorem scripted_addPresence (guildId : String) (p : Presence) :
    Scripted (addPresence settings guildId p) := by
  refine .bind (scripted_read rfl rfl) fun g => .bind (scripted_write settings rfl _) fun _ => ?_
  split
  · exact .pure ()
  · refine .bind (.found (scripted_read rfl rfl)) fun cached => ?_
    cases cached with
    | some m => exact scripted_addMember settings _
    | none =>
        exact .bind (.found (scripted_read rfl rfl)) fun cachedUser => scripted_addMember settings _

theorem scripted_changeGuild (guildId : String) (change : Guild → Guild) :
    Scripted (do let g ← guild guildId; write settings (.guild g.id) (change g)) :=
  .bind (scripted_read rfl rfl) fun _ => scripted_write settings rfl _

theorem scripted_addChannel (payload : Channel) : Scripted (addChannel settings payload) := by
  refine .bind (.found (scripted_read rfl rfl)) fun cached => ?_
  have hrest (c : Channel) : Scripted
      (do writeChannel settings c; addIds .allChannelIds [c.id]) :=
    .bind (scripted_writeChannel settings c) fun _ => scripted_addIds rfl _
  dsimp only
  split
  · exact .bind (scripted_read rfl rfl) fun _ => .bind (scripted_write settings rfl _) fun _ =>
      hrest _
  · exact hrest _

theorem scripted_removeChannel (payload : Channel) : Scripted (removeChannel settings payload) := by
  refine .bind (scripted_read rfl rfl) fun cached => ?_
  have hrest : Scripted
      (do
        drop (.channel payload.id)
        drop (.channelMessages payload.id)
        removeId .allChannelIds payload.id) :=
    .bind (scripted_drop rfl) fun _ => .bind (scripted_drop rfl) fun _ => scripted_removeId rfl _
  dsimp only
  split
  · exact .bind (scripted_read rfl rfl) fun _ =>
      .bind (scripted_write settings rfl _) fun _ => hrest
  · exact hrest

theorem scripted_updatePins (p : ChannelPins) : Scripted (updatePins settings p) :=
  .bind (scripted_read rfl rfl) fun _ => scripted_writeChannel settings _

theorem scripted_addMessage (m : Message) : Scripted (addMessage settings m) := by
  unfold addMessage
  split
  · exact .pure ()
  · exact .bind (.ask _ _ rfl nofun) fun _ => .ask _ _ rfl nofun

theorem scripted_canReadBans (guildId : String) : Scripted (canReadBans botId guildId) := by
  refine .bind (.found (.bind (scripted_read rfl rfl) fun g => ?_)) fun permissions => ?_
  · split
    · exact .pure _
    · exact .bind (scripted_read rfl rfl) fun m => .pure _
  · cases permissions <;> exact .pure _

theorem scripted_addBan (guildId userId : String) : Scripted (addBan botId guildId userId) := by
  refine .bind (scripted_canReadBans botId guildId) fun mayRead => ?_
  cases mayRead with
  | true => exact scripted_addIds rfl _
  | false => exact .pure ()

theorem scripted_removeBan (guildId userId : String) :
    Scripted (removeBan botId guildId userId) := by
  refine .bind (scripted_canReadBans botId guildId) fun mayRead => ?_
  cases mayRead with
  | true => exact scripted_removeId rfl _
  | false => exact .pure ()

theorem scripted_update (e : Event) : Scripted (update settings botId e) := by
  cases e with
  | ready r => exact scripted_applyReady settings botId r
  | guildCreate g => exact scripted_addGuild settings botId g
  | guildUpdate g => exact scripted_addGuild settings botId g
  | guildDelete g => exact scripted_removeGuild g
  | guildMemberAdd m => exact scripted_addMember settings m
  | guildMemberUpdate m => exact scripted_addMember settings m
  | guildMemberRemove m => exact scripted_removeMember settings m
  | guildMembersChunk guildId members => exact .forM fun m => scripted_addMember settings _
  | guildRoleCreate guildId r => exact scripted_changeGuild settings guildId (·.addRole r)
  | guildRoleUpdate guildId r => exact scripted_changeGuild settings guildId (·.addRole r)
  | guildRoleDelete guildId roleId =>
      exact scripted_changeGuild settings guildId (·.removeRole roleId)
  | guildEmojisUpdate guildId emojis =>
      exact .forM fun e => scripted_changeGuild settings guildId (·.addEmoji e)
  | guildBanAdd guildId u => exact scripted_addBan botId guildId u.id
  | guildBanRemove guildId u => exact scripted_removeBan botId guildId u.id
  | channelCreate c => exact scripted_addChannel settings c
  | channelUpdate c => exact scripted_addChannel settings c
  | channelDelete c => exact scripted_removeChannel settings c
  | channelPinsUpdate p => exact scripted_updatePins settings p
  | presenceUpdate guildId p => exact scripted_addPresence settings guildId p
  | messageCreate m => exact scripted_addMessage settings m
  | _ => exact .pure ()

theorem scripted_apply (e : Event) : Scripted (apply settings botId e) :=
  .bind (scripted_update settings botId e) fun _ => .pure _

end Handlers

end Cache

end GuildRelay
