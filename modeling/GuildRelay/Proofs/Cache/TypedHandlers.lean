import GuildRelay.Cache.Claim
import GuildRelay.Proofs.Cache.Changes
import GuildRelay.Proofs.Cache.Typing
/-!
# Handlers are typed

Every program of the cache is typed, given plain ids: applying events (`Cache.typed_apply`), filling
ban lists (`Cache.typed_attemptBackfill`) and claiming events (`Cache.typed_isNew`).

Handlers write under ids that they find in records, so what they rely on is that a record has the id
of its key: the channels of a cached guild may be dropped, and a cached member may be put back. Only
the removal of a guild or of a member asks for all members of a set.
-/

namespace GuildRelay

/-- All members of a set are asked for when the event is applied. -/
def Event.lists : Event → Bool
  | guildDelete _ => true
  | guildMemberRemove _ => true
  | _ => false

namespace Cache

open GuildRelay.Action

variable {l : Liberties} {settings : CacheSettings}

/-! ## Records -/

theorem typed_guild {guildId : String} (hg : PlainId guildId) :
    (guild guildId).Typed l (Guild.IsAt guildId) :=
  typed_read hg rfl rfl

theorem typed_member {guildId : String} (hg : PlainId guildId) (userId : String) :
    (member guildId userId).Typed l (Member.IsAt userId) :=
  typed_read hg rfl rfl

theorem typed_channel {channelId : String} (hc : PlainId channelId) :
    (channel channelId).Typed l (Channel.IsAt channelId) :=
  typed_read hc rfl rfl

theorem typed_user {userId : String} (hu : PlainId userId) :
    (user userId).Typed l (User.IsAt userId) :=
  typed_read hu rfl rfl

theorem typed_isMember {guildId : String} (hg : PlainId guildId) (userId : String) :
    (isMember guildId userId).Typed l fun _ => True :=
  .ask hg rfl ⟨nofun, fun _ => trivial⟩ fun _ _ => trivial

theorem typed_userPermissions {guildId : String} (hg : PlainId guildId) (userId : String) :
    (userPermissions userId guildId).Typed l fun _ => True := by
  refine .bind (typed_guild hg) fun g hid => ?_
  split
  · exact .pure trivial
  · refine .bind (typed_member ?_ userId) fun m _ => .pure trivial
    rw [hid.1]
    exact hg

theorem typed_canReadBans {guildId : String} (hg : PlainId guildId) (botId : String) :
    (canReadBans botId guildId).Typed l fun _ => True := by
  refine .bind (typed_userPermissions hg botId).found fun permissions _ => ?_
  cases permissions <;> exact .pure trivial

/-! ## Guilds -/

theorem typed_writeGuildRecord (hs : l.Covers settings) {g : Guild} (hg : PlainId g.id)
    (hcs : ∀ c ∈ g.channelList, PlainId c.id) :
    (write settings (.guild g.id) g).Typed l fun _ => True :=
  typed_write hs hg rfl rfl ⟨rfl, hcs⟩

theorem typed_writeChannel (hs : l.Covers settings) {c : Channel} (hc : c.IsWellNamed) :
    (writeChannel settings c).Typed l fun _ => True :=
  typed_write hs hc.1 rfl rfl ⟨rfl, hc.2⟩

theorem typed_writeUser (hs : l.Covers settings) {u : User} (hu : PlainId u.id) :
    (write settings (.user u.id) u).Typed l fun _ => True :=
  typed_write hs hu rfl rfl (show u.IsAt u.id from rfl)

theorem typed_writeMember (hs : l.Covers settings) {guildId : String} (hg : PlainId guildId)
    {m : Member} (hm : m.IsWellNamed) : (writeMember settings guildId m).Typed l fun _ => True :=
  .next (typed_write hs hg rfl rfl ⟨rfl, hm.1⟩) fun _ => typed_writeUser hs hm.2

theorem typed_writeChildren (hs : l.Covers settings) {g : Guild} (hg : g.IsWellNamed) :
    (writeChildren settings g).Typed l fun _ => True := by
  refine .next (.forM fun c hc => typed_writeChannel hs (hg.2.1 c hc)) fun _ => ?_
  refine .next (typed_addIds trivial rfl fun _ _ => trivial) fun _ => ?_
  refine .next (.forM fun m hm => typed_writeMember hs hg.1 (hg.2.2 m hm)) fun _ => ?_
  refine .next (typed_addIds trivial rfl fun _ _ => trivial) fun _ => ?_
  exact typed_addIds hg.1 rfl fun _ _ => trivial

theorem typed_writeGuild (hs : l.Covers settings) {g : Guild} (hg : PlainId g.id)
    (hcs : ∀ c ∈ g.channelList, PlainId c.id) : (writeGuild settings g).Typed l fun _ => True := by
  refine .next (typed_writeGuildRecord hs hg hcs) fun _ => ?_
  refine typed_addIds trivial rfl fun id hid => ?_
  rw [List.mem_singleton.mp hid]
  exact hg

theorem typed_addBot {guildId : String} (hg : PlainId guildId) (botId : String) :
    (addBot guildId botId).Typed l fun _ => True := by
  unfold addBot
  split
  · exact .pure trivial
  · exact typed_addIds hg rfl fun _ _ => trivial

theorem typed_resetGuild (hs : l.Covers settings) (botId : String) {payload : Guild}
    (hp : payload.IsWellNamed) : (resetGuild settings botId payload).Typed l fun _ => True := by
  have hg := hp.fillIds
  refine .next (typed_writeGuild hs hg.1 fun c hc => (hg.2.1 c hc).1) fun _ => ?_
  refine .next (typed_writeChildren hs hg) fun _ => ?_
  exact typed_addBot hg.1 botId

theorem typed_applyReady (hs : l.Covers settings) (botId : String) {r : Ready}
    (hr : (Event.ready r).IsWellNamed) : (applyReady settings botId r).Typed l fun _ => True := by
  obtain ⟨huser, hguilds, hchannels⟩ := hr
  refine .next (typed_writeUser hs huser) fun _ => ?_
  refine .next (.forM fun g hg => typed_resetGuild hs botId (hguilds g hg)) fun _ => ?_
  refine .next (.forM fun c hc => typed_writeChannel hs (hchannels c hc)) fun _ => ?_
  exact typed_addIds trivial rfl fun _ _ => trivial

theorem typed_addGuild (hs : l.Covers settings) (botId : String) {payload : Guild}
    (hp : payload.IsWellNamed) : (addGuild settings botId payload).Typed l fun _ => True := by
  have hg := hp.fillIds
  refine .next (typed_writeChildren hs hg) fun _ => ?_
  refine .bind (typed_guild hg.1).found fun cached hcached => ?_
  refine .next (typed_writeGuild hs (by rw [Guild.carryOver_id]; exact hg.1) fun c hc => ?_)
    fun _ => typed_addBot hg.1 botId
  -- A channel that is kept comes from the payload or from the guild in its place.
  rcases Guild.channelList_carryOver hc with hc | ⟨old, hold, hc⟩
  · exact (hg.2.1 c hc).1
  · exact (hcached old hold).2 c hc

theorem typed_dropChannel {channelId : String} (hc : PlainId channelId) :
    (dropChannel channelId).Typed l fun _ => True :=
  .next (typed_drop hc) fun _ => typed_removeId trivial rfl

/-- The channels of a guild that is gone have plain ids, whoever tells of them. -/
theorem isPlain_of_mem_channels {payload : Guild} (hp : payload.IsWellNamed) {cached : Option Guild}
    (hcached : ∀ g ∈ cached, g.IsAt payload.id) :
    ∀ c ∈ (cached.getD payload).channelList, PlainId c.id := by
  cases cached with
  | none => exact fun c hc => (hp.2.1 c hc).1
  | some g => exact (hcached g rfl).2

theorem typed_removeGuild (hl : l.listing = true) {payload : Guild} (hp : payload.IsWellNamed) :
    (removeGuild payload).Typed l fun _ => True := by
  refine .bind (typed_guild hp.1).found fun cached hcached => ?_
  refine .next (typed_drop hp.1) fun _ => ?_
  refine .next (typed_removeId trivial rfl) fun _ => ?_
  refine .next (.forM fun c hc => typed_dropChannel (isPlain_of_mem_channels hp hcached c hc))
    fun _ => ?_
  refine .bind (typed_ids hl hp.1 rfl) fun userIds _ => ?_
  refine .next (.forM fun userId _ => typed_drop hp.1) fun _ => ?_
  refine .next (typed_drop hp.1) fun _ => ?_
  refine .next (typed_drop hp.1) fun _ => ?_
  refine .next (typed_drop hp.1) fun _ => ?_
  exact typed_removeId trivial rfl

/-- A guild that is changed stays in its place. -/
theorem typed_changeGuild (hs : l.Covers settings) {guildId : String} (hg : PlainId guildId)
    (change : Guild → Guild) (hchange : ∀ g, g.IsAt guildId → (change g).IsAt guildId) :
    (guild guildId >>= fun g => write settings (.guild g.id) (change g)).Typed l
      fun _ => True := by
  refine .bind (typed_guild hg) fun g hid => ?_
  have hnew := hchange g hid
  rw [hid.1]
  exact typed_write hs hg rfl rfl hnew

/-! ## Members -/

theorem typed_addMember (hs : l.Covers settings) {payload : Member} (hp : payload.IsWellNamed) :
    (addMember settings payload).Typed l fun _ => True := by
  refine .bind (typed_guild hp.1) fun g hid => ?_
  refine .bind (typed_member hp.1 payload.user.id).found fun cached _ => ?_
  have hm : (payload.carryOver cached).IsWellNamed := by cases cached <;> exact hp
  have hg : PlainId g.id := by
    rw [hid.1]
    exact hp.1
  refine .next (typed_write hs hg rfl rfl (show (g.addMember _).IsAt g.id from ⟨rfl, hid.2⟩))
    fun _ => ?_
  refine .next (typed_writeMember hs hg hm) fun _ => ?_
  refine .next (typed_addIds trivial rfl fun _ _ => trivial) fun _ => ?_
  exact typed_addIds hg rfl fun _ _ => trivial

theorem typed_isMemberElsewhere (guildId userId : String) : ∀ {guildIds : List String},
    (∀ g ∈ guildIds, PlainId g) →
      (isMemberElsewhere guildId userId guildIds).Typed l fun _ => True
  | [], _ => .pure trivial
  | g :: rest, hplain => by
      have hrest : (isMemberElsewhere guildId userId rest).Typed l fun _ => True :=
        typed_isMemberElsewhere guildId userId fun g' hg' => hplain g' (List.mem_cons_of_mem g hg')
      unfold isMemberElsewhere
      split
      · exact hrest
      · refine .next (typed_isMember (hplain g List.mem_cons_self) userId) fun found => ?_
        cases found with
        | true => exact .pure trivial
        | false => exact hrest

theorem typed_removeMember (hs : l.Covers settings) (hl : l.listing = true) {payload : Member}
    (hp : payload.IsWellNamed) : (removeMember settings payload).Typed l fun _ => True := by
  refine .bind (typed_guild hp.1) fun g hid => ?_
  have hg : PlainId g.id := by
    rw [hid.1]
    exact hp.1
  have hwrite : (write settings (.guild g.id) (g.removeMember payload.user.id)).Typed l
      fun _ => True := typed_write hs hg rfl rfl (show Guild.IsAt g.id _ from ⟨rfl, hid.2⟩)
  refine .next (typed_drop hg) fun _ => ?_
  refine .next (typed_removeId hg rfl) fun _ => ?_
  refine .bind (typed_ids hl trivial rfl) fun guildIds hplain => ?_
  refine .next (typed_isMemberElsewhere g.id payload.user.id hplain) fun elsewhere => ?_
  cases elsewhere with
  | true => exact hwrite
  | false =>
      exact .next (typed_drop hp.2) fun _ => .next (typed_removeId trivial rfl) fun _ => hwrite

theorem typed_addPresence (hs : l.Covers settings) {guildId : String} {p : Presence}
    (hguild : PlainId guildId) (hp : PlainId p.user.id) :
    (addPresence settings guildId p).Typed l fun _ => True := by
  refine .bind (typed_guild hguild) fun g hid => ?_
  have hg : PlainId g.id := by
    rw [hid.1]
    exact hguild
  refine .next (typed_write hs hg rfl rfl (show (g.addPresence p).IsAt g.id from ⟨rfl, hid.2⟩))
    fun _ => ?_
  split
  · exact .pure trivial
  · refine .bind (typed_member hguild p.user.id).found fun cached hcached => ?_
    cases cached with
    | some m =>
        obtain ⟨huser, hplain⟩ := hcached m rfl
        refine typed_addMember hs ⟨hplain, ?_⟩
        show PlainId m.user.id
        rw [huser]
        exact hp
    | none =>
        refine .bind (typed_user hp).found fun cachedUser hu => ?_
        refine typed_addMember hs ⟨hguild, ?_⟩
        cases cachedUser with
        | none => exact hp
        | some u =>
            show PlainId u.id
            rw [hu u rfl]
            exact hp

/-! ## Channels and messages -/

theorem typed_addChannel (hs : l.Covers settings) {payload : Channel} (hp : payload.IsWellNamed) :
    (addChannel settings payload).Typed l fun _ => True := by
  refine .bind (typed_channel hp.1).found fun cached _ => ?_
  have hc : (payload.carryOver cached).IsWellNamed := by cases cached <;> exact hp
  have hput : (do
      writeChannel settings (payload.carryOver cached)
      addIds .allChannelIds [(payload.carryOver cached).id] : CacheAction Unit).Typed l
        fun _ => True :=
    .next (typed_writeChannel hs hc) fun _ => typed_addIds trivial rfl fun _ _ => trivial
  simp only
  split
  · refine .bind (typed_guild hc.2) fun g hid => ?_
    refine .next ?_ fun _ => hput
    rw [hid.1]
    refine typed_write hs hc.2 rfl rfl ⟨hid.1, fun c hmem => ?_⟩
    rcases mem_of_mem_replaceOrAdd hmem with rfl | hmem
    · exact hc.1
    · exact hid.2 c hmem
  · exact hput

theorem typed_removeChannel (hs : l.Covers settings) {payload : Channel} (hp : PlainId payload.id) :
    (removeChannel settings payload).Typed l fun _ => True := by
  refine .bind (typed_channel hp) fun cached hcached => ?_
  have hdrop : (do
      drop (.channel payload.id)
      drop (.channelMessages payload.id)
      removeId .allChannelIds payload.id : CacheAction Unit).Typed l fun _ => True :=
    .next (typed_drop hp) fun _ => .next (typed_drop hp) fun _ => typed_removeId trivial rfl
  split
  · refine .bind (typed_guild hcached.2) fun g hid => ?_
    refine .next ?_ fun _ => hdrop
    rw [hid.1]
    refine typed_write hs hcached.2 rfl rfl ⟨hid.1, fun c hmem => ?_⟩
    rw [Guild.channelList_removeChannel] at hmem
    exact hid.2 c (List.mem_of_mem_filter hmem)
  · exact hdrop

theorem typed_updatePins (hs : l.Covers settings) {p : ChannelPins} (hp : PlainId p.channelId) :
    (updatePins settings p).Typed l fun _ => True := by
  refine .bind (typed_channel hp) fun c hc => typed_writeChannel hs ⟨?_, hc.2⟩
  show PlainId c.id
  rw [hc.1]
  exact hp

theorem typed_addMessage {m : Message} (hm : PlainId m.channelId) :
    (addMessage settings m).Typed l fun _ => True := by
  unfold addMessage
  split
  · exact .pure trivial
  · refine .next (.ask hm ⟨rfl, fun text h => ?_⟩ ⟨nofun, fun _ => trivial⟩ fun _ _ => trivial)
      fun _ => ?_
    · rw [List.mem_singleton.mp h]
      exact ⟨m, rfl, rfl⟩
    · refine .ask hm rfl ⟨nofun, fun _ => ?_⟩ fun _ _ => trivial
      have hlast : min (settings.maxChannelMessages - 1) lastPosition ≤ lastPosition :=
        Nat.min_le_right _ _
      unfold lastPosition at hlast
      simp only [Operation.IsBounded, IsCountable, lastPosition]
      omega

/-! ## Bans -/

theorem typed_addBan {guildId : String} (hg : PlainId guildId) (botId userId : String) :
    (addBan botId guildId userId).Typed l fun _ => True := by
  refine .next (typed_canReadBans hg botId) fun allowed => ?_
  cases allowed with
  | true => exact typed_addIds hg rfl fun _ _ => trivial
  | false => exact .pure trivial

theorem typed_removeBan {guildId : String} (hg : PlainId guildId) (botId userId : String) :
    (removeBan botId guildId userId).Typed l fun _ => True := by
  refine .next (typed_canReadBans hg botId) fun allowed => ?_
  cases allowed with
  | true => exact typed_removeId hg rfl
  | false => exact .pure trivial

theorem typed_initializeBans (hl : l.fetching = true) {guildId : String} (hg : PlainId guildId)
    (botId : String) : (initializeBans guildId botId).Typed l fun _ => True := by
  refine .next (typed_canReadBans hg botId) fun allowed => ?_
  cases allowed with
  | true =>
      refine .bind (.ask (R := fun _ => True) trivial rfl ⟨nofun, fun _ => trivial⟩
        fun _ _ => trivial) fun initialized _ => ?_
      cases initialized with
      | true => exact .pure trivial
      | false =>
          refine .next (typed_drop hg) fun _ => ?_
          refine .bind (P := fun _ => True) ⟨hl, fun reply => ?_⟩ fun bans _ => ?_
          · cases reply with
            | ok bans => exact trivial
            | error e => exact .inl hl
          · refine .next (typed_addIds hg rfl fun _ _ => trivial) fun _ => ?_
            exact typed_addIds trivial rfl fun _ _ => trivial
  | false => exact .next (typed_drop hg) fun _ => typed_removeId trivial rfl

theorem typed_attemptBackfill (hl : l.fetching = true) {guildId : String} (hg : PlainId guildId)
    (botId : String) : ∀ attempts : Nat,
      (attemptBackfill guildId botId attempts).Typed l fun _ => True
  | 0 => trivial
  | attempts + 1 => by
      refine Program.Typed.andThen (fun r _ => ?_) (typed_initializeBans hl hg botId)
      cases r with
      | ok _ => trivial
      | error e =>
          simp only
          split
          · exact typed_attemptBackfill hl hg botId attempts
          · trivial

/-! ## Events -/

theorem typed_update (hs : l.Covers settings) (botId : String) {e : Event} (he : e.IsWellNamed)
    (hl : e.lists = true → l.listing = true) : (update settings botId e).Typed l fun _ => True := by
  cases e with
  | ready r => exact typed_applyReady hs botId he
  | guildCreate g | guildUpdate g => exact typed_addGuild hs botId he
  | guildDelete g => exact typed_removeGuild (hl rfl) he
  | guildMemberAdd m | guildMemberUpdate m => exact typed_addMember hs he
  | guildMemberRemove m => exact typed_removeMember hs (hl rfl) he
  | guildMembersChunk guildId members =>
      exact .forM fun m hm => typed_addMember hs ⟨he.1, he.2 m hm⟩
  | guildRoleCreate guildId r | guildRoleUpdate guildId r =>
      exact typed_changeGuild hs he (·.addRole r) fun _ h => h
  | guildRoleDelete guildId roleId =>
      exact typed_changeGuild hs he (·.removeRole roleId) fun _ h => h
  | guildEmojisUpdate guildId emojis =>
      exact .forM fun emoji _ => typed_changeGuild hs he (·.addEmoji emoji) fun _ h => h
  | guildBanAdd guildId u => exact typed_addBan he botId u.id
  | guildBanRemove guildId u => exact typed_removeBan he botId u.id
  | channelCreate c | channelUpdate c => exact typed_addChannel hs he
  | channelDelete c => exact typed_removeChannel hs he.1
  | channelPinsUpdate p => exact typed_updatePins hs he
  | presenceUpdate guildId p => exact typed_addPresence hs he.1 he.2
  | messageCreate m => exact typed_addMessage he
  | _ => exact .pure trivial

theorem typed_apply (hs : l.Covers settings) (botId : String) {e : Event} (he : e.IsWellNamed)
    (hl : e.lists = true → l.listing = true) : (apply settings botId e).Typed l fun _ => True :=
  .next (typed_update hs botId he hl) fun _ => .pure trivial

/-! ## Claims -/

theorem isGranted_claimWindow : IsGranted claimWindow := by
  simp only [IsGranted, IsCountable, claimWindow]
  omega

theorem typed_isNew {k : Key} (hk : k.IsPlain) (hclaim : k.isClaim = true) :
    (isNew k).Typed l fun _ => True := by
  cases k <;> cases hclaim
  exact ⟨hk, ⟨rfl, trivial⟩, ⟨nofun, fun _ => isGranted_claimWindow⟩, fun _ _ => trivial⟩

end Cache

end GuildRelay
