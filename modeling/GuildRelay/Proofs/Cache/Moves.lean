import GuildRelay.Proofs.Cache.Handlers
import GuildRelay.Proofs.Cache.World
import Mathlib.Logic.Relation
/-!
# What events do to the tables

`Tables.Move` lists everything that an event can do to the tables in one go, with what is known when
it is done. `leads_update` says that every event comes to a sequence of such moves, whether it
succeeds or fails and whatever expires meanwhile. An invariant of the cache is therefore proved move
by move, and `World.Reachable.exists_tables` takes it to every world that events lead to.

That tables stay sound is the first such invariant (`Tables.Move.sound`). It is needed on the way:
the moves of an event are known only from sound tables.
-/

namespace GuildRelay

/-- The guilds that an event brings whole. -/
def Event.guilds : Event → List Guild
  | .ready r => r.guilds
  | .guildCreate g => [g]
  | .guildUpdate g => [g]
  | _ => []

/-- The guild whose ban list an event changes. -/
def Event.guildOfBan : Event → Option String
  | .guildBanAdd guildId _ => some guildId
  | .guildBanRemove guildId _ => some guildId
  | _ => none

namespace Tables

/-- What an event may do to the tables. -/
inductive Move (e : Event) : Tables → Tables → Prop
  | user {t : Tables} (u : User) : Move e t (t.setUser u)
  | guild {t : Tables} {payload : Guild} {cached : Option Guild} (botId : String) :
      payload ∈ e.guilds → payload.IsWellNamed →
      (∀ old, cached = some old → t.guild payload.id = some old) →
      Move e t (t.takeGuild botId payload cached)
  | guildGone {t : Tables} (guildId : String) (channelIds : List String) :
      Move e t (t.removeGuild guildId channelIds)
  | guildChanged {t : Tables} (g g' : Guild) :
      t.guild g.id = some g → g'.id = g.id → g'.members = g.members →
      g'.memberCount = g.memberCount → (∀ c ∈ g'.channelList, PlainId c.id) →
      Move e t (t.setGuild g')
  | member {t : Tables} {g : Guild} {m : Member} :
      t.guild g.id = some g → m.IsWellNamed → m.guildId = g.id →
      Move e t (t.storeMember g m)
  | memberGone {t : Tables} {g : Guild} (userId : String) :
      t.guild g.id = some g → Move e t (t.removeMember g userId)
  | channels {t : Tables} {cs : List Channel} : (∀ c ∈ cs, c.IsWellNamed) →
      Move e t (t.putChannels cs)
  | channelChanged {t : Tables} (c c' : Channel) :
      t.channel c.id = some c → c'.id = c.id → c'.guildId = c.guildId →
      Move e t (t.setChannel c')
  | channelGone {t : Tables} (channelId : String) : Move e t (t.removeChannel channelId)
  | messages {t : Tables} (channelId : String) (messages : List Message) :
      Move e t (t.setMessages channelId messages)
  | banned {t : Tables} {guildId : String} (userIds : List String) : e.guildOfBan = some guildId →
      Move e t ((Index.guildBanned guildId).put userIds t)

/-- Any number of moves. -/
abbrev Moves (e : Event) : Tables → Tables → Prop :=
  Relation.ReflTransGen (Move e)

variable {e : Event} {t t' t'' : Tables}

/-! ## Sound tables -/

theorem sound_empty : ({} : Tables).Sound := by
  constructor <;> intros <;> contradiction

theorem Sound.guild_self (ht : t.Sound) {guildId : String} {g : Guild}
    (hg : t.guild guildId = some g) : t.guild g.id = some g := by
  rwa [ht.guild_id hg]

theorem Sound.guild_setGuild_self (ht : t.Sound) {guildId : String} {g g' : Guild}
    (hg : t.guild guildId = some g) (hid : g'.id = g.id) :
    (t.setGuild g').guild guildId = some g' :=
  if_pos ((ht.guild_id hg).symm.trans hid.symm)

theorem Sound.setUser (ht : t.Sound) (u : User) : (t.setUser u).Sound :=
  { ht with
    user_id := fun {id r} h => by
      simp only [Tables.setUser, Slot.user] at h
      split at h
      · next hid => rw [← Option.some.inj h, hid]
      · exact ht.user_id h }

theorem Sound.setGuild (ht : t.Sound) {g : Guild} (hcs : ∀ c ∈ g.channelList, PlainId c.id) :
    (t.setGuild g).Sound :=
  { ht with
    guild_id := fun h => by
      rcases guild_setGuild h with ⟨rfl, rfl⟩ | ⟨-, h⟩
      · rfl
      · exact ht.guild_id h
    guild_channel := fun h => by
      rcases guild_setGuild h with ⟨rfl, rfl⟩ | ⟨-, h⟩
      · exact hcs
      · exact ht.guild_channel h }

/-- Writing a presence brings a guild no channels. -/
theorem Sound.setPresence (ht : t.Sound) {guildId : String} {g : Guild}
    (hg : t.guild guildId = some g) (p : Presence) : (t.setGuild (g.addPresence p)).Sound :=
  ht.setGuild fun c hc => ht.guild_channel hg c hc

theorem Sound.putGuild (ht : t.Sound) {g : Guild} (hg : PlainId g.id)
    (hcs : ∀ c ∈ g.channelList, PlainId c.id) : (t.putGuild g).Sound :=
  { ht.setGuild hcs with
    guildIds := fun id hid => by
      rcases mem_insertAll.mp hid with hid | hid
      · rwa [List.mem_singleton.mp hid]
      · exact ht.guildIds id hid }

theorem Sound.setChannel (ht : t.Sound) {c : Channel} (hc : PlainId c.guildId) :
    (t.setChannel c).Sound :=
  { ht with
    channel_id := fun h => by
      rcases channel_setChannel h with ⟨rfl, rfl⟩ | h
      · rfl
      · exact ht.channel_id h
    channel_guild := fun h => by
      rcases channel_setChannel h with ⟨rfl, rfl⟩ | h
      · exact hc
      · exact ht.channel_guild h }

theorem Sound.putChannels (ht : t.Sound) {cs : List Channel} (hcs : ∀ c ∈ cs, c.IsWellNamed) :
    (t.putChannels cs).Sound :=
  { ht with
    channel_id := fun h => by
      rcases channel_setChannels h with ⟨-, hid⟩ | h
      · exact hid
      · exact ht.channel_id h
    channel_guild := fun h => by
      rcases channel_setChannels h with ⟨hc, -⟩ | h
      · exact (hcs _ hc).2
      · exact ht.channel_guild h
    channelIds := fun id hid => by
      rcases mem_insertAll.mp hid with hid | hid
      · obtain ⟨c, hc, rfl⟩ := List.mem_map.mp hid
        exact (hcs c hc).1
      · exact ht.channelIds id hid }

theorem Sound.putMembers (ht : t.Sound) (guildId : String) {ms : List Member}
    (hms : ∀ m ∈ ms, m.IsWellNamed) : (t.putMembers guildId ms).Sound :=
  { ht with
    member_user := fun h => by
      rcases member_setMembers h with ⟨-, -, hu⟩ | h
      · exact hu
      · exact ht.member_user h
    member_guild := fun h => by
      rcases member_setMembers h with ⟨-, hm, -⟩ | h
      · exact (hms _ hm).1
      · exact ht.member_guild h
    user_id := fun h => by
      rcases user_setMembers guildId h with ⟨-, -, -, hid⟩ | h
      · exact hid
      · exact ht.user_id h
    userIds := fun id hid => by
      rcases mem_insertAll.mp hid with hid | hid
      · obtain ⟨m, hm, rfl⟩ := List.mem_map.mp hid
        exact (hms m hm).2
      · exact ht.userIds id hid }

theorem Sound.removeGuild (ht : t.Sound) (guildId : String) (channelIds : List String) :
    (t.removeGuild guildId channelIds).Sound where
  guild_id h := ht.guild_id (Option.ite_none_left_eq_some.mp h).2
  guild_channel h := ht.guild_channel (Option.ite_none_left_eq_some.mp h).2
  member_user h := ht.member_user (Option.ite_none_left_eq_some.mp h).2
  member_guild h := ht.member_guild (Option.ite_none_left_eq_some.mp h).2
  channel_id h := ht.channel_id (Option.ite_none_left_eq_some.mp h).2
  channel_guild h := ht.channel_guild (Option.ite_none_left_eq_some.mp h).2
  user_id := ht.user_id
  userIds := ht.userIds
  guildIds g hg := ht.guildIds g (List.mem_filter.mp hg).1
  channelIds c hc := ht.channelIds c (List.mem_filter.mp hc).1

theorem Sound.dropMember (ht : t.Sound) (guildId userId : String) :
    (t.dropMember guildId userId).Sound :=
  { ht with
    member_user := fun h => ht.member_user (Option.ite_none_left_eq_some.mp h).2
    member_guild := fun h => ht.member_guild (Option.ite_none_left_eq_some.mp h).2 }

theorem Sound.dropUser (ht : t.Sound) (userId : String) : (t.dropUser userId).Sound :=
  { ht with
    user_id := fun h => ht.user_id (Option.ite_none_left_eq_some.mp h).2
    userIds := fun u hu => ht.userIds u (List.mem_filter.mp hu).1 }

theorem Sound.removeChannel (ht : t.Sound) (channelId : String) :
    (t.removeChannel channelId).Sound :=
  { ht with
    channel_id := fun h => ht.channel_id (Option.ite_none_left_eq_some.mp h).2
    channel_guild := fun h => ht.channel_guild (Option.ite_none_left_eq_some.mp h).2
    channelIds := fun c hc => ht.channelIds c (List.mem_filter.mp hc).1 }

theorem Sound.isPlain_of_mem_carryOver (ht : t.Sound) {payload : Guild} {cached : Option Guild}
    (hp : payload.IsWellNamed)
    (hcached : ∀ old, cached = some old → t.guild payload.id = some old) :
    ∀ c ∈ (payload.fillIds.carryOver cached).channelList, PlainId c.id := by
  intro c hc
  rcases Guild.channelList_carryOver hc with hc | ⟨old, hold, hc⟩
  · exact (hp.fillIds.2.1 c hc).1
  · exact ht.guild_channel (hcached old hold) c hc

theorem Sound.takeGuild (ht : t.Sound) (botId : String) {payload : Guild} {cached : Option Guild}
    (hp : payload.IsWellNamed)
    (hcached : ∀ old, cached = some old → t.guild payload.id = some old) :
    (t.takeGuild botId payload cached).Sound := by
  obtain ⟨hg, hcs, hms⟩ := hp.fillIds
  have hcarry := ht.isPlain_of_mem_carryOver hp hcached
  have hchannels := ht.putChannels hcs
  have hmembers := hchannels.putMembers payload.id hms
  have hguild := hmembers.putGuild (by rwa [Guild.carryOver_id]) hcarry
  exact { hguild with }

/-- Moves keep the tables sound. -/
theorem Move.sound (h : Move e t t') (ht : t.Sound) : t'.Sound := by
  cases h with
  | user u => exact ht.setUser u
  | guild botId _ hp hcached => exact ht.takeGuild botId hp hcached
  | guildGone guildId channelIds => exact ht.removeGuild guildId channelIds
  | guildChanged _ _ _ _ _ _ hcs => exact ht.setGuild hcs
  | @member g m hg hm _ =>
      have hguild := ht.setGuild (g := g.addMember m) fun c hc => ht.guild_channel hg c hc
      exact hguild.putMembers g.id fun m' hm' => by rwa [List.mem_singleton.mp hm']
  | @memberGone g userId hg =>
      have hcs := ht.guild_channel hg
      unfold Tables.removeMember
      split
      · exact (ht.dropMember g.id userId).setGuild hcs
      · exact ((ht.dropMember g.id userId).dropUser userId).setGuild hcs
  | channels hcs => exact ht.putChannels hcs
  | channelChanged _ _ hc _ hguild => exact ht.setChannel (hguild ▸ ht.channel_guild hc)
  | channelGone channelId => exact ht.removeChannel channelId
  | messages channelId ms => exact { ht with }
  | banned userIds _ => exact { ht with }

theorem Moves.sound (h : Moves e t t') (ht : t.Sound) : t'.Sound := by
  induction h with
  | refl => exact ht
  | tail _ hmove ih => exact hmove.sound ih

end Tables

namespace Cache

open GuildRelay.Action Tables

variable {s : Surroundings} {settings : CacheSettings} {t : Tables}

theorem leads_applyReady (hs : s.Allows settings) {botId : String} {r : Ready}
    (hr : (Event.ready r).IsWellNamed) :
    (applyReady settings botId r).Leads s t
      fun result t' => result = .ok () ∧ Moves (.ready r) t t' := by
  obtain ⟨huser, hguilds, hchannels⟩ := hr
  refine .bind (leads_write hs (Slot.user r.user.id) r.user huser ?_)
  have hfirst : Moves (.ready r) t (t.setUser r.user) := .single (.user r.user)
  refine .bind (Leads.forM_of_invariant (I := fun t' => Moves (.ready r) t t') (fun t' ht' => ?_)
    hfirst fun g hg t' ht' => leads_resetGuild hs (hguilds g hg) ?_)
  · refine .bind (leads_writeChannels hs (fun c hc => (hchannels c hc).1) ?_)
    exact leads_addIds Index.channels _ trivial ⟨rfl, ht'.tail (.channels hchannels)⟩
  · exact ht'.tail (.guild botId hg (hguilds g hg) fun old hold => nomatch hold)

/-- What storing a member of a payload does is a move. -/
theorem move_addMember (e : Event) {payload : Member} (hp : payload.IsWellNamed)
    (ht : t.Sound) {g : Guild} (hg : t.guild payload.guildId = some g) (cached : Option Member) :
    Move e t (t.storeMember g (payload.carryOver cached)) := by
  refine .member (ht.guild_self hg) ?_ ?_
  · cases cached <;> exact hp
  · rw [ht.guild_id hg]
    cases cached <;> rfl

theorem leads_addMember_moves (hs : s.Allows settings) (e : Event) {m : Member}
    (hm : m.IsWellNamed) (ht : t.Sound) :
    (addMember settings m).Leads s t fun _ t' => Moves e t t' :=
  leads_addMember hs hm ht (fun _ => .refl) fun _ cached hg _ =>
    .single (move_addMember e hm ht hg cached)

theorem leads_addMembers_moves (hs : s.Allows settings) (e : Event) {guildId : String}
    {members : List Member} (hguild : PlainId guildId) (hms : ∀ m ∈ members, PlainId m.user.id)
    (ht : t.Sound) :
    (members.forM fun m => addMember settings { m with guildId }).Leads s t
      fun _ t' => Moves e t t' := by
  refine .forM_of_invariant (fun _ h => h) .refl fun m hm t' ht' => ?_
  have hnamed : { m with guildId }.IsWellNamed := ⟨hguild, hms m hm⟩
  refine (leads_addMember_moves hs e hnamed (ht'.sound ht)).mono ?_
  rintro (_ | _) t'' h <;> exact ht'.trans h

theorem leads_changeGuild_moves (hs : s.Allows settings) (e : Event) {guildId : String}
    (change : Guild → Guild) (hid : ∀ g, (change g).id = g.id)
    (hmembers : ∀ g, (change g).members = g.members)
    (hcount : ∀ g, (change g).memberCount = g.memberCount)
    (hchannels : ∀ g, (change g).channels = g.channels) (hguild : PlainId guildId) (ht : t.Sound) :
    (guild guildId >>= fun g => write settings (.guild g.id) (change g)).Leads s t
      fun _ t' => Moves e t t' := by
  refine leads_changeGuild hs hid hguild ht (fun _ => .refl) fun g hg => ?_
  refine .single (.guildChanged g _ (ht.guild_self hg) (hid g) (hmembers g) (hcount g) ?_)
  unfold Guild.channelList
  rw [hchannels]
  exact ht.guild_channel hg

theorem leads_addEmojis_moves (hs : s.Allows settings) (e : Event) {guildId : String}
    {emojis : List Emoji} (hguild : PlainId guildId) (ht : t.Sound) :
    (emojis.forM (addEmoji settings guildId)).Leads s t fun _ t' => Moves e t t' := by
  refine .forM_of_invariant (fun _ h => h) .refl fun emoji _ t' ht' => ?_
  refine (leads_changeGuild_moves hs e (·.addEmoji emoji) (fun _ => rfl) (fun _ => rfl)
    (fun _ => rfl) (fun _ => rfl) hguild (ht'.sound ht)).mono ?_
  rintro (_ | _) t'' h <;> exact ht'.trans h

theorem leads_addPresence_moves (hs : s.Allows settings) (e : Event) {guildId : String}
    {p : Presence} (hguild : PlainId guildId) (hp : PlainId p.user.id) (ht : t.Sound) :
    (addPresence settings guildId p).Leads s t fun _ t' => Moves e t t' := by
  have hfirst : ∀ g, t.guild guildId = some g → Moves e t (t.setGuild (g.addPresence p)) :=
    fun g hg => .single (.guildChanged g _ (ht.guild_self hg) rfl rfl rfl fun c hc =>
      ht.guild_channel hg c hc)
  refine leads_addPresence hs hguild hp ht (fun _ => .refl) (fun g hg _ => hfirst g hg)
    fun g m hg _ hm => ?_
  refine (leads_addMember_moves hs e (hm.isWellNamed ht hguild hp)
    ((hfirst g hg).sound ht)).mono fun _ t' h => (hfirst g hg).trans h

theorem leads_addChannel_moves (hs : s.Allows settings) (e : Event) {c : Channel}
    (hc : c.IsWellNamed) (ht : t.Sound) :
    (addChannel settings c).Leads s t fun _ t' => Moves e t t' := by
  have hcarry : ∀ cached, ∀ c' ∈ [c.carryOver cached], c'.IsWellNamed := by
    intro cached c' hc'
    rw [List.mem_singleton.mp hc']
    cases cached <;> exact hc
  refine leads_addChannel hs hc ht (fun cached _ _ => .single (.channels (hcarry cached)))
    (fun _ _ => .refl) fun cached g _ _ hg => ?_
  refine .trans (.single (.guildChanged g (g.addChannel (c.carryOver cached)) (ht.guild_self hg)
    rfl rfl rfl fun c' hc' => ?_)) (.single (.channels (hcarry cached)))
  rcases mem_of_mem_replaceOrAdd hc' with rfl | hc'
  · exact (hcarry cached _ List.mem_cons_self).1
  · exact ht.guild_channel hg c' hc'

theorem leads_removeChannel_moves (hs : s.Allows settings) (e : Event) {c : Channel}
    (hc : c.IsWellNamed) (ht : t.Sound) :
    (removeChannel settings c).Leads s t fun _ t' => Moves e t t' := by
  refine leads_removeChannel hs hc ht (fun _ => .refl) (fun _ _ _ => .single (.channelGone c.id))
    (fun _ _ _ _ => .refl) fun old g _ _ hg => ?_
  refine .trans (.single (.guildChanged g (g.removeChannel c.id) (ht.guild_self hg)
    rfl rfl rfl fun c' hc' => ?_)) (.single (.channelGone c.id))
  rw [Guild.channelList_removeChannel] at hc'
  exact ht.guild_channel hg c' (List.mem_of_mem_filter hc')

/-- Every event makes moves, whether it succeeds or not. -/
theorem leads_update (hs : s.Allows settings) {botId : String} {e : Event} (he : e.IsWellNamed)
    (ht : t.Sound) : (update settings botId e).Leads s t fun _ t' => Moves e t t' := by
  have hguild : ∀ {g : Guild}, g ∈ e.guilds → g.IsWellNamed →
      (addGuild settings botId g).Leads s t fun _ t' => Moves e t t' := fun hmem hg =>
    leads_addGuild hs hg fun cached hcached =>
      .single (.guild botId hmem hg fun old hold => (hold ▸ hcached).eq_some)
  cases e with
  | ready r => exact (leads_applyReady hs he).mono fun _ _ h => h.2
  | guildCreate g => exact hguild List.mem_cons_self he
  | guildUpdate g => exact hguild List.mem_cons_self he
  | guildDelete g => exact leads_removeGuild he ht fun _ _ => .single (.guildGone g.id _)
  | guildMemberAdd m => exact leads_addMember_moves hs _ he ht
  | guildMemberUpdate m => exact leads_addMember_moves hs _ he ht
  | guildMemberRemove m =>
      exact leads_removeMember hs he ht (fun _ => .refl) fun g hg =>
        .single (.memberGone m.user.id (ht.guild_self hg))
  | guildMembersChunk guildId members => exact leads_addMembers_moves hs _ he.1 he.2 ht
  | guildRoleCreate guildId r =>
      exact leads_changeGuild_moves hs _ (·.addRole r) (fun _ => rfl) (fun _ => rfl) (fun _ => rfl)
        (fun _ => rfl) he ht
  | guildRoleUpdate guildId r =>
      exact leads_changeGuild_moves hs _ (·.addRole r) (fun _ => rfl) (fun _ => rfl) (fun _ => rfl)
        (fun _ => rfl) he ht
  | guildRoleDelete guildId roleId =>
      exact leads_changeGuild_moves hs _ (·.removeRole roleId) (fun _ => rfl) (fun _ => rfl)
        (fun _ => rfl) (fun _ => rfl) he ht
  | guildEmojisUpdate guildId emojis => exact leads_addEmojis_moves hs _ he ht
  | guildBanAdd guildId u =>
      exact leads_addBan he ht (fun _ => .refl) fun _ => .single (.banned _ rfl)
  | guildBanRemove guildId u =>
      exact leads_removeBan he ht (fun _ => .refl) fun _ => .single (.banned _ rfl)
  | channelCreate c => exact leads_addChannel_moves hs _ he ht
  | channelUpdate c => exact leads_addChannel_moves hs _ he ht
  | channelDelete c => exact leads_removeChannel_moves hs _ he ht
  | channelPinsUpdate p =>
      exact leads_updatePins hs he ht (fun _ => .refl) fun c hc =>
        .single (.channelChanged c _ (by rwa [ht.channel_id hc]) rfl rfl)
  | presenceUpdate guildId p => exact leads_addPresence_moves hs _ he.1 he.2 ht
  | messageCreate m =>
      exact leads_addMessage he (fun _ => .refl) fun _ => .single (.messages m.channelId _)
  | _ => exact .pure .refl

theorem leads_apply {botId : String} {e : Event}
    {Q : Except CacheError (Option String) → Tables → Prop}
    (h : (update settings botId e).Leads s t fun r t' => Q (r.map fun _ => bansToCheck e) t') :
    (apply settings botId e).Leads s t Q := by
  refine .bind (h.mono ?_)
  rintro (_ | _) t' h
  · exact h
  · exact .pure h

end Cache

/-! ## Invariants -/

namespace World

open Tables

variable {ns : String} {s : Surroundings} {settings : CacheSettings} {allowed : Event → Prop}
variable {w : World} {I : Tables → Prop}

/-- Where an action leads, its runs end. -/
theorem Runs.leads {α : Type} {a : CacheAction α} {r : Except CacheError α} {w' : World}
    {t : Tables} {Q : Except CacheError α → Tables → Prop} (hruns : s.banRuns = true)
    (h : Runs ns (ExceptT.run a) w r w') (ha : a.Leads s t Q) (hw : w.Shows ns s t.content) :
    ∃ t', Q r t' ∧ w'.Shows ns s t'.content := by
  obtain ⟨v, ⟨t', rfl, hq⟩, hw'⟩ := h.ensures hruns ha hw
  exact ⟨t', hq, hw'⟩

/-- An invariant that moves keep holds in every world that events lead to. -/
theorem Reachable.exists_tables (hs : s.Allows settings) (hruns : s.banRuns = true)
    (hnamed : ∀ e, allowed e → e.IsWellNamed) (hstart : I {})
    (hmove : ∀ e t t', allowed e → t.Sound → I t → Move e t t' → I t')
    (h : Reachable ns settings allowed w) :
    ∃ t : Tables, t.Sound ∧ I t ∧ w.Shows ns s t.content := by
  -- A move may count on sound tables, so soundness goes along with the moves before it.
  have hmoves : ∀ e t t', allowed e → t.Sound → I t → Moves e t t' → I t' := by
    intro e t t' he ht hI hmoves
    induction hmoves with
    | refl => exact hI
    | tail hbefore hlast ih => exact hmove e _ _ he (Moves.sound hbefore ht) ih hlast
  have hevent : ∀ e botId v, allowed e → (∃ t : Tables, v = t.content ∧ t.Sound ∧ I t) →
      (ExceptT.run (Cache.apply settings botId e)).Ensures s v
        fun _ v' => ∃ t : Tables, v' = t.content ∧ t.Sound ∧ I t := by
    rintro e botId v he ⟨t, rfl, ht, hI⟩
    refine Program.Ensures.mono ?_ (Cache.leads_apply (Q := fun _ t' => Moves e t t')
      (Cache.leads_update hs (hnamed e he) ht))
    rintro _ _ ⟨t', rfl, ht'⟩
    exact ⟨t', rfl, ht'.sound ht, hmoves e t t' he ht hI ht'⟩
  obtain ⟨v, ⟨t, rfl, ht, hI⟩, hv⟩ := h.exists_view hruns
    ⟨{}, content_empty.symm, sound_empty, hstart⟩ hevent
  exact ⟨t, ht, hI, hv⟩

theorem Reachable.exists_sound (hs : s.Allows settings) (hruns : s.banRuns = true)
    (hnamed : ∀ e, allowed e → e.IsWellNamed) (h : Reachable ns settings allowed w) :
    ∃ t : Tables, t.Sound ∧ w.Shows ns s t.content := by
  obtain ⟨t, ht, -, hw⟩ := h.exists_tables (I := fun _ => True) hs hruns hnamed trivial
    fun _ _ _ _ _ _ _ => trivial
  exact ⟨t, ht, hw⟩

/-! ## A small world -/

/-- A member of the guild below. -/
def sampleMember : Member where
  guildId := "1"
  user := { id := "3" }

/-- A guild with a channel and a member. -/
def sampleGuild : Guild where
  id := "1"
  memberCount := 1
  channels := some [{ id := "2" }]
  members := some [sampleMember]

/-- The world after the guild has become known to a bot. -/
def sample : World :=
  { host := {} : World }.after "relay" {} "3" (.guildCreate sampleGuild)

theorem sample_reachable {allowed : Event → Prop} (h : allowed (.guildCreate sampleGuild)) :
    Reachable "relay" {} allowed sample :=
  (Reachable.start rfl fun _ => rfl).after "3" h

theorem sampleGuild_isWellNamed : (Event.guildCreate sampleGuild).IsWellNamed := by
  refine ⟨by decide, ?_, ?_⟩ <;> decide

end World

end GuildRelay
