import GuildRelay.Proofs.Cache.ChannelHistory
import GuildRelay.Proofs.Cache.GuildFields
import GuildRelay.Proofs.Cache.Indices
import GuildRelay.Proofs.Cache.PartialUpdates
/-!
# What outlives a guild

A guild that is deleted takes along its members, its indices and what is known of its bans. Its
channels are found through its own record: those that the record embeds are gone. So it matters
whether the record embeds them all, and `Tables.EmbedsChannels` says that it does, but for channels
that some event has left out of a list of all channels of the guild (`Event.LeavesOut`). Such an
event takes the channel out of the record of the guild, and does nothing about the record of the
channel.

The messages of a channel are dropped when the channel is deleted by itself, but not when it goes
with its guild. `World.Follows.what_outlives_guild` puts this together.
-/

namespace GuildRelay

/-- The channels that come with a guild name no other guild. -/
def Guild.OwnsChannels (g : Guild) : Prop :=
  ∀ c ∈ g.channelList, c.guildId = "" ∨ c.guildId = g.id

theorem Guild.OwnsChannels.guildId_fillIds {g : Guild} (h : g.OwnsChannels) :
    ∀ c ∈ g.fillIds.channelList, c.guildId = g.id := by
  rw [channelList_fillIds]
  refine List.forall_mem_map.mpr fun c hc => ?_
  rcases h c hc with hblank | hown
  · show unlessBlank c.guildId g.id = g.id
    rw [hblank]
    rfl
  · show unlessBlank c.guildId g.id = g.id
    rw [hown, unlessBlank_self]

/-- The event says which channels a guild has, and this one is not among them. -/
def Event.LeavesOut (guildId channelId : String) : Event → Prop
  | .ready r =>
    (∃ g ∈ r.guilds, g.id = guildId ∧ channelId ∉ g.channelList.map (·.id))
      ∨ ∃ c ∈ r.privateChannels, c.guildId = guildId ∧ c.id = channelId
  | .guildCreate g => g.id = guildId ∧ g.channels.isSome ∧ channelId ∉ g.channelList.map (·.id)
  | .guildUpdate g => g.id = guildId ∧ g.channels.isSome ∧ channelId ∉ g.channelList.map (·.id)
  | _ => False

namespace Tables

variable {t t' : Tables} {isStray : String → String → Prop}

/-- The guild is cached and its record embeds the channel. -/
def Embeds (t : Tables) (guildId channelId : String) : Prop :=
  ∃ g, t.guild guildId = some g ∧ channelId ∈ g.channelList.map (·.id)

/-- Channels that are neither private nor strays are embedded in their guilds. -/
def EmbedsChannels (isStray : String → String → Prop) (t : Tables) : Prop :=
  ∀ id c, t.channel id = some c → c.isPrivate = false → ¬isStray c.guildId id →
    t.Embeds c.guildId id

theorem embedsChannels_empty : ({} : Tables).EmbedsChannels isStray :=
  fun _ _ hc => nomatch hc

theorem EmbedsChannels.mono (ht : t.EmbedsChannels isStray) {isStray' : String → String → Prop}
    (h : ∀ g c, isStray g c → isStray' g c) : t.EmbedsChannels isStray' :=
  fun id c hc hkind hkept => ht id c hc hkind (mt (h c.guildId id) hkept)

/-! ## Guild records -/

theorem embeds_setGuild_self {g : Guild} {guildId id : String} (hid : guildId = g.id)
    (hmem : id ∈ g.channelList.map (·.id)) : (t.setGuild g).Embeds guildId id :=
  ⟨g, if_pos hid, hmem⟩

theorem Embeds.setGuild {guildId id : String} (h : t.Embeds guildId id) {g : Guild}
    (hmem : ∀ old, guildId = g.id → t.guild g.id = some old → id ∈ old.channelList.map (·.id) →
      id ∈ g.channelList.map (·.id)) : (t.setGuild g).Embeds guildId id := by
  obtain ⟨old, hold, hin⟩ := h
  by_cases hid : guildId = g.id
  · exact embeds_setGuild_self hid (hmem old hid (hid ▸ hold) hin)
  · exact ⟨old, (if_neg hid).trans hold, hin⟩

/-- Nothing is written to channels, and the lists of channels stay as they are. -/
theorem EmbedsChannels.of_sameField (ht : t.EmbedsChannels isStray)
    (hchannel : t'.channel = t.channel) (hguild : t.SameField (·.channelList) t') :
    t'.EmbedsChannels isStray := by
  intro id c hc hkind hkept
  rw [hchannel] at hc
  obtain ⟨g, hg, hmem⟩ := ht id c hc hkind hkept
  have hfield := hguild c.guildId
  rw [hg] at hfield
  obtain ⟨g', hg', hlist⟩ := Option.map_eq_some_iff.mp hfield
  exact ⟨g', hg', hlist ▸ hmem⟩

/-- A payload embeds the channels that it brings. What it does not bring is a stray, or else it
brings no list and takes over that of the cached guild. -/
theorem EmbedsChannels.takeGuild (ht : t.EmbedsChannels isStray) (botId : String) {payload : Guild}
    {cached : Option Guild} (howns : payload.OwnsChannels)
    (hstray : ∀ id, id ∉ payload.channelList.map (·.id) → isStray payload.id id
      ∨ payload.channels = none ∧ cached = t.guild payload.id) :
    (t.takeGuild botId payload cached).EmbedsChannels isStray := by
  intro id c hc hkind hkept
  have hc : (t.setChannels payload.fillIds.channelList).channel id = some c := hc
  show (t.setGuild (payload.fillIds.carryOver cached)).Embeds c.guildId id
  have hself : (payload.fillIds.carryOver cached).id = payload.id := Guild.carryOver_id _ _
  have hbrings : id ∈ payload.channelList.map (·.id) →
      id ∈ (payload.fillIds.carryOver cached).channelList.map (·.id) := by
    intro hmem
    rw [← Guild.map_id_channelList_fillIds] at hmem
    rcases Guild.channelList_carryOver_eq payload.fillIds cached with hlist | ⟨hnil, -⟩
    · rwa [hlist]
    · rw [hnil] at hmem
      exact absurd hmem List.not_mem_nil
  rcases channel_setChannels hc with ⟨hmem, rfl⟩ | hold
  · have hown := howns.guildId_fillIds c hmem
    refine embeds_setGuild_self (hown.trans hself.symm) (hbrings ?_)
    rw [← Guild.map_id_channelList_fillIds]
    exact List.mem_map_of_mem hmem
  · refine (ht id c hold hkind hkept).setGuild fun old hown hold hmem => ?_
    rw [hself] at hown hold
    by_cases hlisted : id ∈ payload.channelList.map (·.id)
    · exact hbrings hlisted
    · rcases hstray id hlisted with hout | ⟨hnone, rfl⟩
      · exact absurd (hown ▸ hout) hkept
      · have hlist : (payload.fillIds.carryOver (t.guild payload.id)).channelList
            = old.channelList := by
          rw [hold]
          simp [Guild.carryOver, Guild.channelList, Guild.fillIds, hnone]
        rwa [hlist]

theorem EmbedsChannels.takeReady (ht : t.EmbedsChannels isStray) (botId : String) {r : Ready}
    (howns : ∀ g ∈ r.guilds, g.OwnsChannels)
    (hstray : ∀ g id, (Event.ready r).LeavesOut g id → isStray g id) :
    (t.takeReady botId r).EmbedsChannels isStray := by
  have hguilds : (r.guilds.foldl (fun t g => t.takeGuild botId g none)
      (t.setUser r.user)).EmbedsChannels isStray := by
    refine List.foldlRecOn r.guilds _
      (motive := fun t' : Tables => t'.EmbedsChannels isStray) ht fun t' ht' g hg => ?_
    exact ht'.takeGuild botId (howns g hg) fun id hid => .inl (hstray _ _ (.inl ⟨g, hg, rfl, hid⟩))
  intro id c hc hkind hkept
  rcases channel_setChannels hc with ⟨hc, hid⟩ | hc
  · exact absurd (hstray _ _ (.inr ⟨c, hc, rfl, hid⟩)) hkept
  · exact hguilds id c hc hkind hkept

/-- The channels that go with a guild are all that are neither private nor strays. -/
theorem EmbedsChannels.mem_channels (ht : t.EmbedsChannels isStray) {payload : Guild} {id : String}
    {c : Channel} (hc : t.channel id = some c) (hown : c.guildId = payload.id)
    (hkind : c.isPrivate = false) (hkept : ¬isStray payload.id id) :
    id ∈ ((t.guild payload.id).getD payload).channelList.map (·.id) := by
  obtain ⟨g, hg, hmem⟩ := ht id c hc hkind (hown ▸ hkept)
  rw [hown] at hg
  rwa [hg]

theorem EmbedsChannels.removeGuild (ht : t.EmbedsChannels isStray) (payload : Guild) :
    (t.removeGuild payload.id
      (((t.guild payload.id).getD payload).channelList.map (·.id))).EmbedsChannels isStray := by
  intro id c hc hkind hkept
  obtain ⟨hnot, hc⟩ := Option.ite_none_left_eq_some.mp hc
  obtain ⟨g, hg, hmem⟩ := ht id c hc hkind hkept
  have hother : c.guildId ≠ payload.id := fun hown =>
    hnot (ht.mem_channels hc hown hkind (hown ▸ hkept))
  exact ⟨g, (if_neg hother).trans hg, hmem⟩

/-! ## Channel records -/

theorem mem_addChannel {g : Guild} {c : Channel} {id : String} :
    id ∈ (g.addChannel c).channelList.map (·.id) ↔ id = c.id ∨ id ∈ g.channelList.map (·.id) := by
  show id ∈ (replaceOrAdd (fun old => old.id == c.id) c g.channelList).map (·.id) ↔ _
  rw [map_replaceOrAdd]
  split
  · next hmem =>
    refine ⟨.inr, ?_⟩
    rintro (rfl | h)
    · exact hmem
    · exact h
  · rw [List.mem_append, List.mem_singleton, or_comm]

theorem EmbedsChannels.takeChannel (ht : t.EmbedsChannels isStray) (hsound : t.Sound)
    (payload : Channel) : (t.takeChannel payload).EmbedsChannels isStray := by
  have hkinds := payload.carryOver_isPrivate (t.channel payload.id)
  have hguilds := payload.carryOver_guildId (t.channel payload.id)
  unfold Tables.takeChannel
  generalize payload.carryOver (t.channel payload.id) = new at *
  dsimp only
  split
  · next hprivate =>
    intro id c hc hkind hkept
    rcases channel_setChannels hc with ⟨hc, -⟩ | hc
    · rw [List.mem_singleton.mp hc, hkinds, hprivate] at hkind
      cases hkind
    · exact ht id c hc hkind hkept
  · split
    · next g hg =>
      intro id c hc hkind hkept
      show (t.setGuild (g.addChannel new)).Embeds c.guildId id
      rcases channel_setChannels hc with ⟨hnew, rfl⟩ | hc
      · rw [List.mem_singleton.mp hnew, hguilds, ← hsound.guild_id hg]
        exact embeds_setGuild_self rfl (mem_addChannel.mpr (.inl rfl))
      · refine (ht id c hc hkind hkept).setGuild fun old _ hold hmem => mem_addChannel.mpr (.inr ?_)
        cases (hsound.guild_self hg).symm.trans hold
        exact hmem
    · exact ht

theorem EmbedsChannels.loseChannel (ht : t.EmbedsChannels isStray) (hsound : t.Sound)
    (channelId : String) : (t.loseChannel channelId).EmbedsChannels isStray := by
  have hgone : ∀ {t' : Tables}, t'.channel = t.channel →
      (∀ id g, id ≠ channelId → t.Embeds g id → t'.Embeds g id) →
      (t'.removeChannel channelId).EmbedsChannels isStray := by
    intro t' hchannel hkeeps id c hc hkind hkept
    obtain ⟨hid, hc⟩ := Option.ite_none_left_eq_some.mp hc
    exact hkeeps id c.guildId hid (ht id c (hchannel ▸ hc) hkind hkept)
  unfold Tables.loseChannel
  split
  · split
    · exact hgone rfl fun _ _ _ h => h
    · split
      · next g hg =>
        refine hgone rfl fun id guildId hid h => h.setGuild fun old _ hold hmem => ?_
        cases (hsound.guild_self hg).symm.trans hold
        rw [Guild.channelList_removeChannel]
        obtain ⟨c, hc, rfl⟩ := List.mem_map.mp hmem
        exact List.mem_map_of_mem (List.mem_filter.mpr ⟨hc, bne_iff_ne.mpr hid⟩)
      · exact ht
  · exact ht

theorem EmbedsChannels.takePins (ht : t.EmbedsChannels isStray) (hsound : t.Sound)
    (p : ChannelPins) : (t.takePins p).EmbedsChannels isStray := by
  unfold Tables.takePins
  split
  · next old hold =>
    intro id c hc hkind hkept
    rcases channel_setChannel hc with ⟨rfl, rfl⟩ | hc
    · rw [← hsound.channel_id hold] at hold
      exact ht old.id old hold hkind hkept
    · exact ht id c hc hkind hkept
  · exact ht

/-! ## Events -/

theorem EmbedsChannels.updated (ht : t.EmbedsChannels isStray) (hsound : t.Sound)
    (settings : CacheSettings) (botId : String) {e : Event} (he : e.IsWellNamed)
    (howns : ∀ g ∈ e.guilds, g.OwnsChannels) (hstray : ∀ g id, e.LeavesOut g id → isStray g id) :
    (t.updated settings botId e).EmbedsChannels isStray := by
  have hspared : e.Spares (·.channelList) →
      (t.updated settings botId e).channel = t.channel →
      (t.updated settings botId e).EmbedsChannels isStray := fun hspares hchannel =>
    ht.of_sameField hchannel (sameField_updated hsound settings botId he hspares)
  cases e with
  | ready r => exact ht.takeReady botId howns hstray
  | guildCreate g | guildUpdate g =>
      refine ht.takeGuild botId (howns g List.mem_cons_self) fun id hid => ?_
      cases hlist : g.channels with
      | none => exact .inr ⟨rfl, rfl⟩
      | some cs => exact .inl (hstray g.id id ⟨rfl, Option.isSome_of_eq_some hlist, hid⟩)
  | guildDelete g => exact ht.removeGuild g
  | guildMemberAdd m | guildMemberUpdate m => exact hspared (fun _ _ => rfl) (channel_takeMember m)
  | guildMemberRemove m =>
      refine hspared (fun _ => rfl) ?_
      simp only [Tables.updated]
      split
      · exact channel_removeMember _ _
      · rfl
  | guildMembersChunk guildId members =>
      exact hspared (fun _ _ => rfl) (foldl_keeps (fun t : Tables => t.channel)
        (fun _ _ => channel_takeMember _) members t)
  | guildRoleCreate guildId r | guildRoleUpdate guildId r =>
      exact hspared (fun _ => rfl) (channel_changeGuild _ _)
  | guildRoleDelete guildId r => exact hspared (fun _ => rfl) (channel_changeGuild _ _)
  | guildEmojisUpdate guildId emojis =>
      exact hspared (fun _ _ _ => rfl) (foldl_keeps (fun t : Tables => t.channel)
        (fun _ _ => channel_changeGuild _ _) emojis t)
  | guildBanAdd | guildBanRemove | messageCreate =>
      refine hspared trivial ?_
      simp only [Tables.updated]
      split <;> rfl
  | channelCreate c | channelUpdate c => exact ht.takeChannel hsound c
  | channelDelete c => exact ht.loseChannel hsound c.id
  | channelPinsUpdate p => exact ht.takePins hsound p
  | presenceUpdate guildId p =>
      exact hspared ⟨fun _ => rfl, fun _ _ => rfl⟩ (channel_takePresence guildId p)
  | _ => exact ht

end Tables

/-- Nothing is left of the guild itself, of its members and of what was known of its bans. -/
structure Host.Forgets (h : Host) (ns guildId : String) : Prop where
  guild : h.value ns (.guild guildId) = none
  member : ∀ userId, h.value ns (.member guildId userId) = none
  indexed : guildId ∉ h.members ns .allGuildIds
  users : h.members ns (.guildUserIds guildId) = []
  bots : h.members ns (.guildBotIds guildId) = []
  banned : h.members ns (.guildBannedUserIds guildId) = []
  initialized : guildId ∉ h.members ns .banInitializedGuildIds

open Tables

theorem Host.Shows.forgets {ns : String} {s : Surroundings} {h : Host} {t : Tables}
    {guildId : String} {channelIds : List String} (ht : t.Indexed) (hf : s.fading = false)
    (hbans : s.banRuns = false) (hg : PlainId guildId)
    (hw : h.Shows ns s (t.removeGuild guildId channelIds).content) : h.Forgets ns guildId := by
  have hshares : ∀ k, s.shares k = false := fun k => by
    rw [Surroundings.shares, hbans, Bool.false_and]
  have hgone := ht.removeGuild guildId channelIds
  have hnoUsers : (t.removeGuild guildId channelIds).guildUserIds guildId = [] := if_pos rfl
  refine ⟨?_, fun userId => ?_, ?_, ?_, ?_, ?_, ?_⟩
  · exact (hw.value_eq_none_iff (Slot.guild guildId) hg hf).mpr (if_pos rfl)
  · refine (hw.value_eq_none_iff (Slot.member guildId userId) hg hf).mpr ?_
    rw [← Option.not_isSome_iff_eq_none]
    intro hmember
    have hindexed := (hgone.member guildId userId).mp hmember
    rw [hnoUsers] at hindexed
    exact List.not_mem_nil hindexed
  · rw [hw.allGuildIds]
    simp [removeGuild]
  · exact (hw.members_index (Index.guildUsers guildId) hg (hshares _)).trans hnoUsers
  · exact (hw.members_index (Index.guildBots guildId) hg (hshares _)).trans (if_pos rfl)
  · exact (hw.members_index (Index.guildBanned guildId) hg (hshares _)).trans (if_pos rfl)
  · have hmembers : h.members ns .banInitializedGuildIds
        = (t.removeGuild guildId channelIds).banInitializedGuildIds :=
      hw.members_index Index.banInitialized trivial (hshares _)
    rw [hmembers]
    simp [removeGuild]

namespace World

variable {ns : String} {settings : CacheSettings} {log : List Applied} {w : World}

/-- Some event has left the channel out of a list of all channels of the guild. -/
def IsLeftOut (log : List Applied) (guildId channelId : String) : Prop :=
  ∃ a ∈ log, a.event.LeavesOut guildId channelId

/-- Guilds embed their channels, but for private ones and for those that were left out. As long as
nobody else writes, what is known of bans is known for certain. -/
theorem Follows.exists_embedding
    (h : Follows ns settings (fun e => e.IsWellNamed ∧ ∀ g ∈ e.guilds, g.OwnsChannels) log w)
    (hexpiry : settings.expiry = none) :
    ∃ t : Tables, t.Sound ∧ t.Indexed ∧ t.EmbedsChannels (IsLeftOut log)
      ∧ w.host.Shows ns settings.surroundings.quiet t.content := by
  have hs := settings.surroundings_allows
  have hevent : ∀ e botId log t, e.IsWellNamed ∧ (∀ g ∈ e.guilds, g.OwnsChannels) → t.Sound →
      t.Indexed ∧ t.EmbedsChannels (IsLeftOut log) →
      (Cache.apply settings botId e).Leads settings.surroundings t fun result t' =>
        t'.Indexed ∧ t'.EmbedsChannels (IsLeftOut (⟨e, result⟩ :: log)) := by
    intro e botId log t ⟨he, howns⟩ ht ⟨hindexed, hembeds⟩
    refine Cache.leads_apply (((Cache.leads_update hs he ht).and (Cache.leads_update_updated
      (CacheSettings.not_fading hexpiry) hs he ht)).mono ?_)
    rintro _ _ ⟨hmoved, rfl⟩
    refine ⟨hmoved.indexed hindexed, EmbedsChannels.updated ?_ ht settings botId he howns ?_⟩
    · exact hembeds.mono fun _ _ ⟨a, ha, hout⟩ => ⟨a, List.mem_cons_of_mem _ ha, hout⟩
    · exact fun _ _ hout => ⟨_, List.mem_cons_self, hout⟩
  obtain ⟨t, ht, ⟨hindexed, hembeds⟩, hw⟩ := h.exists_tables
    (I := fun log t => t.Indexed ∧ t.EmbedsChannels (IsLeftOut log)) hs rfl (fun _ he => he.1)
    ⟨indexed_empty, embedsChannels_empty⟩ hevent
  exact ⟨t.withBansOf ns w.host, { ht with }, { hindexed with }, hembeds, hw.host.withBansOf⟩

/-- Where nothing expires, the end of a guild leaves nothing of it but private channels, channels
that were left out of a list before, and all messages. The channels that it leaves it does not
touch. -/
theorem Follows.what_outlives_guild
    (h : Follows ns settings (fun e => e.IsWellNamed ∧ ∀ g ∈ e.guilds, g.OwnsChannels) log w)
    (hexpiry : settings.expiry = none) (botId : String) {payload : Guild}
    (hp : payload.IsWellNamed) :
    let w' := w.after ns settings botId (.guildDelete payload)
    w.result ns settings botId (.guildDelete payload) = .ok none
    ∧ w'.host.Forgets ns payload.id
    ∧ (∀ channelId (c : Channel), PlainId channelId →
      w.host.record ns (.channel channelId) = some c → c.guildId = payload.id →
      c.isPrivate = false → ¬IsLeftOut log payload.id channelId →
      w'.host.value ns (.channel channelId) = none
        ∧ channelId ∉ w'.host.members ns .allChannelIds)
    ∧ (∀ channelId (c : Channel), PlainId channelId →
      w'.host.record ns (.channel channelId) = some c → c.guildId = payload.id →
      w.host.record ns (.channel channelId) = some c
        ∧ (c.isPrivate = true ∨ IsLeftOut log payload.id channelId))
    ∧ ∀ channelId, PlainId channelId →
      w'.answer ns (.channelMessages channelId) = w.answer ns (.channelMessages channelId) := by
  intro w'
  obtain ⟨t, ht, hindexed, hembeds, hw⟩ := h.exists_embedding hexpiry
  have hf : settings.surroundings.quiet.fading = false := CacheSettings.not_fading hexpiry
  generalize hids : ((t.guild payload.id).getD payload).channelList.map (·.id) = channelIds
  have hleads : (Cache.apply settings botId (.guildDelete payload)).Leads
      settings.surroundings.quiet t
      fun r t' => r = .ok none ∧ t' = t.removeGuild payload.id channelIds := by
    refine Cache.leads_apply (Cache.leads_removeGuild hp ht fun cached hcached => ⟨rfl, ?_⟩)
    rw [hcached.eq hf, hids]
  obtain ⟨_, ⟨t', rfl, hresult, rfl⟩, hw'⟩ := Program.Ensures.run hleads hw
  replace hw' : w'.host.Shows ns settings.surroundings.quiet
    (t.removeGuild payload.id channelIds).content := hw'
  refine ⟨hresult, hw'.forgets hindexed hf rfl hp.1, ?_, ?_, ?_⟩
  · intro channelId c hid hc hown hkind hkept
    have hc : t.channel channelId = some c :=
      (hw.record_eq (Slot.channel channelId) hid hf).symm.trans hc
    have hgone := hembeds.mem_channels hc hown hkind hkept
    rw [hids] at hgone
    refine ⟨(hw'.value_eq_none_iff (Slot.channel channelId) hid hf).mpr (if_pos hgone), ?_⟩
    rw [hw'.allChannelIds]
    simp [removeGuild, hgone]
  · intro channelId c hid hc hown
    have hc : (t.removeGuild payload.id channelIds).channel channelId = some c :=
      (hw'.record_eq (Slot.channel channelId) hid hf).symm.trans hc
    obtain ⟨hnot, hc⟩ := Option.ite_none_left_eq_some.mp hc
    refine ⟨(hw.record_eq (Slot.channel channelId) hid hf).trans hc, ?_⟩
    by_contra hneither
    obtain ⟨hkind, hkept⟩ := not_or.mp hneither
    exact hnot (hids ▸ hembeds.mem_channels hc hown ((Bool.not_eq_true _).mp hkind) hkept)
  · intro channelId hc
    rw [answer_channelMessages hw' hc, answer_channelMessages hw hc]
    rfl

/-- The small world with a message in its channel, where messages are retained. -/
def sampleTalk : World :=
  (({ host := {} } : World).after "relay" { maxChannelMessages := 2 } "3"
    (.guildCreate sampleGuild)).after "relay" { maxChannelMessages := 2 } "3"
    (.messageCreate (sampleMessage "ahoy"))

/-- The tables of that world. -/
def sampleTalkTables : Tables :=
  (({} : Tables).updated { maxChannelMessages := 2 } "3" (.guildCreate sampleGuild)).updated
    { maxChannelMessages := 2 } "3" (.messageCreate (sampleMessage "ahoy"))

theorem sampleTalk_keepsTables :
    sampleTalk.KeepsTables "relay" { maxChannelMessages := 2 } sampleTalkTables := by
  have hnamed : (Event.messageCreate (sampleMessage "ahoy")).IsWellNamed :=
    show PlainId "2" by decide
  exact ((KeepsTables.start rfl fun _ => rfl).after rfl "3" sampleGuild_isWellNamed).after rfl "3"
    hnamed

/-- The message is still there when guild, member and channel are gone. -/
theorem sampleTalk_outlives_guild :
    let w' := sampleTalk.after "relay" { maxChannelMessages := 2 } "3" (.guildDelete { id := "1" })
    w'.host.Forgets "relay" "1"
    ∧ w'.host.value "relay" (.channel "2") = none
    ∧ w'.answer "relay" (.channelMessages "2") = .ok [sampleMessage "ahoy"] := by
  intro w'
  have hguild : (Event.guildCreate sampleGuild).IsWellNamed ∧
      ∀ g ∈ (Event.guildCreate sampleGuild).guilds, g.OwnsChannels :=
    ⟨sampleGuild_isWellNamed, List.forall_mem_singleton.mpr
      (List.forall_mem_singleton.mpr (.inl rfl))⟩
  have hmessage : (Event.messageCreate (sampleMessage "ahoy")).IsWellNamed ∧
      ∀ g ∈ (Event.messageCreate (sampleMessage "ahoy")).guilds, g.OwnsChannels :=
    ⟨show PlainId "2" by decide, fun _ hg => nomatch hg⟩
  have hstart : Follows "relay" { maxChannelMessages := 2 }
      (fun e => e.IsWellNamed ∧ ∀ g ∈ e.guilds, g.OwnsChannels) [] { host := {} } :=
    .start rfl fun _ => rfl
  have hkeeps := sampleTalk_keepsTables
  have hplain : PlainId "2" := by decide
  have hmessages : sampleTalk.answer "relay" (.channelMessages "2")
      = .ok [sampleMessage "ahoy"] :=
    answer_channelMessages hkeeps.shows hplain
  have hrecord : sampleTalk.host.record "relay" (.channel "2")
      = some { id := "2", guildId := "1" : Channel } :=
    (hkeeps.record rfl (Slot.channel "2") hplain).trans (by decide +kernel)
  have hpayload : ({ id := "1" } : Guild).IsWellNamed := ⟨by decide, by decide, by decide⟩
  obtain ⟨-, hforgets, hgone, -, hsame⟩ :=
    ((hstart.after "3" hguild).after "3" hmessage).what_outlives_guild rfl "3" hpayload
  refine ⟨hforgets, (hgone "2" _ hplain hrecord rfl rfl fun hout => ?_).1,
    (hsame "2" hplain).trans hmessages⟩
  -- The guild came with the channel in its list, and the message is no list.
  obtain ⟨_, ha, hout⟩ := hout
  rcases List.mem_cons.mp ha with rfl | ha
  · exact hout
  · obtain rfl := List.mem_singleton.mp ha
    exact hout.2.2 (by decide)

end World

end GuildRelay
