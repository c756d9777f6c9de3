import GuildRelay.Proofs.Cache.PartialUpdates
/-!
# Two copies of each channel

A guild record embeds its channels, and each channel has a record of its own beside it. Snapshots,
guild payloads and events about one channel write both copies. Pins are written to the record alone:
after a pin update the guild still has the time of the pin before. `Tables.ChannelsAgree` says that
this is the only difference, and that there is none for channels without pin updates.

Two copies can only agree if it is clear which guild embeds a channel. `Event.PlacesChannels` asks
that of events: every channel has one guild, in whatever event it appears, or none if it is private.

Most events write no channel at all. They, and those that drop channels, leave records and embedded
lists that were there before (`Tables.Shrinks`), and an agreement survives that.
-/

namespace GuildRelay

/-- The channels in the event belong where `home` says, to a guild or as private channels to none.
No guild lists a channel twice. -/
structure Event.PlacesChannels (home : String → Option String) (e : Event) : Prop where
  named : e.IsWellNamed
  distinct : ∀ g ∈ e.guilds, (g.channelList.map (·.id)).Nodup
  embedded : ∀ g ∈ e.guilds, ∀ c ∈ g.channelList, home c.id = some g.id
  alone : ∀ c ∈ e.privateChannels, home c.id = none
  own : ∀ c, e.ownChannel = some c → home c.id = if c.isPrivate then none else some c.guildId

/-- The record of a channel is the embedded copy, but for pins if there were any. -/
def Channel.AgreesWith (pinned : String → Prop) (c c' : Channel) : Prop :=
  c' = { c with lastPinTimestamp := c'.lastPinTimestamp } ∧ (¬pinned c.id → c' = c)

theorem Channel.agreesWith_self (pinned : String → Prop) (c : Channel) : c.AgreesWith pinned c :=
  ⟨rfl, fun _ => rfl⟩

namespace Tables

variable {t t' t'' : Tables} {home : String → Option String} {pinned : String → Prop}

/-- The embedded channels are distinct and belong to their guild, and the live records of them are
the same. -/
structure ChannelsAgree (home : String → Option String) (pinned : String → Prop) (t : Tables) :
    Prop where
  distinct : ∀ {g r}, t.guild g = some r → (r.channelList.map (·.id)).Nodup
  embedded : ∀ {g r}, t.guild g = some r → ∀ c ∈ r.channelList, home c.id = some g
  same : ∀ {g r}, t.guild g = some r → ∀ c ∈ r.channelList, ∀ c', t.channel c.id = some c' →
    c.AgreesWith pinned c'

theorem channelsAgree_empty : ({} : Tables).ChannelsAgree home pinned := by
  constructor <;> intros <;> contradiction

/-! ## Nothing new -/

/-- All channels were there before, as records and in the guilds. -/
structure Shrinks (t t' : Tables) : Prop where
  channel : ∀ {id c}, t'.channel id = some c → t.channel id = some c
  guild : ∀ {g r'}, t'.guild g = some r' →
    ∃ r, t.guild g = some r ∧ r'.channelList.Sublist r.channelList

theorem Shrinks.refl (t : Tables) : t.Shrinks t :=
  ⟨id, fun {_ r'} h => ⟨r', h, .refl _⟩⟩

theorem Shrinks.trans (h : t.Shrinks t') (h' : t'.Shrinks t'') : t.Shrinks t'' where
  channel hc := h.channel (h'.channel hc)
  guild hg := by
    obtain ⟨r', hr', hsub'⟩ := h'.guild hg
    obtain ⟨r, hr, hsub⟩ := h.guild hr'
    exact ⟨r, hr, hsub'.trans hsub⟩

theorem ChannelsAgree.of_shrinks (ht : t.ChannelsAgree home pinned) (h : t.Shrinks t') :
    t'.ChannelsAgree home pinned where
  distinct hg := by
    obtain ⟨r, hr, hsub⟩ := h.guild hg
    exact (ht.distinct hr).sublist (hsub.map _)
  embedded hg c hc := by
    obtain ⟨r, hr, hsub⟩ := h.guild hg
    exact ht.embedded hr c (hsub.subset hc)
  same hg c hc c' hc' := by
    obtain ⟨r, hr, hsub⟩ := h.guild hg
    exact ht.same hr c (hsub.subset hc) c' (h.channel hc')

/-- A guild is written back with channels that it had. -/
theorem shrinks_setGuild (ht : t.Sound) {guildId : String} {g : Guild}
    (hg : t.guild guildId = some g) (g' : Guild) (hid : g'.id = g.id)
    (hsub : g'.channelList.Sublist g.channelList) : t.Shrinks (t.setGuild g') where
  channel h := h
  guild h := by
    rcases guild_setGuild h with ⟨rfl, rfl⟩ | ⟨-, h⟩
    · exact ⟨g, by rw [hid]; exact ht.guild_self hg, hsub⟩
    · exact ⟨_, h, .refl _⟩

theorem shrinks_changeGuild (ht : t.Sound) (guildId : String) {change : Guild → Guild}
    (hid : ∀ g, (change g).id = g.id) (hchannels : ∀ g, (change g).channels = g.channels) :
    t.Shrinks (t.changeGuild guildId change) := by
  unfold changeGuild
  split
  · next g hg =>
    refine shrinks_setGuild ht hg (change g) (hid g) ?_
    unfold Guild.channelList
    rw [hchannels]
  · exact .refl t

theorem shrinks_takeMember (ht : t.Sound) (m : Member) : t.Shrinks (t.takeMember m) := by
  unfold takeMember
  split
  · next g hg =>
    have hset := shrinks_setGuild ht hg
      (g.addMember (m.carryOver (t.member m.guildId m.user.id))) rfl (.refl _)
    exact ⟨hset.channel, hset.guild⟩
  · exact .refl t

theorem shrinks_takePresence (ht : t.Sound) (guildId : String) (p : Presence) :
    t.Shrinks (t.takePresence guildId p) := by
  unfold takePresence
  split
  · next g hg =>
    have hset := shrinks_setGuild ht hg (g.addPresence p) rfl (.refl _)
    have hsound := ht.setPresence hg p
    split
    · exact hset
    · exact hset.trans (shrinks_takeMember hsound _)
  · exact .refl t

theorem shrinks_removeMember (ht : t.Sound) {guildId : String} {g : Guild}
    (hg : t.guild guildId = some g) (userId : String) : t.Shrinks (t.removeMember g userId) := by
  have hset := shrinks_setGuild ht hg (g.removeMember userId) rfl (.refl _)
  unfold removeMember
  split <;> exact ⟨hset.channel, hset.guild⟩

theorem shrinks_loseChannel (ht : t.Sound) (channelId : String) :
    t.Shrinks (t.loseChannel channelId) := by
  have hrecord : ∀ t' : Tables, t'.Shrinks (t'.removeChannel channelId) := fun t' =>
    ⟨fun h => (Option.ite_none_left_eq_some.mp h).2, fun {_ r} h => ⟨r, h, .refl _⟩⟩
  unfold loseChannel
  split
  · split
    · exact hrecord t
    · split
      · next g hg =>
        have hsub : (g.removeChannel channelId).channelList.Sublist g.channelList := by
          rw [Guild.channelList_removeChannel]
          exact List.filter_sublist
        have hset := shrinks_setGuild ht hg (g.removeChannel channelId) rfl hsub
        exact hset.trans (hrecord _)
      · exact .refl t
  · exact .refl t

/-! ## New copies -/

theorem channel_setChannels_of_mem {cs : List Channel} (hnodup : (cs.map (·.id)).Nodup)
    {c : Channel} (hc : c ∈ cs) : (t.setChannels cs).channel c.id = some c := by
  simp only [setChannels]
  rw [lastWith_of_nodup hnodup hc, Option.some_or]

theorem channel_setChannels_of_not_mem {cs : List Channel} {id : String}
    (hid : id ∉ cs.map (·.id)) : (t.setChannels cs).channel id = t.channel id := by
  simp only [setChannels]
  rw [lastWith_eq_none_iff.mpr hid, Option.none_or]

/-- Channels of one guild, or of none, are not embedded in another. -/
theorem ChannelsAgree.not_mem_of_home (ht : t.ChannelsAgree home pinned) {g : String} {r : Guild}
    (hg : t.guild g = some r) {c : Channel} (hc : c ∈ r.channelList) {cs : List Channel}
    (hhome : ∀ new ∈ cs, home new.id ≠ some g) : c.id ∉ cs.map (·.id) := by
  intro hid
  obtain ⟨new, hnew, hid⟩ := List.mem_map.mp hid
  exact hhome new hnew (hid ▸ ht.embedded hg c hc)

theorem ChannelsAgree.takeGuild (ht : t.ChannelsAgree home pinned) (botId : String)
    {payload : Guild} {cached : Option Guild}
    (hdistinct : (payload.channelList.map (·.id)).Nodup)
    (hhome : ∀ c ∈ payload.channelList, home c.id = some payload.id)
    (hcached : ∀ old, cached = some old → t.guild payload.id = some old) :
    (t.takeGuild botId payload cached).ChannelsAgree home pinned := by
  have hfilled : ∀ c ∈ payload.fillIds.channelList, home c.id = some payload.id := by
    rw [Guild.channelList_fillIds]
    exact List.forall_mem_map.mpr hhome
  rw [← Guild.map_id_channelList_fillIds] at hdistinct
  have hlist := Guild.channelList_carryOver_eq payload.fillIds cached
  refine ⟨fun {g r} hg => ?_, fun {g r} hg c hc => ?_, fun {g r} hg c hc c' hc' => ?_⟩
  · rcases guild_setGuild hg with ⟨-, rfl⟩ | ⟨-, hg⟩
    · rcases hlist with hlist | ⟨-, old, hold, hlist⟩
      · rw [hlist]
        exact hdistinct
      · rw [hlist]
        exact ht.distinct (hcached old hold)
    · exact ht.distinct hg
  · rcases guild_setGuild hg with ⟨hid, rfl⟩ | ⟨-, hg⟩
    · rw [Guild.carryOver_id] at hid
      subst hid
      rcases hlist with hlist | ⟨-, old, hold, hlist⟩
      · exact hfilled c (hlist ▸ hc)
      · exact ht.embedded (hcached old hold) c (hlist ▸ hc)
    · exact ht.embedded hg c hc
  · have hc' : (t.setChannels payload.fillIds.channelList).channel c.id = some c' := hc'
    rcases guild_setGuild hg with ⟨hid, rfl⟩ | ⟨hid, hg⟩
    · rcases hlist with hlist | ⟨hnil, old, hold, hlist⟩
      · rw [hlist] at hc
        cases (channel_setChannels_of_mem hdistinct hc).symm.trans hc'
        exact c.agreesWith_self pinned
      · rw [hnil, channel_setChannels_of_not_mem List.not_mem_nil] at hc'
        exact ht.same (hcached old hold) c (hlist ▸ hc) c' hc'
    · rw [Guild.carryOver_id] at hid
      rw [channel_setChannels_of_not_mem (ht.not_mem_of_home hg hc fun new hnew heq =>
        hid (Option.some.inj ((hfilled new hnew).symm.trans heq)).symm)] at hc'
      exact ht.same hg c hc c' hc'

theorem ChannelsAgree.takePrivate (ht : t.ChannelsAgree home pinned) {cs : List Channel}
    (hhome : ∀ c ∈ cs, home c.id = none) : (t.putChannels cs).ChannelsAgree home pinned where
  distinct hg := ht.distinct hg
  embedded hg := ht.embedded hg
  same {g r} hg c hc c' hc' := by
    have hother : ∀ new ∈ cs, home new.id ≠ some g := fun new hnew h =>
      nomatch (hhome new hnew).symm.trans h
    have hc' : (t.setChannels cs).channel c.id = some c' := hc'
    rw [channel_setChannels_of_not_mem (ht.not_mem_of_home hg hc hother)] at hc'
    exact ht.same hg c hc c' hc'

theorem ChannelsAgree.takeReady (ht : t.ChannelsAgree home pinned) (botId : String) {r : Ready}
    (hr : (Event.ready r).PlacesChannels home) :
    (t.takeReady botId r).ChannelsAgree home pinned := by
  refine ChannelsAgree.takePrivate (List.foldlRecOn r.guilds _
    (motive := fun t : Tables => t.ChannelsAgree home pinned) ?_ fun t ht g hg => ?_) hr.alone
  · exact ⟨ht.distinct, ht.embedded, ht.same⟩
  · exact ht.takeGuild botId (hr.distinct g hg) (hr.embedded g hg) fun _ h => nomatch h

theorem ChannelsAgree.takeChannel (ht : t.ChannelsAgree home pinned) (hsound : t.Sound)
    {payload : Channel}
    (hhome : home payload.id = if payload.isPrivate then none else some payload.guildId) :
    (t.takeChannel payload).ChannelsAgree home pinned := by
  unfold Tables.takeChannel
  generalize hnew : payload.carryOver (t.channel payload.id) = new
  have hid : new.id = payload.id := by rw [← hnew, Channel.carryOver_id]
  dsimp only
  split
  · next hkind =>
    refine ht.takePrivate (List.forall_mem_singleton.mpr ?_)
    rw [hid, hhome, if_pos hkind]
  · next hkind =>
    rw [if_neg hkind] at hhome
    split
    · next guild hguild =>
      have hown : home new.id = some guild.id := by
        rw [hid, hhome, hsound.guild_id hguild]
      have hself := hsound.guild_self hguild
      have hone : ([new].map (·.id)).Nodup := List.nodup_singleton _
      refine ⟨fun {g r} hg => ?_, fun {g r} hg c hc => ?_, fun {g r} hg c hc c' hc' => ?_⟩
      · rcases guild_setGuild hg with ⟨-, rfl⟩ | ⟨-, hg⟩
        · exact nodup_replaceOrAdd (ht.distinct hself)
        · exact ht.distinct hg
      · rcases guild_setGuild hg with ⟨rfl, rfl⟩ | ⟨-, hg⟩
        · rcases mem_of_mem_replaceOrAdd hc with rfl | hc
          · exact hown
          · exact ht.embedded hself c hc
        · exact ht.embedded hg c hc
      · have hc' : (t.setChannels [new]).channel c.id = some c' := hc'
        rcases guild_setGuild hg with ⟨rfl, rfl⟩ | ⟨hne, hg⟩
        · -- The new copy is the new record. Others have other ids, since no id is there twice.
          rcases eq_or_of_mem_replaceOrAdd (ht.distinct hself) hc with rfl | ⟨hc, hother⟩
          · cases (channel_setChannels_of_mem hone List.mem_cons_self).symm.trans hc'
            exact c.agreesWith_self pinned
          · rw [channel_setChannels_of_not_mem (mt List.mem_singleton.mp hother)] at hc'
            exact ht.same hself c hc c' hc'
        · have hother : ∀ c ∈ [new], home c.id ≠ some g := by
            refine List.forall_mem_singleton.mpr fun h => hne ?_
            exact (Option.some.inj (hown.symm.trans h)).symm
          rw [channel_setChannels_of_not_mem (ht.not_mem_of_home hg hc hother)] at hc'
          exact ht.same hg c hc c' hc'
    · exact ht

theorem ChannelsAgree.takePins (ht : t.ChannelsAgree home pinned) (hsound : t.Sound)
    {p : ChannelPins} (hp : pinned p.channelId) : (t.takePins p).ChannelsAgree home pinned := by
  unfold Tables.takePins
  split
  · next old hold =>
    refine ⟨ht.distinct, ht.embedded, fun {g r} hg c hc c' hc' => ?_⟩
    rcases channel_setChannel hc' with ⟨hid, rfl⟩ | hc'
    · have hchannel : old.id = p.channelId := hsound.channel_id hold
      have hid : c.id = p.channelId := hid.trans hchannel
      rw [← hid] at hold hp
      obtain ⟨hsame, -⟩ := ht.same hg c hc old hold
      refine ⟨?_, fun hnot => absurd hp hnot⟩
      rw [hsame]
    · exact ht.same hg c hc c' hc'
  · exact ht

/-! ## Events -/

theorem ChannelsAgree.updated (ht : t.ChannelsAgree home pinned) (hsound : t.Sound)
    (settings : CacheSettings) (botId : String) {e : Event} (he : e.PlacesChannels home)
    (hpins : ∀ p, e = .channelPinsUpdate p → pinned p.channelId) :
    (t.updated settings botId e).ChannelsAgree home pinned := by
  have hguild : ∀ payload ∈ e.guilds,
      (t.takeGuild botId payload (t.guild payload.id)).ChannelsAgree home pinned :=
    fun payload hp => ht.takeGuild botId (he.distinct payload hp) (he.embedded payload hp)
      fun _ h => h
  cases e with
  | ready r => exact ht.takeReady botId he
  | guildCreate g => exact hguild g List.mem_cons_self
  | guildUpdate g => exact hguild g List.mem_cons_self
  | guildDelete g =>
      exact ht.of_shrinks ⟨fun h => (Option.ite_none_left_eq_some.mp h).2,
        fun {_ r} h => ⟨r, (Option.ite_none_left_eq_some.mp h).2, .refl _⟩⟩
  | guildMemberAdd m => exact ht.of_shrinks (shrinks_takeMember hsound m)
  | guildMemberUpdate m => exact ht.of_shrinks (shrinks_takeMember hsound m)
  | guildMemberRemove m =>
      simp only [Tables.updated]
      split
      · next g hg => exact ht.of_shrinks (shrinks_removeMember hsound hg m.user.id)
      · exact ht
  | guildMembersChunk guildId members =>
      refine ht.of_shrinks
        (hsound.foldl_related .refl .trans (fun m hm t ht => ?_) fun m t ht => ?_)
      · exact ht.takeMember ⟨he.named.1, he.named.2 m hm⟩
      · exact shrinks_takeMember ht _
  | guildRoleCreate guildId r =>
      exact ht.of_shrinks (shrinks_changeGuild hsound _ (fun _ => rfl) fun _ => rfl)
  | guildRoleUpdate guildId r =>
      exact ht.of_shrinks (shrinks_changeGuild hsound _ (fun _ => rfl) fun _ => rfl)
  | guildRoleDelete guildId roleId =>
      exact ht.of_shrinks (shrinks_changeGuild hsound _ (fun _ => rfl) fun _ => rfl)
  | guildEmojisUpdate guildId emojis =>
      refine ht.of_shrinks
        (hsound.foldl_related .refl .trans (fun _ _ t ht => ?_) fun _ t ht => ?_)
      · exact ht.changeGuild fun _ => rfl
      · exact shrinks_changeGuild ht _ (fun _ => rfl) fun _ => rfl
  | channelCreate c => exact ht.takeChannel hsound (he.own c rfl)
  | channelUpdate c => exact ht.takeChannel hsound (he.own c rfl)
  | channelDelete c => exact ht.of_shrinks (shrinks_loseChannel hsound c.id)
  | channelPinsUpdate p => exact ht.takePins hsound (hpins p rfl)
  | presenceUpdate guildId p => exact ht.of_shrinks (shrinks_takePresence hsound guildId p)
  | guildBanAdd guildId u =>
      simp only [Tables.updated]
      split <;> exact ⟨ht.distinct, ht.embedded, ht.same⟩
  | guildBanRemove guildId u =>
      simp only [Tables.updated]
      split <;> exact ⟨ht.distinct, ht.embedded, ht.same⟩
  | messageCreate m =>
      simp only [Tables.updated]
      split <;> exact ⟨ht.distinct, ht.embedded, ht.same⟩
  | _ => exact ht

end Tables

open Tables

/-- Where nothing expires and every channel has its place, the record of a channel that a cached
guild embeds is the embedded copy in all fields but the time of the last pin, and in all fields if
there was never a pin update for the channel. -/
theorem World.Reachable.channel_copies_agree {ns : String} {settings : CacheSettings} {w : World}
    (home : String → Option String) (pinned : String → Prop)
    (h : Reachable ns settings (fun e => e.PlacesChannels home
      ∧ ∀ p, e = .channelPinsUpdate p → pinned p.channelId) w)
    (hexpiry : settings.expiry = none) {guildId : String} (hguild : PlainId guildId) {g : Guild}
    (hg : w.host.record ns (.guild guildId) = some g) {c c' : Channel} (hc : c ∈ g.channelList)
    (hc' : w.host.record ns (.channel c.id) = some c') :
    c' = { c with lastPinTimestamp := c'.lastPinTimestamp } ∧ (¬pinned c.id → c' = c) := by
  have hf := CacheSettings.not_fading hexpiry
  obtain ⟨t, ht, hagree, hw⟩ := h.exists_updated hexpiry (fun _ he => he.1.named)
    (I := ChannelsAgree home pinned) channelsAgree_empty
    fun _ botId _ he hsound ht => ht.updated hsound settings botId he.1 he.2
  have hg : t.guild guildId = some g :=
    (hw.host.record_eq (Slot.guild guildId) hguild hf).symm.trans hg
  have hplain := ht.guild_channel hg c hc
  have hc' : t.channel c.id = some c' :=
    (hw.host.record_eq (Slot.channel c.id) hplain hf).symm.trans hc'
  exact hagree.same hg c hc c' hc'

namespace World

theorem sampleGuild_placesChannels (home : String → Option String) (hhome : home "2" = some "1") :
    (Event.guildCreate sampleGuild).PlacesChannels home where
  named := sampleGuild_isWellNamed
  distinct := List.forall_mem_singleton.mpr (by decide)
  embedded := List.forall_mem_singleton.mpr (List.forall_mem_singleton.mpr hhome)
  alone _ hc := absurd hc List.not_mem_nil
  own _ hc := nomatch hc

/-- The one channel of the small world has equal copies, until a message is pinned in it. -/
theorem sample_channel_copies_agree :
    let pins : ChannelPins := { channelId := "2", lastPinTimestamp := some sampleMoment }
    let pinned := sample.after "relay" {} "3" (.channelPinsUpdate pins)
    ∃ (g : Guild) (c c' : Channel), pinned.host.record "relay" (.guild "1") = some g
      ∧ c ∈ g.channelList ∧ pinned.host.record "relay" (.channel "2") = some c'
      ∧ c'.lastPinTimestamp ≠ c.lastPinTimestamp
      ∧ c' = { c with lastPinTimestamp := c'.lastPinTimestamp } := by
  intro pins pinned
  let home : String → Option String := fun id => if id = "2" then some "1" else none
  have hguild : PlainId "1" := by decide
  have hchannel : PlainId "2" := by decide
  have hplaces : (Event.channelPinsUpdate pins).PlacesChannels home :=
    ⟨hchannel, by simp [Event.guilds], by simp [Event.guilds], by simp [Event.privateChannels],
      by simp [Event.ownChannel]⟩
  have hkeeps := sample_keepsTables.after rfl "3" (e := .channelPinsUpdate pins) hchannel
  have hg := hkeeps.record rfl (Slot.guild "1") hguild
  have hc' := hkeeps.record rfl (Slot.channel "2") hchannel
  have hreachable : Reachable "relay" {} (fun e => e.PlacesChannels home
      ∧ ∀ p, e = .channelPinsUpdate p → p.channelId = "2") pinned :=
    (sample_reachable ⟨sampleGuild_placesChannels home rfl, fun _ h => nomatch h⟩).after "3"
      ⟨hplaces, fun p hp => by cases hp; rfl⟩
  refine ⟨_, { id := "2", guildId := "1" }, _, hg, List.mem_singleton.mpr rfl, hc', by decide, ?_⟩
  exact (Reachable.channel_copies_agree home (· = "2") hreachable rfl hguild hg
    (List.mem_singleton.mpr rfl) hc').1

end World

end GuildRelay
