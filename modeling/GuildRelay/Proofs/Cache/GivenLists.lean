import GuildRelay.Proofs.Cache.Indices
import GuildRelay.Proofs.Cache.Outcome
/-!
# Lists that guilds come with

A guild that comes along with a list of members or channels has that list from then on, instead of
the one that was cached. This is so in the guild record alone. To the records of members and
channels, and to the indices, the list only adds (`Host.Adds`): whoever is not in it stays a member,
and a channel that is not in it stays a channel of the guild.

The list is therefore all that there is just if it leaves nothing out that was there before, which
is what `World.Reachable.given_lists_only_add` says in the end.
-/

namespace GuildRelay

namespace Host

/-- The list of a guild goes into its record, and is added to all that is kept beside it. -/
structure Adds (h : Host) (ns : String) (g : Guild) (h' : Host) : Prop where
  guild : h'.record ns (.guild g.id) = some (g.fillIds.carryOver (h.record ns (.guild g.id)))
  member : ∀ userId, h'.record ns (.member g.id userId)
    = (lastWith (·.user.id) userId g.fillIds.memberList).or (h.record ns (.member g.id userId))
  users : ∀ userId, userId ∈ h'.members ns (.guildUserIds g.id)
    ↔ userId ∈ g.memberList.map (·.user.id) ∨ userId ∈ h.members ns (.guildUserIds g.id)
  channel : ∀ channelId, PlainId channelId → h'.record ns (.channel channelId)
    = (lastWith (·.id) channelId g.fillIds.channelList).or (h.record ns (.channel channelId))
  channels : ∀ channelId, channelId ∈ h'.members ns .allChannelIds
    ↔ channelId ∈ g.channelList.map (·.id) ∨ channelId ∈ h.members ns .allChannelIds

/-- The members of the guild are those with the ids, in the index and by their records. -/
structure HasMembers (h : Host) (ns guildId : String) (userIds : List String) : Prop where
  indexed : ∀ userId, userId ∈ h.members ns (.guildUserIds guildId) ↔ userId ∈ userIds
  gone : ∀ userId, userId ∉ userIds → h.record ns (.member guildId userId) = (none : Option Member)

/-- The channels of the guild that are not private are among those with the ids. -/
def ChannelsAmong (h : Host) (ns guildId : String) (channelIds : List String) : Prop :=
  ∀ channelId (c : Channel), PlainId channelId → h.record ns (.channel channelId) = some c →
    c.guildId = guildId → c.isPrivate = false → channelId ∈ channelIds

namespace Adds

variable {h h' : Host} {ns : String} {g : Guild}

theorem hasMembers_iff (hadds : h.Adds ns g h')
    (hindexed : ∀ userId, userId ∉ h.members ns (.guildUserIds g.id) →
      h.record ns (.member g.id userId) = (none : Option Member)) :
    h'.HasMembers ns g.id (g.memberList.map (·.user.id))
      ↔ ∀ userId ∈ h.members ns (.guildUserIds g.id), userId ∈ g.memberList.map (·.user.id) := by
  refine ⟨fun hhas userId hold => ?_, fun hall => ⟨fun userId => ?_, fun userId hnot => ?_⟩⟩
  · exact (hhas.indexed userId).mp ((hadds.users userId).mpr (.inr hold))
  · rw [hadds.users]
    exact ⟨fun h => h.elim id (hall userId), .inl⟩
  · have hlist : lastWith (·.user.id) userId g.fillIds.memberList = none := by
      rw [lastWith_eq_none_iff, Guild.memberList_fillIds, List.map_map]
      exact hnot
    rw [hadds.member, hlist, Option.none_or]
    exact hindexed userId (mt (hall userId) hnot)

theorem channelsAmong_iff (hadds : h.Adds ns g h') :
    h'.ChannelsAmong ns g.id (g.channelList.map (·.id))
      ↔ h.ChannelsAmong ns g.id (g.channelList.map (·.id)) := by
  -- A channel that is not in the list has the record that it had.
  have hsame : ∀ channelId, PlainId channelId → channelId ∉ g.channelList.map (·.id) →
      h'.record ns (.channel channelId) = (h.record ns (.channel channelId) : Option Channel) := by
    intro channelId hid hnot
    rw [← Guild.map_id_channelList_fillIds] at hnot
    rw [hadds.channel channelId hid, lastWith_eq_none_iff.mpr hnot, Option.none_or]
  constructor
  · intro hamong channelId c hid hc hown hkind
    by_contra hnot
    exact hnot (hamong channelId c hid ((hsame channelId hid hnot).trans hc) hown hkind)
  · intro hamong channelId c hid hc hown hkind
    by_contra hnot
    exact hnot (hamong channelId c hid ((hsame channelId hid hnot).symm.trans hc) hown hkind)

end Adds

end Host

open Tables

/-- The tables of a guild that comes along are what its lists add to those before. -/
theorem Host.Shows.adds {ns : String} {s : Surroundings} {h h' : Host} {t : Tables} {g : Guild}
    {botId : String} (hw : h.Shows ns s t.content)
    (hw' : h'.Shows ns s (t.takeGuild botId g (t.guild g.id)).content) (hf : s.fading = false)
    (hg : PlainId g.id) : h.Adds ns g h' where
  guild := by
    have hid : (g.fillIds.carryOver (t.guild g.id)).id = g.id := Guild.carryOver_id _ _
    have hself : (t.takeGuild botId g (t.guild g.id)).guild g.id
        = some (g.fillIds.carryOver (t.guild g.id)) := if_pos hid.symm
    have hbefore : h.record ns (.guild g.id) = t.guild g.id :=
      hw.record_eq (Slot.guild g.id) hg hf
    rw [hbefore, ← hself]
    exact hw'.record_eq (Slot.guild g.id) hg hf
  member userId := by
    have hbefore : h.record ns (.member g.id userId) = t.member g.id userId :=
      hw.record_eq (Slot.member g.id userId) hg hf
    rw [hbefore]
    exact (hw'.record_eq (Slot.member g.id userId) hg hf).trans (if_pos rfl)
  users userId := by
    have hids : g.fillIds.memberList.map (·.user.id) = g.memberList.map (·.user.id) := by
      rw [Guild.memberList_fillIds, List.map_map]
      rfl
    have hself : (t.takeGuild botId g (t.guild g.id)).guildUserIds g.id
        = insertAll (g.fillIds.memberList.map (·.user.id)) (t.guildUserIds g.id) := if_pos rfl
    rw [hw'.mem_guildUserIds, hw.mem_guildUserIds, hself, mem_insertAll, hids]
    simp only [hg, true_and]
  channel channelId hid := by
    have hbefore : h.record ns (.channel channelId) = t.channel channelId :=
      hw.record_eq (Slot.channel channelId) hid hf
    rw [hbefore]
    exact hw'.record_eq (Slot.channel channelId) hid hf
  channels channelId := by
    have hself : (t.takeGuild botId g (t.guild g.id)).channelIds
        = insertAll (g.fillIds.channelList.map (·.id)) t.channelIds := rfl
    rw [hw'.allChannelIds, hw.allChannelIds, hself, mem_insertAll,
      Guild.map_id_channelList_fillIds]

namespace World

variable {ns : String} {settings : CacheSettings} {w w' : World}

/-- Where nothing expires, the lists of a guild that comes along are only added to what is kept
beside its record. So they are the members and the channels of the guild just if they leave out none
that it had. -/
theorem Reachable.given_lists_only_add (h : Reachable ns settings Event.IsWellNamed w)
    (hexpiry : settings.expiry = none) {botId : String} {e : Event} {g : Guild}
    (he : e = .guildCreate g ∨ e = .guildUpdate g) (hg : g.IsWellNamed)
    {result : Except CacheError (Option String)}
    (hruns : Runs ns (ExceptT.run (Cache.apply settings botId e)) w result w') :
    result = .ok (some g.id) ∧ w.host.Adds ns g w'.host
    ∧ (∀ ms, g.members = some ms →
      (w'.host.HasMembers ns g.id (ms.map (·.user.id))
        ↔ ∀ userId ∈ w.host.members ns (.guildUserIds g.id), userId ∈ ms.map (·.user.id)))
    ∧ ∀ cs, g.channels = some cs →
      (w'.host.ChannelsAmong ns g.id (cs.map (·.id))
        ↔ w.host.ChannelsAmong ns g.id (cs.map (·.id))) := by
  obtain ⟨t, ht, hindexed, hw⟩ := h.exists_tables settings.surroundings_allows rfl
    (fun _ he => he) indexed_empty fun _ _ _ _ _ hI hmove => hmove.indexed hI
  have hf := CacheSettings.not_fading hexpiry
  have hleads : (Cache.apply settings botId e).Leads settings.surroundings t
      fun r t' => r = .ok (some g.id) ∧ t' = t.takeGuild botId g (t.guild g.id) := by
    rcases he with rfl | rfl <;>
      exact Cache.leads_apply (Cache.leads_addGuild settings.surroundings_allows hg
        fun cached hcached => ⟨rfl, by rw [hcached.eq hf]⟩)
  obtain ⟨_, ⟨hresult, rfl⟩, hw'⟩ := hruns.leads rfl hleads hw
  have hadds := hw.host.adds hw'.host hf hg.1
  refine ⟨hresult, hadds, fun ms hms => ?_, fun cs hcs => ?_⟩
  · have hlist : g.memberList = ms := by rw [Guild.memberList, hms]; rfl
    rw [← hlist]
    refine hadds.hasMembers_iff fun userId hnot => ?_
    have hmember : t.member g.id userId = none := by
      rw [← Option.not_isSome_iff_eq_none, hindexed.member]
      exact fun hmem => hnot (hw.host.mem_guildUserIds.mpr ⟨hg.1, hmem⟩)
    exact (hw.host.record_eq (Slot.member g.id userId) hg.1 hf).trans hmember
  · have hlist : g.channelList = cs := by rw [Guild.channelList, hcs]; rfl
    rw [← hlist]
    exact hadds.channelsAmong_iff

/-- The small guild with empty lists. -/
def sampleEmptied : Guild where
  id := "1"
  channels := some []
  members := some []

/-- The member and the channel are still there. -/
theorem sample_given_lists_only_add :
    let w' := sample.after "relay" {} "3" (.guildUpdate sampleEmptied)
    "3" ∈ w'.host.members "relay" (.guildUserIds "1")
    ∧ w'.host.record "relay" (.member "1" "3") = some sampleMember
    ∧ ¬w'.host.HasMembers "relay" "1" []
    ∧ ¬w'.host.ChannelsAmong "relay" "1" [] := by
  intro w'
  have hkeeps := sample_keepsTables
  have hguild : PlainId "1" := by decide
  have hchannel : PlainId "2" := by decide
  have huser : "3" ∈ sample.host.members "relay" (.guildUserIds "1") :=
    hkeeps.shows.mem_guildUserIds.mpr ⟨hguild, by decide⟩
  have hmember : sample.host.record "relay" (.member "1" "3") = some sampleMember :=
    (hkeeps.record rfl (Slot.member "1" "3") hguild).trans (by decide +kernel)
  have hlive : sample.host.record "relay" (.channel "2")
      = some { id := "2", guildId := "1" : Channel } :=
    (hkeeps.record rfl (Slot.channel "2") hchannel).trans (by decide +kernel)
  have hempty : sampleEmptied.IsWellNamed := ⟨hguild, by decide, by decide⟩
  obtain ⟨-, hadds, hmembers, hchannels⟩ :=
    (sample_reachable sampleGuild_isWellNamed).given_lists_only_add rfl
      (.inr rfl : Event.guildUpdate sampleEmptied = .guildCreate _ ∨ _) hempty
      (runs_of_run _ sample)
  refine ⟨(hadds.users "3").mpr (.inr huser), (hadds.member "3").trans ?_, ?_, ?_⟩
  · have hnot : lastWith (·.user.id) "3" sampleEmptied.fillIds.memberList = none := rfl
    rw [hnot, Option.none_or]
    exact hmember
  · intro hhas
    exact List.not_mem_nil ((hmembers [] rfl).mp hhas "3" huser)
  · intro hamong
    exact List.not_mem_nil ((hchannels [] rfl).mp hamong "2" _ hchannel hlive rfl rfl)

end World

end GuildRelay
