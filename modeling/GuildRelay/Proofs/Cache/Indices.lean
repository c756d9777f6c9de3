import GuildRelay.Proofs.Cache.Moves
/-!
# Indices mirror records

The cache keeps three kinds of index beside its records: all guilds, all channels and the members of
each guild. Every handler writes a record and its place in the index with separate calls, and some
of them through a record that they read back. `Tables.Indexed` says that both sides agree; it is
kept by each change of the tables and so by every move (`Tables.Move.indexed`).

Records expire and indices do not. What is left of the agreement on a host is therefore that live
records are indexed, and, where nothing expires, that what is indexed is live.
-/

namespace GuildRelay

namespace Tables

/-- There is a record exactly for the ids in the indices. -/
structure Indexed (t : Tables) : Prop where
  guild : ∀ g, (t.guild g).isSome ↔ g ∈ t.guildIds
  channel : ∀ c, (t.channel c).isSome ↔ c ∈ t.channelIds
  member : ∀ g u, (t.member g u).isSome ↔ u ∈ t.guildUserIds g

variable {t t' : Tables} {e : Event}

theorem indexed_empty : ({} : Tables).Indexed := by
  constructor <;> intros <;> simp

theorem Indexed.putGuild (ht : t.Indexed) (g : Guild) : (t.putGuild g).Indexed :=
  { ht with
    guild := fun id => by
      have := ht.guild id
      by_cases h : id = g.id <;>
        simp_all [Tables.putGuild, Tables.setGuild, Slot.guild, mem_insertAll] }

theorem Indexed.setGuild (ht : t.Indexed) {g : Guild} (hg : (t.guild g.id).isSome) :
    (t.setGuild g).Indexed :=
  { ht with
    guild := fun id => by
      have := ht.guild id
      by_cases h : id = g.id <;> simp_all [Tables.setGuild, Slot.guild] }

theorem Indexed.setChannel (ht : t.Indexed) {c : Channel} (hc : (t.channel c.id).isSome) :
    (t.setChannel c).Indexed :=
  { ht with
    channel := fun id => by
      have := ht.channel id
      by_cases h : id = c.id <;> simp_all [Tables.setChannel, Slot.channel] }

theorem Indexed.putChannels (ht : t.Indexed) (cs : List Channel) : (t.putChannels cs).Indexed :=
  { ht with
    channel := fun id => by
      show ((lastWith (·.id) id cs).or (t.channel id)).isSome ↔ id ∈ insertAll _ t.channelIds
      rw [Option.isSome_or, Bool.or_eq_true, isSome_lastWith, mem_insertAll, ht.channel] }

theorem Indexed.putMembers (ht : t.Indexed) (guildId : String) (ms : List Member) :
    (t.putMembers guildId ms).Indexed :=
  { ht with
    member := fun g u => by
      have hold := ht.member g u
      by_cases h : g = guildId
      · subst h
        simp only [Tables.putMembers, setMembers, if_pos]
        rw [Option.isSome_or, Bool.or_eq_true, isSome_lastWith, mem_insertAll, hold]
      · simpa only [Tables.putMembers, setMembers, if_neg h] using hold }

theorem Indexed.removeGuild (ht : t.Indexed) (guildId : String) (channelIds : List String) :
    (t.removeGuild guildId channelIds).Indexed where
  guild g := by
    have hold := ht.guild g
    by_cases h : g = guildId <;> simp_all [Tables.removeGuild]
  channel c := by
    have hold := ht.channel c
    by_cases h : c ∈ channelIds <;> simp_all [Tables.removeGuild]
  member g u := by
    have hold := ht.member g u
    by_cases h : g = guildId
    · subst h
      by_cases hu : u ∈ t.guildUserIds g <;> simp_all [Tables.removeGuild]
    · simp_all [Tables.removeGuild]

theorem Indexed.dropMember (ht : t.Indexed) (guildId userId : String) :
    (t.dropMember guildId userId).Indexed :=
  { ht with
    member := fun g u => by
      have hold := ht.member g u
      by_cases h : g = guildId
      · subst h
        by_cases hu : u = userId <;> simp_all [Tables.dropMember, Slot.member]
      · simp_all [Tables.dropMember, Slot.member] }

theorem Indexed.removeChannel (ht : t.Indexed) (channelId : String) :
    (t.removeChannel channelId).Indexed :=
  { ht with
    channel := fun c => by
      have hold := ht.channel c
      by_cases h : c = channelId <;> simp_all [Tables.removeChannel] }

/-- Moves keep records and indices in agreement. -/
theorem Move.indexed (h : Move e t t') (ht : t.Indexed) : t'.Indexed := by
  cases h with
  | user u => exact { ht with }
  | @guild payload cached botId _ _ _ =>
      have hchannels := ht.putChannels payload.fillIds.channelList
      have hmembers := hchannels.putMembers payload.id payload.fillIds.memberList
      exact { hmembers.putGuild (payload.fillIds.carryOver cached) with }
  | guildGone guildId channelIds => exact ht.removeGuild guildId channelIds
  | guildChanged g g' hg hid _ _ _ =>
      refine ht.setGuild ?_
      rw [hid, hg]
      rfl
  | @member g m hg _ _ =>
      have hguild : (t.guild (g.addMember m).id).isSome := Option.isSome_of_eq_some hg
      exact (ht.setGuild hguild).putMembers g.id [m]
  | @memberGone g userId hg =>
      have hguild : (t.guild (g.removeMember userId).id).isSome := Option.isSome_of_eq_some hg
      have hmember := ht.dropMember g.id userId
      unfold Tables.removeMember
      split
      · exact hmember.setGuild hguild
      · exact { hmember.setGuild hguild with }
  | channels _ => exact ht.putChannels _
  | channelChanged c c' hc hid _ =>
      refine ht.setChannel ?_
      rw [hid, hc]
      rfl
  | channelGone channelId => exact ht.removeChannel channelId
  | messages channelId ms => exact { ht with }
  | banned guildId userIds => exact { ht with }

theorem Moves.indexed (h : Moves e t t') (ht : t.Indexed) : t'.Indexed := by
  induction h with
  | refl => exact ht
  | tail _ hmove ih => exact hmove.indexed ih

end Tables

open Tables

/-- In every world that well-named events lead to, with ban runs and time going on beside them, live
records are indexed under the id that they carry. Where nothing expires, what is indexed has a live
record. -/
theorem World.Reachable.indices_mirror_records {ns : String} {settings : CacheSettings} {w : World}
    (h : Reachable ns settings Event.IsWellNamed w) :
    (∀ g text, PlainId g → w.host.value ns (.guild g) = some text →
      g ∈ w.host.members ns .allGuildIds ∧ ∃ r : Guild, Cache.readText text = .ok r ∧ r.id = g)
    ∧ (∀ c text, PlainId c → w.host.value ns (.channel c) = some text →
      c ∈ w.host.members ns .allChannelIds
        ∧ ∃ r : Channel, Cache.readText text = .ok r ∧ r.id = c)
    ∧ (∀ g u text, PlainId g → w.host.value ns (.member g u) = some text →
      u ∈ w.host.members ns (.guildUserIds g)
        ∧ ∃ m : Member, Cache.readText text = .ok m ∧ m.user.id = u)
    ∧ (settings.expiry = none →
      (∀ g ∈ w.host.members ns .allGuildIds, (w.host.value ns (.guild g)).isSome)
      ∧ (∀ c ∈ w.host.members ns .allChannelIds, (w.host.value ns (.channel c)).isSome)
      ∧ ∀ g, ∀ u ∈ w.host.members ns (.guildUserIds g),
        (w.host.value ns (.member g u)).isSome) := by
  obtain ⟨t, ht, hI, hw⟩ := h.exists_tables settings.surroundings_allows rfl (fun _ he => he)
    indexed_empty fun _ _ _ _ _ hI hmove => hmove.indexed hI
  have hhost := hw.host
  refine ⟨fun g text hg hlive => ?_, fun c text hc hlive => ?_, fun g u text hg hlive => ?_,
    fun hexpiry => ?_⟩
  · obtain ⟨r, hr, hread⟩ := hhost.record_of_value (Slot.guild g) hg hlive
    refine ⟨?_, r, hread, ht.guild_id hr⟩
    rw [hhost.allGuildIds]
    exact (hI.guild g).mp (Option.isSome_of_eq_some hr)
  · obtain ⟨r, hr, hread⟩ := hhost.record_of_value (Slot.channel c) hc hlive
    refine ⟨?_, r, hread, ht.channel_id hr⟩
    rw [hhost.allChannelIds]
    exact (hI.channel c).mp (Option.isSome_of_eq_some hr)
  · obtain ⟨m, hm, hread⟩ := hhost.record_of_value (Slot.member g u) hg hlive
    refine ⟨hhost.mem_guildUserIds.mpr ⟨hg, ?_⟩, m, hread, ht.member_user hm⟩
    exact (hI.member g u).mp (Option.isSome_of_eq_some hm)
  · have hf := CacheSettings.not_fading hexpiry
    refine ⟨fun g hg => ?_, fun c hc => ?_, fun g u hu => ?_⟩
    · rw [hhost.allGuildIds] at hg
      have hlive := hhost.isSome_value (Slot.guild g) (ht.guildIds g hg) hf
      exact hlive.mpr ((hI.guild g).mpr hg)
    · rw [hhost.allChannelIds] at hc
      have hlive := hhost.isSome_value (Slot.channel c) (ht.channelIds c hc) hf
      exact hlive.mpr ((hI.channel c).mpr hc)
    · obtain ⟨hg, hu⟩ := hhost.mem_guildUserIds.mp hu
      have hlive := hhost.isSome_value (Slot.member g u) hg hf
      exact hlive.mpr ((hI.member g u).mpr hu)

theorem World.sample_indices_mirror_records :
    Reachable "relay" {} Event.IsWellNamed sample
    ∧ "1" ∈ sample.host.members "relay" .allGuildIds
    ∧ "3" ∈ sample.host.members "relay" (.guildUserIds "1")
    ∧ (sample.host.value "relay" (.channel "2")).isSome := by
  have h := sample_reachable sampleGuild_isWellNamed
  obtain ⟨hguild, -, hmember, hconverse⟩ := h.indices_mirror_records
  refine ⟨h, ?_, ?_, ?_⟩
  · exact (hguild "1" _ (by decide) (Option.some_get (by decide +kernel)).symm).1
  · exact (hmember "1" "3" _ (by decide) (Option.some_get (by decide +kernel)).symm).1
  · exact (hconverse rfl).2.1 "2" (by decide +kernel)

end GuildRelay
