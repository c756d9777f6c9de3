import GuildRelay.Proofs.Cache.Moves
/-!
# Two copies of each member

A guild record embeds its members and their number, and each member has a record of its own beside
it. Snapshots, guild payloads, single members, chunks and presences write both copies, each by
another path. `Tables.CopiesAgree` says that they are the same and that the number is that of the
list; it is kept by every move (`Tables.Move.copiesAgree`), provided that no payload tells of a
member twice or miscounts its own list (`Guild.CountsMembers`).

The agreement is one from the embedded copy to the record. There is none the other way: a payload
with a list of members replaces the embedded list, and records of members that it does not name
stay.
-/

namespace GuildRelay

namespace Guild

/-- A list of members names each of them once, and their number is its length. -/
def CountsMembers (g : Guild) : Prop :=
  ∀ ms, g.members = some ms → (ms.map (·.user.id)).Nodup ∧ g.memberCount = .ofNat ms.length

variable {g : Guild}

theorem countsMembers_withMembers {ms : List Member} (h : (ms.map (·.user.id)).Nodup) :
    (g.withMembers ms).CountsMembers := by
  rintro _ ⟨⟩
  exact ⟨h, rfl⟩

theorem CountsMembers.nodup (h : g.CountsMembers) : (g.memberList.map (·.user.id)).Nodup := by
  unfold memberList
  cases hms : g.members with
  | none => exact List.nodup_nil
  | some ms => exact (h ms hms).1

theorem CountsMembers.fillIds (h : g.CountsMembers) : g.fillIds.CountsMembers := by
  intro ms hms
  obtain ⟨old, hold, rfl⟩ := Option.map_eq_some_iff.mp hms
  rw [List.map_map, List.length_map]
  exact h old hold

/-- A guild without a list of members takes the cached list along with its length. -/
theorem CountsMembers.carryOver {cached : Option Guild} (h : g.CountsMembers)
    (hcached : ∀ old, cached = some old → old.CountsMembers) :
    (g.carryOver cached).CountsMembers := by
  cases cached with
  | none => exact h
  | some old =>
      intro ms hms
      cases hown : g.members with
      | none =>
          simp only [Guild.carryOver, hown, Option.none_or] at hms ⊢
          exact hcached old rfl ms hms
      | some ms' =>
          simp only [Guild.carryOver, hown, Option.some_or] at hms ⊢
          exact h ms (hown.trans hms)

theorem mem_memberList_carryOver {cached : Option Guild} {m : Member}
    (h : m ∈ (g.carryOver cached).memberList) :
    m ∈ g.memberList ∨ (g.memberList = [] ∧ ∃ old, cached = some old ∧ m ∈ old.memberList) := by
  cases cached with
  | none => exact .inl h
  | some old =>
      unfold memberList at h ⊢
      cases hown : g.members with
      | none =>
          rw [Guild.carryOver, hown, Option.none_or] at h
          exact .inr ⟨rfl, old, rfl, h⟩
      | some ms =>
          rw [Guild.carryOver, hown, Option.some_or] at h
          exact .inl h

end Guild

namespace Tables

/-- The members that a guild embeds are the ones in the member records, and they are counted. -/
structure CopiesAgree (t : Tables) : Prop where
  counts : ∀ {g r}, t.guild g = some r → r.CountsMembers
  same : ∀ {g r}, t.guild g = some r → ∀ m ∈ r.memberList, t.member g m.user.id = some m

variable {t t' : Tables} {e : Event}

theorem copiesAgree_empty : ({} : Tables).CopiesAgree := by
  constructor <;> intros <;> contradiction

/-! ## Where a member record comes from -/

theorem member_setMembers_of_mem {guildId : String} {ms : List Member} {m : Member}
    (hnodup : (ms.map (·.user.id)).Nodup) (hm : m ∈ ms) :
    (t.setMembers guildId ms).member guildId m.user.id = some m := by
  simp only [setMembers, if_pos]
  rw [lastWith_of_nodup hnodup hm, Option.some_or]

theorem member_setMembers_of_not_mem {guildId u : String} {ms : List Member}
    (hu : u ∉ ms.map (·.user.id)) (g : String) :
    (t.setMembers guildId ms).member g u = t.member g u := by
  simp only [setMembers]
  rw [lastWith_eq_none_iff.mpr hu, Option.none_or, ite_self]

theorem member_setMembers_of_ne {guildId g : String} (hne : g ≠ guildId) (ms : List Member)
    (u : String) : (t.setMembers guildId ms).member g u = t.member g u :=
  if_neg hne

theorem member_removeMember {g : Guild} {userId id u : String} (h : ¬(id = g.id ∧ u = userId)) :
    (t.removeMember g userId).member id u = t.member id u := by
  unfold Tables.removeMember
  split <;> exact if_neg h

theorem guild_removeMember {g : Guild} {userId : String} :
    (t.removeMember g userId).guild = (t.setGuild (g.removeMember userId)).guild := by
  unfold Tables.removeMember
  split <;> rfl

/-! ## What moves keep -/

theorem CopiesAgree.takeGuild (ht : t.CopiesAgree) (botId : String) {payload : Guild}
    {cached : Option Guild} (hp : payload.CountsMembers)
    (hcached : ∀ old, cached = some old → t.guild payload.id = some old) :
    (t.takeGuild botId payload cached).CopiesAgree where
  counts h := by
    rcases guild_setGuild h with ⟨-, rfl⟩ | ⟨-, h⟩
    · exact hp.fillIds.carryOver fun old hold => ht.counts (hcached old hold)
    · exact ht.counts h
  same {id r} h m hm := by
    show (t.setMembers payload.id payload.fillIds.memberList).member id m.user.id = some m
    rcases guild_setGuild h with ⟨hid, rfl⟩ | ⟨hid, h⟩
    · rw [Guild.carryOver_id] at hid
      subst hid
      rcases Guild.mem_memberList_carryOver hm with hm | ⟨hnil, old, hold, hm⟩
      · exact member_setMembers_of_mem hp.fillIds.nodup hm
      · rw [hnil, member_setMembers_of_not_mem List.not_mem_nil]
        exact ht.same (hcached old hold) m hm
    · rw [Guild.carryOver_id] at hid
      exact (member_setMembers_of_ne hid _ _).trans (ht.same h m hm)

theorem CopiesAgree.removeGuild (ht : t.CopiesAgree) (guildId : String)
    (channelIds : List String) : (t.removeGuild guildId channelIds).CopiesAgree where
  counts h := ht.counts (Option.ite_none_left_eq_some.mp h).2
  same {id r} h m hm := by
    obtain ⟨hid, h⟩ := Option.ite_none_left_eq_some.mp h
    have hother : ¬(id = guildId ∧ m.user.id ∈ t.guildUserIds guildId) := fun h => hid h.1
    simp only [Tables.removeGuild, if_neg hother]
    exact ht.same h m hm

theorem CopiesAgree.setGuild (ht : t.CopiesAgree) {g g' : Guild} (hg : t.guild g.id = some g)
    (hid : g'.id = g.id) (hmembers : g'.members = g.members)
    (hcount : g'.memberCount = g.memberCount) : (t.setGuild g').CopiesAgree where
  counts h := by
    rcases guild_setGuild h with ⟨-, rfl⟩ | ⟨-, h⟩
    · have := ht.counts hg
      unfold Guild.CountsMembers at this ⊢
      rwa [hmembers, hcount]
    · exact ht.counts h
  same h m hm := by
    rcases guild_setGuild h with ⟨rfl, rfl⟩ | ⟨-, h⟩
    · rw [hid]
      unfold Guild.memberList at hm
      rw [hmembers] at hm
      exact ht.same hg m hm
    · exact ht.same h m hm

theorem CopiesAgree.storeMember (ht : t.CopiesAgree) {g : Guild} (hg : t.guild g.id = some g)
    (m : Member) : (t.storeMember g m).CopiesAgree where
  counts h := by
    rcases guild_setGuild h with ⟨-, rfl⟩ | ⟨-, h⟩
    · exact Guild.countsMembers_withMembers (nodup_replaceOrAdd (ht.counts hg).nodup)
    · exact ht.counts h
  same {id r} h m' hm' := by
    show (t.setMembers g.id [m]).member id m'.user.id = some m'
    have hone : ([m].map (·.user.id)).Nodup := List.nodup_singleton _
    rcases guild_setGuild h with ⟨rfl, rfl⟩ | ⟨hid, h⟩
    · -- The new copy is the new record. Others have other ids, since no id is there twice.
      rcases eq_or_of_mem_replaceOrAdd (ht.counts hg).nodup hm' with rfl | ⟨hm', hne⟩
      · exact member_setMembers_of_mem hone List.mem_cons_self
      · rw [member_setMembers_of_not_mem (mt List.mem_singleton.mp hne)]
        exact ht.same hg m' hm'
    · exact (member_setMembers_of_ne hid _ _).trans (ht.same h m' hm')

theorem CopiesAgree.removeMember (ht : t.CopiesAgree) {g : Guild} (hg : t.guild g.id = some g)
    (userId : String) : (t.removeMember g userId).CopiesAgree where
  counts h := by
    rw [guild_removeMember] at h
    rcases guild_setGuild h with ⟨-, rfl⟩ | ⟨-, h⟩
    · refine Guild.countsMembers_withMembers ?_
      exact (ht.counts hg).nodup.sublist (List.filter_sublist.map _)
    · exact ht.counts h
  same {id r} h m hm := by
    rw [guild_removeMember] at h
    rcases guild_setGuild h with ⟨rfl, rfl⟩ | ⟨hid, h⟩
    · obtain ⟨hm, hne⟩ := List.mem_filter.mp hm
      rw [member_removeMember fun h => bne_iff_ne.mp hne h.2]
      exact ht.same hg m hm
    · have hother : ¬(id = g.id ∧ m.user.id = userId) := fun h => hid h.1
      rw [member_removeMember hother]
      exact ht.same h m hm

/-- Moves keep the copies in agreement. -/
theorem Move.copiesAgree (h : Move e t t') (hguilds : ∀ g ∈ e.guilds, g.CountsMembers)
    (ht : t.CopiesAgree) : t'.CopiesAgree := by
  cases h with
  | user u => exact { ht with }
  | guild botId hp _ hcached => exact ht.takeGuild botId (hguilds _ hp) hcached
  | guildGone guildId channelIds => exact ht.removeGuild guildId channelIds
  | guildChanged g g' hg hid hmembers hcount _ => exact ht.setGuild hg hid hmembers hcount
  | member hg _ _ => exact ht.storeMember hg _
  | memberGone userId hg => exact ht.removeMember hg userId
  | channels _ => exact { ht with }
  | channelChanged c c' _ _ _ => exact { ht with }
  | channelGone channelId => exact { ht with }
  | messages channelId ms => exact { ht with }
  | banned guildId userIds => exact { ht with }

end Tables

open Tables

/-- Where nothing expires and payloads count their members, every live guild record reads as a guild
whose embedded members are distinct, equal to the live records of these members, and counted. -/
theorem World.Reachable.member_copies_agree {ns : String} {settings : CacheSettings} {w : World}
    (h : Reachable ns settings (fun e => e.IsWellNamed ∧ ∀ g ∈ e.guilds, g.CountsMembers) w)
    (hexpiry : settings.expiry = none) {guildId text : String} (hguild : PlainId guildId)
    (hlive : w.host.value ns (.guild guildId) = some text) :
    ∃ g : Guild, Cache.readText text = .ok g
      ∧ (g.memberList.map (·.user.id)).Nodup
      ∧ (∀ m ∈ g.memberList, ∃ text', w.host.value ns (.member guildId m.user.id) = some text'
        ∧ Cache.readText text' = .ok m)
      ∧ ∀ ms, g.members = some ms → g.memberCount = .ofNat ms.length := by
  obtain ⟨t, -, hI, hw⟩ := h.exists_tables settings.surroundings_allows rfl (fun _ he => he.1)
    copiesAgree_empty fun _ _ _ he _ hI hmove => hmove.copiesAgree he.2 hI
  have hf := CacheSettings.not_fading hexpiry
  obtain ⟨g, hg, hread⟩ := hw.host.record_of_value (Slot.guild guildId) hguild hlive
  have hcounts := hI.counts hg
  refine ⟨g, hread, hcounts.nodup, fun m hm => ?_, fun ms hms => (hcounts ms hms).2⟩
  have hvalue := hw.host.value_eq (Slot.member guildId m.user.id) hguild hf
  have hrecord : (Slot.member guildId m.user.id).get t = some m := hI.same hg m hm
  rw [hrecord] at hvalue
  exact ⟨_, hvalue, Cache.readText_json m⟩

theorem World.sampleGuild_countsMembers : sampleGuild.CountsMembers := by
  rintro _ ⟨⟩
  exact ⟨List.nodup_singleton _, rfl⟩

theorem World.sample_member_copies_agree :
    ∃ text, sample.host.value "relay" (.guild "1") = some text
    ∧ ∃ g : Guild, Cache.readText text = .ok g
      ∧ ∀ m ∈ g.memberList, ∃ text', sample.host.value "relay" (.member "1" m.user.id) = some text'
        ∧ Cache.readText text' = .ok m := by
  have h : Reachable "relay" {} (fun e => e.IsWellNamed ∧ ∀ g ∈ e.guilds, g.CountsMembers) sample :=
    sample_reachable
      ⟨sampleGuild_isWellNamed, List.forall_mem_singleton.mpr sampleGuild_countsMembers⟩
  have hlive : sample.host.value "relay" (.guild "1") = some _ :=
    (Option.some_get (by decide +kernel)).symm
  obtain ⟨g, hread, -, hsame, -⟩ := h.member_copies_agree rfl (by decide) hlive
  exact ⟨_, hlive, g, hread, hsame⟩

end GuildRelay
