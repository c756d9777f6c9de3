import GuildRelay.Proofs.Cache.Indices
/-!
# Users of members

A user record is shared by all guilds that the user is a member of. It is dropped when the last of
them goes, which the handler finds out by asking the indexed guilds one after the other and stopping
at the first that has the user. That answer is right only because every guild with members is
indexed, and that in turn is kept by all handlers together: `Tables.Referenced` is the invariant,
and `Tables.user_of_removeMember` says what becomes of the user.
-/

namespace GuildRelay

namespace Tables

/-- Members belong to indexed guilds and users, and indexed users have records. -/
structure Referenced (t : Tables) : Prop where
  member : ∀ g, ∀ u ∈ t.guildUserIds g, g ∈ t.guildIds ∧ u ∈ t.userIds
  user : ∀ u ∈ t.userIds, (t.user u).isSome

variable {t t' : Tables} {e : Event}

theorem referenced_empty : ({} : Tables).Referenced := by
  constructor <;> intros <;> contradiction

theorem Referenced.putGuild (ht : t.Referenced) (g : Guild) : (t.putGuild g).Referenced :=
  { ht with
    member := fun id u hu => (ht.member id u hu).imp_left fun h => mem_insertAll.mpr (.inr h) }

theorem Referenced.putMembers (ht : t.Referenced) {guildId : String} (hg : guildId ∈ t.guildIds)
    (ms : List Member) : (t.putMembers guildId ms).Referenced where
  member g u hu := by
    simp only [Tables.putMembers] at hu
    split at hu
    · next heq =>
      subst heq
      refine ⟨hg, mem_insertAll.mpr ?_⟩
      exact (mem_insertAll.mp hu).imp_right fun hu => (ht.member g u hu).2
    · exact (ht.member g u hu).imp_right fun h => mem_insertAll.mpr (.inr h)
  user u hu := by
    show (((lastWith (·.user.id) u ms).map (·.user)).or (t.user u)).isSome
    rw [Option.isSome_or, Option.isSome_map, Bool.or_eq_true, isSome_lastWith]
    exact (mem_insertAll.mp hu).imp_right (ht.user u)

theorem Referenced.removeGuild (ht : t.Referenced) (guildId : String) (channelIds : List String) :
    (t.removeGuild guildId channelIds).Referenced where
  member g u hu := by
    simp only [Tables.removeGuild] at hu ⊢
    split at hu
    · cases hu
    · next hne =>
      obtain ⟨hg, hu⟩ := ht.member g u hu
      exact ⟨List.mem_filter.mpr ⟨hg, bne_iff_ne.mpr hne⟩, hu⟩
  user := ht.user

theorem Referenced.dropMember (ht : t.Referenced) (guildId userId : String) :
    (t.dropMember guildId userId).Referenced where
  member g u hu := by
    simp only [Tables.dropMember] at hu
    split at hu
    · next heq =>
      subst heq
      exact ht.member g u (List.mem_filter.mp hu).1
    · exact ht.member g u hu
  user := ht.user

theorem Referenced.dropUser (ht : t.Referenced) {userId : String}
    (hnone : ∀ g, userId ∉ t.guildUserIds g) : (t.dropUser userId).Referenced where
  member g u hu := by
    obtain ⟨hg, hindexed⟩ := ht.member g u hu
    have hne : u ≠ userId := fun h => hnone g (h ▸ hu)
    exact ⟨hg, List.mem_filter.mpr ⟨hindexed, bne_iff_ne.mpr hne⟩⟩
  user u hu := by
    obtain ⟨hu, hne⟩ := List.mem_filter.mp hu
    simp only [Tables.dropUser, Slot.user, if_neg (bne_iff_ne.mp hne)]
    exact ht.user u hu

/-! ## Removing a member -/

theorem guildUserIds_dropMember {guildId g : String} (hne : g ≠ guildId) (userId : String) :
    (t.dropMember guildId userId).guildUserIds g = t.guildUserIds g :=
  if_neg hne

theorem isMemberElsewhere_iff {guildId userId : String} :
    t.isMemberElsewhere guildId userId = true
      ↔ ∃ g ∈ t.guildIds, g ≠ guildId ∧ userId ∈ t.guildUserIds g := by
  simp only [isMemberElsewhere, List.any_eq_true, Bool.and_eq_true, bne_iff_ne,
    List.contains_iff_mem]

/-- The indexed guilds are all that a user can be a member of. -/
theorem Referenced.isMemberElsewhere_dropMember (ht : t.Referenced) {guildId userId : String} :
    (t.dropMember guildId userId).isMemberElsewhere guildId userId = true
      ↔ ∃ g, g ≠ guildId ∧ userId ∈ t.guildUserIds g := by
  rw [isMemberElsewhere_iff]
  constructor
  · rintro ⟨g, -, hne, hu⟩
    rw [guildUserIds_dropMember hne] at hu
    exact ⟨g, hne, hu⟩
  · rintro ⟨g, hne, hu⟩
    refine ⟨g, (ht.member g userId hu).1, hne, ?_⟩
    rwa [guildUserIds_dropMember hne]

theorem Referenced.not_mem_of_not_elsewhere (ht : t.Referenced) {guildId userId : String}
    (h : ¬(t.dropMember guildId userId).isMemberElsewhere guildId userId = true) (g : String) :
    userId ∉ (t.dropMember guildId userId).guildUserIds g := by
  rw [ht.isMemberElsewhere_dropMember] at h
  intro hu
  simp only [Tables.dropMember] at hu
  split at hu
  · exact bne_iff_ne.mp (List.mem_filter.mp hu).2 rfl
  · next hne => exact h ⟨g, hne, hu⟩

/-- After a member is removed, the user is kept exactly if they are a member of another guild. -/
theorem user_of_removeMember (ht : t.Referenced) (g : Guild) (userId : String) :
    (((t.removeMember g userId).user userId).isSome ↔ userId ∈ (t.removeMember g userId).userIds)
    ∧ (userId ∈ (t.removeMember g userId).userIds
      ↔ ∃ g', g' ≠ g.id ∧ userId ∈ (t.removeMember g userId).guildUserIds g') := by
  have hsame : ∀ g', g' ≠ g.id →
      (t.removeMember g userId).guildUserIds g' = t.guildUserIds g' := by
    intro g' hne
    unfold Tables.removeMember
    split <;> exact if_neg hne
  have hothers : (∃ g', g' ≠ g.id ∧ userId ∈ (t.removeMember g userId).guildUserIds g')
      ↔ ∃ g', g' ≠ g.id ∧ userId ∈ t.guildUserIds g' :=
    exists_congr fun g' => and_congr_right fun hne => by rw [hsame g' hne]
  -- The search is through tables from which the member is gone, but what it finds was there before.
  rw [hothers, ← ht.isMemberElsewhere_dropMember]
  unfold Tables.removeMember
  split
  · next helse =>
    obtain ⟨g', -, hu⟩ := ht.isMemberElsewhere_dropMember.mp helse
    have hindexed := (ht.member g' userId hu).2
    exact ⟨iff_of_true (ht.user userId hindexed) hindexed, iff_of_true hindexed helse⟩
  · next helse =>
    have hgone : userId ∉ t.userIds.filter (· != userId) := fun h =>
      bne_iff_ne.mp (List.mem_filter.mp h).2 rfl
    refine ⟨iff_of_false ?_ hgone, iff_of_false hgone helse⟩
    simp [Tables.setGuild, Slot.guild, Tables.dropUser, Slot.user]

/-- Moves keep members in indexed guilds and users in records. -/
theorem Move.referenced (h : Move e t t') (hi : t.Indexed) (ht : t.Referenced) :
    t'.Referenced := by
  cases h with
  | user u =>
      exact { ht with
        user := fun id hid => by
          simp only [Tables.setUser, Slot.user]
          split
          · rfl
          · exact ht.user id hid }
  | @guild payload cached botId _ _ _ =>
      have hguild := ht.putGuild (payload.fillIds.carryOver cached)
      have hchannels : ((t.putGuild (payload.fillIds.carryOver cached)).putChannels
        payload.fillIds.channelList).Referenced := { hguild with }
      have hindexed : payload.id ∈ (t.putGuild (payload.fillIds.carryOver cached)).guildIds := by
        refine mem_insertAll.mpr (.inl ?_)
        rw [Guild.carryOver_id]
        exact List.mem_cons_self
      exact { hchannels.putMembers hindexed payload.fillIds.memberList with }
  | guildGone guildId channelIds => exact ht.removeGuild guildId channelIds
  | guildChanged g g' _ _ _ _ _ => exact { ht with }
  | @member g m hg _ _ =>
      have hguild : (t.setGuild (g.addMember m)).Referenced := { ht with }
      exact hguild.putMembers ((hi.guild g.id).mp (Option.isSome_of_eq_some hg)) [m]
  | @memberGone g userId _ =>
      have hmember := ht.dropMember g.id userId
      unfold Tables.removeMember
      split
      · exact { hmember with }
      · next helse => exact { hmember.dropUser (ht.not_mem_of_not_elsewhere helse) with }
  | channels _ => exact { ht with }
  | channelChanged c c' _ _ _ => exact { ht with }
  | channelGone channelId => exact { ht with }
  | messages channelId ms => exact { ht with }
  | banned guildId userIds => exact { ht with }

end Tables

open Tables

/-- Where nothing expires, whoever is in the index of a guild is an indexed user with a live record,
and the guild is indexed. After a member is removed, the user is live exactly if they are still
indexed, and that is if another guild has them. -/
theorem World.Reachable.members_have_users {ns : String} {settings : CacheSettings} {w : World}
    (h : Reachable ns settings Event.IsWellNamed w) (hexpiry : settings.expiry = none) :
    (∀ g, ∀ u ∈ w.host.members ns (.guildUserIds g), g ∈ w.host.members ns .allGuildIds
      ∧ (w.host.value ns (.user u)).isSome ∧ u ∈ w.host.members ns .allUserIds)
    ∧ (∀ u ∈ w.host.members ns .allUserIds, (w.host.value ns (.user u)).isSome)
    ∧ ∀ botId m asked w', m.IsWellNamed →
      Runs ns (ExceptT.run (Cache.apply settings botId (.guildMemberRemove m))) w (.ok asked) w' →
      ((w'.host.value ns (.user m.user.id)).isSome
        ↔ m.user.id ∈ w'.host.members ns .allUserIds)
      ∧ (m.user.id ∈ w'.host.members ns .allUserIds
        ↔ ∃ g, g ≠ m.guildId ∧ m.user.id ∈ w'.host.members ns (.guildUserIds g)) := by
  obtain ⟨t, ht, ⟨hI₀, hI⟩, hw⟩ := h.exists_tables settings.surroundings_allows rfl
    (fun _ he => he) (I := fun t => t.Indexed ∧ t.Referenced) ⟨indexed_empty, referenced_empty⟩
    fun _ _ _ _ _ hI hmove => ⟨hmove.indexed hI.1, hmove.referenced hI.1 hI.2⟩
  have hf := CacheSettings.not_fading hexpiry
  have hhost := hw.host
  have hlive : ∀ u ∈ t.userIds, (w.host.value ns (.user u)).isSome := fun u hu =>
    (hhost.isSome_value (Slot.user u) (ht.userIds u hu) hf).mpr (hI.user u hu)
  rw [hhost.allGuildIds, hhost.allUserIds]
  refine ⟨fun g u hu => ?_, hlive, fun botId m asked w' hm hruns => ?_⟩
  · obtain ⟨hguild, huser⟩ := hI.member g u (hhost.mem_guildUserIds.mp hu).2
    exact ⟨hguild, hlive u huser, huser⟩
  · have hleads : (Cache.apply settings botId (.guildMemberRemove m)).Leads settings.surroundings t
        fun r t' => r = .ok asked → ∃ g, t.guild m.guildId = some g
          ∧ t' = t.removeMember g m.user.id := by
      refine Cache.leads_apply (Cache.leads_removeMember settings.surroundings_allows hm ht ?_ ?_)
      · exact fun _ h => nomatch h
      · exact fun g hg _ => ⟨g, hg, rfl⟩
    obtain ⟨t', hafter, hw'⟩ := hruns.leads rfl hleads hw
    obtain ⟨g, hg, rfl⟩ := hafter rfl
    have hmove : Move (.guildMemberRemove m) t (t.removeMember g m.user.id) :=
      .memberGone m.user.id (ht.guild_self hg)
    have ht' := hmove.sound ht
    have hI' := hmove.referenced hI₀ hI
    obtain ⟨huser, hothers⟩ := user_of_removeMember hI g m.user.id
    rw [hw'.host.allUserIds]
    refine ⟨(hw'.host.isSome_value (Slot.user m.user.id) hm.2 hf).trans huser,
      hothers.trans (exists_congr fun g' => ?_)⟩
    rw [ht.guild_id hg, hw'.host.mem_guildUserIds]
    refine and_congr_right fun _ => ⟨fun hu => ⟨?_, hu⟩, fun hu => hu.2⟩
    exact ht'.guildIds g' (hI'.member g' _ hu).1

theorem World.sample_members_have_users :
    Reachable "relay" {} Event.IsWellNamed sample
    ∧ "1" ∈ sample.host.members "relay" .allGuildIds
    ∧ (sample.host.value "relay" (.user "3")).isSome
    ∧ "3" ∈ sample.host.members "relay" .allUserIds := by
  have h := sample_reachable sampleGuild_isWellNamed
  obtain ⟨hmember, -, -⟩ := h.members_have_users rfl
  exact ⟨h, hmember "1" "3" (by decide +kernel)⟩

end GuildRelay
