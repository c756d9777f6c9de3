import GuildRelay.Proofs.Cache.Repeats
/-!
# Halfway through an event

A handler that breaks off has done a part of what it was to do. Here is what the same event comes to
from there.

Handlers that merge a payload into cached records fill in one part of the tables after the other
(`Tables.Between`). They read less than they write, and what they read is merged in the same way
whether it was written already or not, so they come to the same. For a snapshot nothing is read: it
comes to the same because it stamps everything again that part of it has stamped (`Tables.Covers`).

Handlers that drop a guild or a channel drop the record first, and with it what they know about what
else has to go (`Tables.LosesGuild`, `Tables.LosesChannel`). `Event.root` is that record and
`Event.needsRootFor` says what the event cannot find without it. `Tables.Interrupted` has all that
an event may leave behind.
-/

namespace GuildRelay

namespace Tables

variable {t u t' : Tables}

/-! ## Stamps that cover others -/

/-- After `f` it does not show whether `k` came before it. -/
def Covers (f k : Tables → Tables) : Prop :=
  ∀ t, (f (k t)).content = (f t).content

namespace Covers

variable {f g k : Tables → Tables}

theorem self (hf : Stamps f) : Covers f f :=
  hf.twice

theorem first (hf : Stamps f) (hg : Stamps g) : Covers (fun t => g (f t)) f := by
  obtain ⟨x, hx⟩ := hg
  intro t
  funext key
  rw [hx, hx, hf.twice]

theorem second (hf : Stamps f) (hg : Stamps g) : Covers (fun t => g (f t)) g := by
  obtain ⟨x, hx⟩ := hg
  obtain ⟨y, hy⟩ := hf
  intro t
  funext key
  simp only [hx, hy, Host.Content.stamp]
  rw [insertAll_comm (y key).members, insertAll_insertAll]
  cases (x key).value <;> rfl

theorem trans (h : Covers f g) (h' : Covers g k) (hf : Stamps f) : Covers f k := by
  obtain ⟨x, hx⟩ := hf
  intro t
  have hsame : (f (g (k t))).content = (f (g t)).content := by
    funext key
    rw [hx, hx, h' t]
  rw [← h (k t), hsame, h t]

end Covers

namespace Sound

theorem putMember (ht : t.Sound) (guildId : String) {m : Member} (hm : m.IsWellNamed) :
    ((Slot.member guildId m.user.id).put (some m) t).Sound :=
  { ht with
    member_user := fun {g u r} h => by
      simp only [Slot.member] at h
      split at h
      · next hat => rw [← Option.some.inj h, hat.2]
      · exact ht.member_user h
    member_guild := fun {g u r} h => by
      simp only [Slot.member] at h
      split at h
      · rw [← Option.some.inj h]
        exact hm.1
      · exact ht.member_guild h }

theorem indexUsers (ht : t.Sound) {ms : List Member} (hms : ∀ m ∈ ms, m.IsWellNamed) :
    (Index.users.put (insertAll (ms.map (·.user.id)) t.userIds) t).Sound :=
  { ht with userIds := (ht.putMembers "" hms).userIds }

theorem indexChannels (ht : t.Sound) {cs : List Channel} (hcs : ∀ c ∈ cs, c.IsWellNamed) :
    (Index.channels.put (insertAll (cs.map (·.id)) t.channelIds) t).Sound :=
  { ht with channelIds := (ht.putChannels hcs).channelIds }

theorem indexGuild (ht : t.Sound) {guildId : String} (hg : PlainId guildId) :
    (Index.guilds.put (insertAll [guildId] t.guildIds) t).Sound :=
  { ht with
    guildIds := (ht.putGuild (g := { id := guildId }) hg fun _ h => nomatch h).guildIds }

end Sound

/-! ## Parts of a change -/

/-- Every part of the tables `t'` is as in `t` or as in `u`. -/
structure Between (t u t' : Tables) : Prop where
  guild : t'.guild = t.guild ∨ t'.guild = u.guild
  member : t'.member = t.member ∨ t'.member = u.member
  channel : t'.channel = t.channel ∨ t'.channel = u.channel
  user : t'.user = t.user ∨ t'.user = u.user
  messages : t'.messages = t.messages ∨ t'.messages = u.messages
  guildIds : t'.guildIds = t.guildIds ∨ t'.guildIds = u.guildIds
  userIds : t'.userIds = t.userIds ∨ t'.userIds = u.userIds
  channelIds : t'.channelIds = t.channelIds ∨ t'.channelIds = u.channelIds
  guildUserIds : t'.guildUserIds = t.guildUserIds ∨ t'.guildUserIds = u.guildUserIds
  guildBotIds : t'.guildBotIds = t.guildBotIds ∨ t'.guildBotIds = u.guildBotIds
  guildBannedUserIds :
    t'.guildBannedUserIds = t.guildBannedUserIds ∨ t'.guildBannedUserIds = u.guildBannedUserIds
  banInitializedGuildIds : t'.banInitializedGuildIds = t.banInitializedGuildIds
    ∨ t'.banInitializedGuildIds = u.banInitializedGuildIds

namespace Between

theorem start (t u : Tables) : Between t u t :=
  ⟨.inl rfl, .inl rfl, .inl rfl, .inl rfl, .inl rfl, .inl rfl, .inl rfl, .inl rfl, .inl rfl,
    .inl rfl, .inl rfl, .inl rfl⟩

theorem eq_self (h : Between t t t') : t' = t := by
  obtain ⟨hguild, hmember, hchannel, huser, hmessages, hguildIds, huserIds, hchannelIds,
    hguildUserIds, hbots, hbanned, hinit⟩ := h
  simp only [or_self] at *
  exact Tables.ext hguild hmember hchannel huser hmessages hguildIds huserIds hchannelIds
    hguildUserIds hbots hbanned hinit

theorem sound (h : Between t u t') (ht : t.Sound) (hu : u.Sound) : t'.Sound where
  guild_id := by rcases h.guild with e | e <;> rw [e]; exacts [ht.guild_id, hu.guild_id]
  guild_channel := by
    rcases h.guild with e | e <;> rw [e]; exacts [ht.guild_channel, hu.guild_channel]
  member_user := by rcases h.member with e | e <;> rw [e]; exacts [ht.member_user, hu.member_user]
  member_guild := by
    rcases h.member with e | e <;> rw [e]; exacts [ht.member_guild, hu.member_guild]
  channel_id := by rcases h.channel with e | e <;> rw [e]; exacts [ht.channel_id, hu.channel_id]
  channel_guild := by
    rcases h.channel with e | e <;> rw [e]; exacts [ht.channel_guild, hu.channel_guild]
  user_id := by rcases h.user with e | e <;> rw [e]; exacts [ht.user_id, hu.user_id]
  guildIds := by rcases h.guildIds with e | e <;> rw [e]; exacts [ht.guildIds, hu.guildIds]
  userIds := by rcases h.userIds with e | e <;> rw [e]; exacts [ht.userIds, hu.userIds]
  channelIds := by
    rcases h.channelIds with e | e <;> rw [e]; exacts [ht.channelIds, hu.channelIds]

end Between

/-! ## Members -/

theorem storeMember_between {g g' : Guild} {m : Member} (hid : g'.id = g.id)
    (hg' : g'.addMember m = g.addMember m) (h : Between t (t.storeMember g m) t') :
    t'.storeMember g' m = t.storeMember g m := by
  obtain ⟨hguild, hmember, hchannel, huser, hmessages, hguildIds, huserIds, hchannelIds,
    hguildUserIds, hbots, hbanned, hinit⟩ := h
  simp only [storeMember_eq, or_self] at *
  simp only [hid, hg', hchannel, hmessages, hguildIds, hchannelIds, hbots, hbanned, hinit]
  refine Tables.ext (funext fun id => ?_) (funext₂ fun id u => ?_) rfl (funext fun u => ?_) rfl
    rfl ?_ rfl (funext fun id => ?_) rfl rfl rfl
  · rcases hguild with e | e <;> by_cases hid : id = g.id <;> simp [e, hid]
  · rcases hmember with e | e <;> by_cases hid : id = g.id ∧ u = m.user.id <;> simp [e, hid]
  · rcases huser with e | e <;> by_cases hu : u = m.user.id <;> simp [e, hu]
  · rcases huserIds with e | e <;> simp [e, insertInOrder_self]
  · rcases hguildUserIds with e | e <;> by_cases hid : id = g.id <;>
      simp [e, hid, insertInOrder_self]

theorem guild_between_storeMember {g : Guild} {m : Member} {guildId : String}
    (hg : t.guild guildId = some g) (hid : g.id = guildId)
    (h : Between t (t.storeMember g m) t') :
    t'.guild guildId = some g ∨ t'.guild guildId = some (g.addMember m) := by
  rcases h.guild with e | e
  · exact .inl (by rw [e, hg])
  · exact .inr (by rw [e, storeMember_eq]; exact if_pos hid.symm)

/-- A member that was being taken in is taken in as if nothing had been done yet. -/
theorem takeMember_between_self (ht : t.Sound) {m : Member}
    (h : Between t (t.takeMember m) t') : t'.takeMember m = t.takeMember m := by
  cases hg : t.guild m.guildId with
  | none =>
      have hidle : t.takeMember m = t := by simp only [takeMember, hg]
      rw [hidle] at h
      rw [h.eq_self]
  | some g =>
      rw [takeMember_eq hg] at h ⊢
      set m' := m.carryOver (t.member m.guildId m.user.id) with hm'
      have hid := ht.guild_id hg
      have hcarry : m.carryOver (t'.member m.guildId m.user.id) = m' := by
        rcases h.member with e | e
        · rw [e]
        · have hstored : t'.member m.guildId m.user.id = some m' := by
            rw [e, storeMember_eq]
            refine if_pos ⟨hid.symm, ?_⟩
            rw [hm', Member.carryOver_user]
          rw [hstored, hm', Member.carryOver_carryOver]
      rcases guild_between_storeMember hg hid h with hg' | hg'
      · rw [takeMember_eq hg', hcarry]
        exact storeMember_between rfl rfl h
      · rw [takeMember_eq hg', hcarry]
        exact storeMember_between rfl (Guild.addMember_addMember rfl g) h

theorem takeMembers_between_self (ht : t.Sound) {guildId : String} {before after : List Member}
    {m : Member} (hguild : PlainId guildId) (hms : ∀ m ∈ before, PlainId m.user.id)
    (h : Between (before.foldl (fun t m => t.takeMember { m with guildId }) t)
      ((before.foldl (fun t m => t.takeMember { m with guildId }) t).takeMember
        { m with guildId }) t') :
    (before ++ m :: after).foldl (fun t m => t.takeMember { m with guildId }) t'
      = (before ++ m :: after).foldl (fun t m => t.takeMember { m with guildId }) t := by
  set t₁ := before.foldl (fun t m => t.takeMember { m with guildId }) t with ht₁
  have hsound : t₁.Sound := .foldl (fun m hm t ht => ht.takeMember ⟨hguild, hms m hm⟩) ht
  have hsame := takeMember_between_self hsound h
  cases hg : t.guild guildId with
  | none =>
      have hidle : ∀ ms : List Member,
          ms.foldl (fun t m => t.takeMember { m with guildId }) t = t := fun ms =>
        foldl_idle fun m _ => by simp only [takeMember, hg]
      have hnone : t.takeMember { m with guildId } = t := hidle [m]
      rw [ht₁, hidle, hnone] at h
      rw [h.eq_self]
  | some g =>
      have habsorbing := takeMembers_absorbing guildId
      have hstart : HasGuild guildId t := ⟨g, hg, ht.guild_id hg⟩
      have hkept : HasGuild guildId t₁ := habsorbing.keeps_foldl before hstart
      -- Whether a member is there is told by the guild, which is from before or from after.
      have hguilds : t'.guild = t₁.guild
          ∨ t'.guild = (t₁.takeMember { m with guildId }).guild := h.guild
      refine habsorbing.foldl_resumed hstart ?_ (fun b hb => ?_) hsame
      · unfold HasGuild
        rcases hguilds with e | e <;> rw [e]
        exacts [hkept, habsorbing.keeps t₁ m hkept]
      · have hb := habsorbing.has_of_mem hstart hb
        rcases hguilds with e | e
        · exact e ▸ hb
        · exact e ▸ habsorbing.has_step t₁ m b hkept hb

/-! ## Presences -/

/-- A new member of a presence is the same when its user is there already. -/
theorem newMember_newMember (p : Presence) (guildId : String) (u : Option User) :
    p.newMember guildId (some (p.newMember guildId u).user) = p.newMember guildId u := by
  simp only [Presence.newMember, Option.getD_some, User.updated_updated]

/-- Taking in a member takes nobody away. -/
theorem exists_member_takeMember (m : Member) {guildId userId : String} {old : Member}
    (hold : t.member guildId userId = some old) :
    ∃ r, (t.takeMember m).member guildId userId = some r := by
  cases hg : t.guild m.guildId with
  | none => exact ⟨old, by simp only [takeMember, hg, hold]⟩
  | some g =>
      rw [takeMember_eq hg, storeMember_eq]
      by_cases hat : guildId = g.id
          ∧ userId = (m.carryOver (t.member m.guildId m.user.id)).user.id
      · exact ⟨_, if_pos hat⟩
      · exact ⟨old, (if_neg hat).trans hold⟩

theorem memberSeen_between (ht : t.Sound) {guildId : String} {g : Guild}
    (hg : t.guild guildId = some g) {p : Presence}
    (h : Between t (t.takeMember (t.memberSeen guildId p)) t') :
    t'.memberSeen guildId p = t.memberSeen guildId p := by
  cases hm : t.member guildId p.user.id with
  | some old =>
      rcases h.member with e | e
      · have hm' : t'.member guildId p.user.id = some old := by rw [e, hm]
        rw [memberSeen_of_some hm', memberSeen_of_some hm]
      · obtain ⟨r, hr⟩ := exists_member_takeMember (t.memberSeen guildId p) hm
        have hr' : t'.member guildId p.user.id = some r := by rw [e, hr]
        rw [memberSeen_of_some hr', ← memberSeen_takeMember ht hg p, memberSeen_of_some hr]
  | none =>
      have huser := ht.newMember_user p guildId
      rw [memberSeen_of_none hm] at h ⊢
      set m := p.newMember guildId (t.user p.user.id) with hm'
      have hstored : t.takeMember m = t.storeMember g m := by
        rw [takeMember_eq (m := m) hg, huser]
        exact congrArg (t.storeMember g) (congrArg m.carryOver hm)
      rw [hstored, storeMember_eq] at h
      rcases h.member with e | e
      · have hnone : t'.member guildId p.user.id = none := by rw [e, hm]
        rw [memberSeen_of_none hnone]
        rcases h.user with e' | e'
        · rw [e']
        · have hseen : t'.user p.user.id = some m.user := by
            rw [e']
            exact if_pos huser.symm
          rw [hseen, hm', newMember_newMember]
      · have hthere : t'.member guildId p.user.id = some m := by
          rw [e]
          exact if_pos ⟨(ht.guild_id hg).symm, huser.symm⟩
        rw [memberSeen_of_some hthere, hm', Member.seen_newMember]

theorem takePresence_between (ht : t.Sound) {guildId : String} {g : Guild} {p : Presence}
    (hg : t.guild guildId = some g) (hoff : p.status ≠ some .offline)
    (h : Between (t.setGuild (g.addPresence p))
      ((t.setGuild (g.addPresence p)).takeMember (t.memberSeen guildId p)) t') :
    t'.takePresence guildId p = t.takePresence guildId p := by
  have hseen : t.memberSeen guildId p = (t.setGuild (g.addPresence p)).memberSeen guildId p := rfl
  have hsound := ht.setPresence hg p
  have hthere : (t.setGuild (g.addPresence p)).guild guildId = some (g.addPresence p) :=
    ht.guild_setGuild_self hg rfl
  have hwhole : t.takePresence guildId p
      = (t.setGuild (g.addPresence p)).takeMember (t.memberSeen guildId p) := by
    simp only [takePresence, hg, if_neg hoff]
  rw [hwhole]
  rw [hseen] at h ⊢
  generalize t.setGuild (g.addPresence p) = t₁ at *
  obtain ⟨g', hg', hid', hpresences⟩ : ∃ g', t'.guild guildId = some g' ∧ g'.id = guildId
      ∧ g'.presences = (g.addPresence p).presences := by
    rcases h.guild with e | e <;> rw [e]
    · exact ⟨_, hthere, hsound.guild_id hthere, rfl⟩
    · exact guild_takeMember hsound (t₁.memberSeen guildId p) hthere
  have hsame : g'.addPresence p = g' := Guild.addPresence_of_presences hpresences
  simp only [takePresence, hg', if_neg hoff, hsame]
  rw [setGuild_self (hid'.symm ▸ hg'), memberSeen_between hsound hthere h,
    takeMember_between_self hsound h]

/-! ## Members that go -/

theorem isMemberElsewhere_congr {guildId userId : String} (hguilds : t'.guildIds = t.guildIds)
    (hother : ∀ g, g ≠ guildId → t'.guildUserIds g = t.guildUserIds g) :
    t'.isMemberElsewhere guildId userId = t.isMemberElsewhere guildId userId := by
  unfold isMemberElsewhere
  rw [hguilds]
  refine congrArg (List.any t.guildIds) (funext fun g => ?_)
  by_cases hg : g = guildId
  · simp [hg]
  · rw [hother g hg]

theorem isMemberElsewhere_dropMember (t : Tables) (guildId userId : String) :
    (t.dropMember guildId userId).isMemberElsewhere guildId userId
      = t.isMemberElsewhere guildId userId :=
  isMemberElsewhere_congr rfl fun _ hne => if_neg hne

/-- What removing a member does, place by place. -/
theorem removeMember_eq (t : Tables) (g : Guild) (userId : String) :
    t.removeMember g userId = { t with
      guild := fun id => if id = g.id then some (g.removeMember userId) else t.guild id
      member := fun id u => if id = g.id ∧ u = userId then none else t.member id u
      user := fun u =>
        if t.isMemberElsewhere g.id userId = false ∧ u = userId then none else t.user u
      userIds := if t.isMemberElsewhere g.id userId then t.userIds
        else t.userIds.filter (· != userId)
      guildUserIds := fun id =>
        if id = g.id then (t.guildUserIds g.id).filter (· != userId) else t.guildUserIds id } := by
  unfold removeMember
  rw [isMemberElsewhere_dropMember]
  cases t.isMemberElsewhere g.id userId with
  | true => simp [dropMember, setGuild, Slot.guild, Slot.member]; rfl
  | false => simp [dropMember, dropUser, setGuild, Slot.guild, Slot.member, Slot.user]; rfl

theorem removeMember_between {g g' : Guild} {userId : String} (hid : g'.id = g.id)
    (hg' : g'.removeMember userId = g.removeMember userId)
    (h : Between t (t.removeMember g userId) t') :
    t'.removeMember g' userId = t.removeMember g userId := by
  obtain ⟨hguild, hmember, hchannel, huser, hmessages, hguildIds, huserIds, hchannelIds,
    hguildUserIds, hbots, hbanned, hinit⟩ := h
  simp only [removeMember_eq, or_self] at *
  have helse : t'.isMemberElsewhere g.id userId = t.isMemberElsewhere g.id userId := by
    refine isMemberElsewhere_congr hguildIds fun id hne => ?_
    rcases hguildUserIds with e | e <;> rw [e]
    exact if_neg hne
  simp only [hid, hg', helse, hchannel, hmessages, hguildIds, hchannelIds, hbots, hbanned, hinit]
  refine Tables.ext (funext fun id => ?_) (funext₂ fun id u => ?_) rfl (funext fun u => ?_) rfl
    rfl ?_ rfl (funext fun id => ?_) rfl rfl rfl
  · rcases hguild with e | e <;> by_cases hid : id = g.id <;> simp [e, hid]
  · rcases hmember with e | e <;> by_cases hid : id = g.id ∧ u = userId <;> simp [e, hid]
  · rcases huser with e | e <;>
      by_cases hu : t.isMemberElsewhere g.id userId = false ∧ u = userId <;> simp [e, hu]
  · rcases huserIds with e | e <;> cases he : t.isMemberElsewhere g.id userId <;>
      simp [e, he, List.filter_filter]
  · rcases hguildUserIds with e | e <;> by_cases hid : id = g.id <;>
      simp [e, hid, List.filter_filter]

theorem exists_removeMember_between (ht : t.Sound) {g : Guild} {guildId userId : String}
    (hg : t.guild guildId = some g) (h : Between t (t.removeMember g userId) t') :
    ∃ g', t'.guild guildId = some g' ∧ t'.removeMember g' userId = t.removeMember g userId := by
  have hid := ht.guild_id hg
  rcases h.guild with e | e
  · exact ⟨g, by rw [e, hg], removeMember_between rfl rfl h⟩
  · refine ⟨g.removeMember userId, ?_,
      removeMember_between rfl (Guild.removeMember_removeMember g userId) h⟩
    rw [e, removeMember_eq]
    exact if_pos hid.symm

/-! ## Channels -/

theorem putChannels_eq (t : Tables) (c : Channel) :
    t.putChannels [c] = { t with
      channel := fun id => if id = c.id then some c else t.channel id
      channelIds := insertInOrder c.id t.channelIds } := by
  refine congrArg₂ (fun f ids => { t with channel := f, channelIds := ids })
    (funext fun id => ?_) rfl
  by_cases h : id = c.id
  · simp [setChannels, lastWith, h]
  · simp [setChannels, lastWith, h, Ne.symm h]

theorem putChannels_between {c : Channel} (h : Between t (t.putChannels [c]) t') :
    t'.putChannels [c] = t.putChannels [c] := by
  obtain ⟨hguild, hmember, hchannel, huser, hmessages, hguildIds, huserIds, hchannelIds,
    hguildUserIds, hbots, hbanned, hinit⟩ := h
  simp only [putChannels_eq, or_self] at *
  simp only [hguild, hmember, huser, hmessages, hguildIds, huserIds, hguildUserIds, hbots, hbanned,
    hinit]
  refine Tables.ext rfl rfl (funext fun id => ?_) rfl rfl rfl rfl ?_ rfl rfl rfl rfl
  · rcases hchannel with e | e <;> by_cases hid : id = c.id <;> simp [e, hid]
  · rcases hchannelIds with e | e <;> simp [e, insertInOrder_self]

theorem addChannel_between {g g' : Guild} {c : Channel}
    (hg' : g'.addChannel c = g.addChannel c)
    (h : Between t ((t.setGuild (g.addChannel c)).putChannels [c]) t') :
    (t'.setGuild (g'.addChannel c)).putChannels [c]
      = (t.setGuild (g.addChannel c)).putChannels [c] := by
  obtain ⟨hguild, hmember, hchannel, huser, hmessages, hguildIds, huserIds, hchannelIds,
    hguildUserIds, hbots, hbanned, hinit⟩ := h
  simp only [putChannels_eq, setGuild, Slot.guild, or_self] at *
  simp only [hg', hmember, huser, hmessages, hguildIds, huserIds, hguildUserIds, hbots, hbanned,
    hinit]
  refine Tables.ext (funext fun id => ?_) rfl (funext fun id => ?_) rfl rfl rfl rfl ?_ rfl rfl rfl
    rfl
  · rcases hguild with e | e <;> by_cases hid : id = (g.addChannel c).id <;> simp [e, hid]
  · rcases hchannel with e | e <;> by_cases hid : id = c.id <;> simp [e, hid]
  · rcases hchannelIds with e | e <;> simp [e, insertInOrder_self]

theorem takeChannel_between (ht : t.Sound) {payload : Channel}
    (h : Between t (t.takeChannel payload) t') :
    t'.takeChannel payload = t.takeChannel payload := by
  set c := payload.carryOver (t.channel payload.id) with hc
  have hcid : c.id = payload.id := Channel.carryOver_id payload _
  have hcarry : t'.channel payload.id = t.channel payload.id ∨ t'.channel payload.id = some c →
      payload.carryOver (t'.channel payload.id) = c := by
    rintro (e | e)
    · rw [e]
    · rw [e, hc, Channel.carryOver_carryOver]
  by_cases hkind : payload.isPrivate = true
  · have hwhole : t.takeChannel payload = t.putChannels [c] := by
      simp only [takeChannel, if_pos hkind, ← hc]
    rw [hwhole] at h ⊢
    have hsame := hcarry ?_
    · simp only [takeChannel, if_pos hkind, hsame]
      exact putChannels_between h
    · rcases h.channel with e | e
      · exact .inl (by rw [e])
      · exact .inr (by rw [e, ← hcid]; exact channel_putChannels_self t c)
  · cases hg : t.guild payload.guildId with
    | none =>
        have hidle : t.takeChannel payload = t := by simp only [takeChannel, if_neg hkind, hg]
        rw [hidle] at h
        rw [h.eq_self]
    | some g =>
        have hwhole : t.takeChannel payload = (t.setGuild (g.addChannel c)).putChannels [c] := by
          simp only [takeChannel, if_neg hkind, hg, ← hc]
        rw [hwhole] at h ⊢
        have hsame := hcarry ?_
        · have hguild : t'.guild payload.guildId = some g
              ∨ t'.guild payload.guildId = some (g.addChannel c) := by
            rcases h.guild with e | e
            · exact .inl (by rw [e, hg])
            · exact .inr (by rw [e]; exact ht.guild_setGuild_self hg rfl)
          rcases hguild with hg' | hg' <;>
            simp only [takeChannel, if_neg hkind, hsame, hg']
          · exact addChannel_between rfl h
          · exact addChannel_between (Guild.addChannel_addChannel g c) h
        · rcases h.channel with e | e
          · exact .inl (by rw [e])
          · exact .inr (by rw [e, ← hcid]; exact channel_putChannels_self _ c)

theorem loseChannel_setGuild (ht : t.Sound) {channelId : String} {c : Channel} {g : Guild}
    (hc : t.channel channelId = some c) (hkind : c.isPrivate = false)
    (hg : t.guild c.guildId = some g) :
    (t.setGuild (g.removeChannel channelId)).loseChannel channelId = t.loseChannel channelId := by
  have hthere : (t.setGuild (g.removeChannel channelId)).guild c.guildId
      = some (g.removeChannel channelId) := ht.guild_setGuild_self hg rfl
  have hc' : (t.setGuild (g.removeChannel channelId)).channel channelId = some c := hc
  simp only [loseChannel, hc, hc', hg, hthere, hkind, Bool.false_eq_true, if_false]
  rw [Guild.removeChannel_removeChannel, setGuild_setGuild rfl]

theorem Sound.putChannel_none (ht : t.Sound) (channelId : String) :
    ((Slot.channel channelId).put none t).Sound :=
  { ht with
    channel_id := fun h => ht.channel_id (Option.ite_none_left_eq_some.mp h).2
    channel_guild := fun h => ht.channel_guild (Option.ite_none_left_eq_some.mp h).2 }

/-- The record of a channel that is lost is gone from `t'`, and what else is to be dropped of it
does not depend on the record. -/
structure LosesChannel (channelId : String) (t t' : Tables) : Prop where
  sound : t'.Sound
  gone : t'.channel channelId = none
  same : t'.removeChannel channelId = t.loseChannel channelId

namespace LosesChannel

variable {channelId : String}

theorem putChannel (ht' : t'.Sound) (h : t'.removeChannel channelId = t.loseChannel channelId) :
    LosesChannel channelId t ((Slot.channel channelId).put none t') where
  sound := ht'.putChannel_none channelId
  gone := if_pos rfl
  same := by
    rw [← h]
    refine congrArg (fun f => { t'.removeChannel channelId with channel := f })
      (funext fun id => ?_)
    by_cases hid : id = channelId <;> simp [Slot.channel, hid]

theorem setMessages (h : LosesChannel channelId t t') :
    LosesChannel channelId t (t'.setMessages channelId []) where
  sound := { h.sound with }
  gone := h.gone
  same := by
    rw [← h.same]
    unfold removeChannel
    rw [setMessages_setMessages]
    rfl

end LosesChannel

/-! ## Guilds that go -/

theorem Sound.putGuild_none (ht : t.Sound) (guildId : String) :
    ((Slot.guild guildId).put none t).Sound :=
  { ht with
    guild_id := fun h => ht.guild_id (Option.ite_none_left_eq_some.mp h).2
    guild_channel := fun h => ht.guild_channel (Option.ite_none_left_eq_some.mp h).2 }

theorem Sound.dropMembers (ht : t.Sound) (guildId : String) (userIds : List String) :
    { t with member := fun g u => if g = guildId ∧ u ∈ userIds then none
      else t.member g u : Tables }.Sound :=
  { ht with
    member_user := fun h => ht.member_user (Option.ite_none_left_eq_some.mp h).2
    member_guild := fun h => ht.member_guild (Option.ite_none_left_eq_some.mp h).2 }

section Guild

variable {guildId : String} {channelIds : List String}

theorem removeGuild_putGuild :
    ((Slot.guild guildId).put none t).removeGuild guildId channelIds
      = t.removeGuild guildId channelIds := by
  simp only [removeGuild, Slot.guild]
  refine congrArg (fun f => Tables.mk f _ _ _ _ _ _ _ _ _ _ _) (funext fun id => ?_)
  by_cases h : id = guildId <;> simp [h]

theorem removeGuild_putGuildIds :
    (Index.guilds.put (t.guildIds.filter (· != guildId)) t).removeGuild guildId channelIds
      = t.removeGuild guildId channelIds := by
  simp only [removeGuild, Index.guilds, List.filter_filter, Bool.and_self]
  rfl

theorem removeGuild_putChannel {channelId : String} (hc : channelId ∈ channelIds) :
    ((Slot.channel channelId).put none t).removeGuild guildId channelIds
      = t.removeGuild guildId channelIds := by
  simp only [removeGuild, Slot.channel]
  refine congrArg (fun f => Tables.mk _ _ f _ _ _ _ _ _ _ _ _) (funext fun id => ?_)
  by_cases h : id = channelId <;> simp [h, hc]

theorem removeGuild_putChannelIds {channelId : String} (hc : channelId ∈ channelIds) :
    (Index.channels.put (t.channelIds.filter (· != channelId)) t).removeGuild guildId channelIds
      = t.removeGuild guildId channelIds := by
  simp only [removeGuild, Index.channels, List.filter_filter]
  refine congrArg (fun ids => Tables.mk _ _ _ _ _ _ _ ids _ _ _ _)
    (List.filter_congr fun id _ => ?_)
  by_cases h : id = channelId <;> simp [h, hc]

theorem removeGuild_dropMembers {userIds : List String}
    (hus : ∀ u ∈ userIds, u ∈ t.guildUserIds guildId) :
    { t with member := fun g u => if g = guildId ∧ u ∈ userIds then none
      else t.member g u : Tables }.removeGuild guildId channelIds
      = t.removeGuild guildId channelIds := by
  simp only [removeGuild]
  refine congrArg (fun f => Tables.mk _ f _ _ _ _ _ _ _ _ _ _) (funext₂ fun g u => ?_)
  by_cases h : g = guildId ∧ u ∈ userIds
  · have hu := hus u h.2
    simp [h, hu]
  · rw [if_neg h]

theorem removeGuild_putGuildUsers
    (hgone : ∀ u ∈ t.guildUserIds guildId, t.member guildId u = none) :
    ((Index.guildUsers guildId).put [] t).removeGuild guildId channelIds
      = t.removeGuild guildId channelIds := by
  simp only [removeGuild, Index.guildUsers]
  refine congrArg₂ (fun f f' => Tables.mk _ f _ _ _ _ _ _ f' _ _ _) (funext₂ fun id u => ?_)
    (funext fun id => ?_)
  · by_cases h : id = guildId
    · by_cases hu : u ∈ t.guildUserIds guildId
      · simp [h, hu, hgone u hu]
      · simp [h, hu]
    · simp [h]
  · by_cases h : id = guildId <;> simp [h]

theorem removeGuild_putGuildBots :
    ((Index.guildBots guildId).put [] t).removeGuild guildId channelIds
      = t.removeGuild guildId channelIds := by
  simp only [removeGuild, Index.guildBots]
  refine congrArg (fun f => Tables.mk _ _ _ _ _ _ _ _ _ f _ _) (funext fun id => ?_)
  by_cases h : id = guildId <;> simp [h]

theorem removeGuild_putGuildBanned :
    ((Index.guildBanned guildId).put [] t).removeGuild guildId channelIds
      = t.removeGuild guildId channelIds := by
  simp only [removeGuild, Index.guildBanned]
  refine congrArg (fun f => Tables.mk _ _ _ _ _ _ _ _ _ _ f _) (funext fun id => ?_)
  by_cases h : id = guildId <;> simp [h]

/-- The record of a guild that is removed is gone from `t'`, and what else is to be dropped of it
does not depend on the record, but for the channels that it lists. -/
structure LosesGuild (guildId : String) (channelIds : List String) (t t' : Tables) : Prop where
  sound : t'.Sound
  gone : t'.guild guildId = none
  same : t'.removeGuild guildId channelIds = t.removeGuild guildId channelIds

namespace LosesGuild

theorem putGuild (ht : t.Sound) :
    LosesGuild guildId channelIds t ((Slot.guild guildId).put none t) :=
  ⟨ht.putGuild_none guildId, if_pos rfl, removeGuild_putGuild⟩

variable (h : LosesGuild guildId channelIds t t')

include h

theorem putGuildIds :
    LosesGuild guildId channelIds t (Index.guilds.put (t'.guildIds.filter (· != guildId)) t') :=
  ⟨{ h.sound with guildIds := fun g hg => h.sound.guildIds g (List.mem_filter.mp hg).1 }, h.gone,
    removeGuild_putGuildIds.trans h.same⟩

theorem putChannel {channelId : String} (hc : channelId ∈ channelIds) :
    LosesGuild guildId channelIds t ((Slot.channel channelId).put none t') :=
  ⟨h.sound.putChannel_none channelId, h.gone, (removeGuild_putChannel hc).trans h.same⟩

theorem putChannelIds {channelId : String} (hc : channelId ∈ channelIds) :
    LosesGuild guildId channelIds t
      (Index.channels.put (t'.channelIds.filter (· != channelId)) t') :=
  ⟨{ h.sound with channelIds := fun c hc => h.sound.channelIds c (List.mem_filter.mp hc).1 },
    h.gone, (removeGuild_putChannelIds hc).trans h.same⟩

theorem dropMembers {userIds : List String} (hus : ∀ u ∈ userIds, u ∈ t'.guildUserIds guildId) :
    LosesGuild guildId channelIds t { t' with member := fun g u =>
      if g = guildId ∧ u ∈ userIds then none else t'.member g u } :=
  ⟨h.sound.dropMembers guildId userIds, h.gone, (removeGuild_dropMembers hus).trans h.same⟩

theorem putGuildUsers (hgone : ∀ u ∈ t'.guildUserIds guildId, t'.member guildId u = none) :
    LosesGuild guildId channelIds t ((Index.guildUsers guildId).put [] t') :=
  ⟨{ h.sound with }, h.gone, (removeGuild_putGuildUsers hgone).trans h.same⟩

theorem putGuildBots : LosesGuild guildId channelIds t ((Index.guildBots guildId).put [] t') :=
  ⟨{ h.sound with }, h.gone, removeGuild_putGuildBots.trans h.same⟩

theorem putGuildBanned : LosesGuild guildId channelIds t ((Index.guildBanned guildId).put [] t') :=
  ⟨{ h.sound with }, h.gone, removeGuild_putGuildBanned.trans h.same⟩

end LosesGuild

end Guild

end Tables

/-! ## Events -/

/-- The record that tells an event what is to be dropped, and that is dropped first. -/
def Event.root : Event → Option Key
  | .guildDelete g => some (.guild g.id)
  | .channelDelete c => some (.channel c.id)
  | _ => none

/-- The event drops what is under the key, or from the index there, only if it finds its root. -/
def Event.needsRootFor : Event → Key → Bool
  | .guildDelete _, .channel _ => true
  | .guildDelete _, .allChannelIds => true
  | .channelDelete c, .channelMessages channelId => channelId = c.id
  | .channelDelete _, .allChannelIds => true
  | _, _ => false

theorem Event.IsWellNamed.isPlain_root {e : Event} (he : e.IsWellNamed) {k : Key}
    (hk : e.root = some k) : k.IsPlain := by
  cases e <;> cases hk <;> exact he.1

namespace Tables

/-- What an event may leave behind that was not applied to its end. Mostly the event still leads
where it would have led. But the record may be gone that told which channels a guild has or that a
channel is there. -/
inductive Interrupted (settings : CacheSettings) (botId : String) (t : Tables) :
    Event → Tables → Prop
  | whole {e : Event} {t' : Tables} : t'.Sound →
      (t'.updated settings botId e).content = (t.updated settings botId e).content →
      Interrupted settings botId t e t'
  | guildGone {payload g : Guild} {t' : Tables} : t.guild payload.id = some g →
      LosesGuild payload.id (g.channelList.map (·.id)) t t' →
      Interrupted settings botId t (.guildDelete payload) t'
  | channelGone {payload c : Channel} {t' : Tables} : t.channel payload.id = some c →
      LosesChannel payload.id t t' → Interrupted settings botId t (.channelDelete payload) t'

variable {settings : CacheSettings} {botId : String} {t t' : Tables} {e : Event}

theorem content_removeGuild_congr (t : Tables) (payload : Guild) (ids ids' : List String) {k : Key}
    (hk : (Event.guildDelete payload).needsRootFor k = false) :
    (t.removeGuild payload.id ids).content k = (t.removeGuild payload.id ids').content k := by
  cases k <;> first | rfl | cases hk

theorem Interrupted.sound (h : t.Interrupted settings botId e t') : t'.Sound := by
  cases h with
  | whole ht' _ => exact ht'
  | guildGone _ h => exact h.sound
  | channelGone _ h => exact h.sound

/-- An event that is tried again leads where it would have led, if its root is still there. -/
theorem Interrupted.content_updated_of_root (h : t.Interrupted settings botId e t')
    (hroot : ∀ k, e.root = some k → (t'.content k).value.isSome = (t.content k).value.isSome) :
    (t'.updated settings botId e).content = (t.updated settings botId e).content := by
  cases h with
  | whole _ hsame => exact hsame
  | guildGone hg h => simpa [content, Host.Content.record, hg, h.gone] using hroot _ rfl
  | channelGone hc h => simpa [content, Host.Content.record, hc, h.gone] using hroot _ rfl

/-- An event that is tried again leads where it would have led, but for what it needs its root
for. -/
theorem Interrupted.content_updated (h : t.Interrupted settings botId e t') {k : Key}
    (hk : e.needsRootFor k = false) :
    (t'.updated settings botId e).content k = (t.updated settings botId e).content k := by
  cases h with
  | whole _ hsame => rw [hsame]
  | @guildGone payload g _ hg h =>
      simp only [updated, h.gone, hg, Option.getD_none, Option.getD_some, ← h.same]
      exact content_removeGuild_congr t' payload _ _ hk
  | @channelGone payload c _ hc h =>
      have hidle : t'.loseChannel payload.id = t' := by simp only [loseChannel, h.gone]
      simp only [updated, hidle, ← h.same]
      cases k with
      | channel id =>
          refine congrArg Host.Content.record ?_
          by_cases hid : id = payload.id
          · simp [removeChannel, hid, h.gone]
          · simp [removeChannel, hid, setMessages]
      | channelMessages id =>
          have hid : id ≠ payload.id := of_decide_eq_false hk
          simp [content, removeChannel, setMessages, hid]
      | allChannelIds => cases hk
      | _ => rfl

/-- Without its root an event leaves alone what it needs it for. -/
theorem content_updated_of_no_root {root : Key} (hroot : e.root = some root)
    (hgone : (t.content root).value = none)
    (hdelete : ∀ g, e = .guildDelete g → g.channelList = []) {k : Key}
    (hk : e.needsRootFor k = true) :
    (t.updated settings botId e).content k = t.content k := by
  cases e with
  | guildDelete g =>
      cases hroot
      have hg : t.guild g.id = none := Option.map_eq_none_iff.mp hgone
      simp only [updated, hg, Option.getD_none, hdelete g rfl, List.map_nil]
      cases k <;> cases hk <;> simp [content, removeGuild]
  | channelDelete c =>
      cases hroot
      have hc : t.channel c.id = none := Option.map_eq_none_iff.mp hgone
      simp only [updated, loseChannel, hc]
  | _ => cases hk

end Tables

end GuildRelay
