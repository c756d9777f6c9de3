import GuildRelay.Proofs.Cache.Outcome
/-!
# What updates leave out

An update may leave out when a member joined, or the overwrites and the messages of a channel. An
event about the one member or channel then leaves the cached value where it is, and so do presences
and chunks. Members and channels that come along with a guild, or with the start of a connection,
are taken as they come: what is left out there is gone from the records.

The question is where a record comes from when an event is over. For channels there are four answers
(`Tables.ChannelSource`). For members only the time of joining is followed, and it is the old one
with at most a new one in front of it (`Tables.FillsJoin`), or that of a member that came along.
-/

namespace GuildRelay

/-! ## What events bring along -/

namespace Event

/-- The private channels that the event brings. -/
def privateChannels : Event → List Channel
  | .ready r => r.privateChannels
  | _ => []

/-- The channel that the event is about, as the event has it. -/
def ownChannel : Event → Option Channel
  | .channelCreate c => some c
  | .channelUpdate c => some c
  | _ => none

/-- The channels that come along with a guild or with the start of a connection. -/
def bundledChannels (e : Event) : List Channel :=
  e.guilds.flatMap (·.channelList) ++ e.privateChannels

/-- The members that come along with a guild. -/
def bundledMembers (e : Event) (guildId : String) : List Member :=
  (e.guilds.filter fun g => g.id == guildId).flatMap (·.memberList)

theorem mem_bundledMembers {e : Event} {g : Guild} {m : Member} (hg : g ∈ e.guilds)
    (hm : m ∈ g.memberList) : m ∈ e.bundledMembers g.id :=
  List.mem_flatMap.mpr ⟨g, List.mem_filter.mpr ⟨hg, beq_self_eq_true g.id⟩, hm⟩

/-- A field of a channel is after the event what it was before, unless the event tells a value of it
or brings the channel along without one. -/
def Leaves {α : Type} (e : Event) (field : Channel → Option α) (c c' : Channel) : Prop :=
  (field c).isSome → field c' = field c
    ∨ (∃ new, (new ∈ e.bundledChannels ∨ e.ownChannel = some new) ∧ new.id = c.id
      ∧ (field new).isSome)
    ∨ ∃ new ∈ e.bundledChannels, new.id = c.id ∧ field new = none

end Event

namespace Tables

variable {t t' t'' : Tables} {e : Event} {botId : String}

/-! ## Where a record comes from -/

/-- What is found after going through a list was there before, or one of the items is its source. -/
theorem foldl_source {σ β γ : Type} (find : σ → Option γ) (IsFrom : γ → β → Prop)
    {step : σ → β → σ}
    (hstep : ∀ st b r, find (step st b) = some r → find st = some r ∨ IsFrom r b) {r : γ} :
    ∀ (bs : List β) {st : σ}, find (bs.foldl step st) = some r →
      find st = some r ∨ ∃ b ∈ bs, IsFrom r b
  | [], _, h => .inl h
  | b :: bs, st, h => by
      rcases foldl_source find IsFrom hstep bs h with h | ⟨b', hb', hfrom⟩
      · exact (hstep st b r h).imp_right fun hfrom => ⟨b, List.mem_cons_self, hfrom⟩
      · exact .inr ⟨b', List.mem_cons_of_mem b hb', hfrom⟩

theorem foldl_keeps {σ β γ : Type} (part : σ → γ) {step : σ → β → σ}
    (hstep : ∀ st b, part (step st b) = part st) :
    ∀ (bs : List β) (st : σ), part (bs.foldl step st) = part st
  | [], _ => rfl
  | b :: bs, st => (foldl_keeps part hstep bs (step st b)).trans (hstep st b)

theorem channel_takeGuild {payload : Guild} {cached : Option Guild} {id : String} {c' : Channel}
    (h : (t.takeGuild botId payload cached).channel id = some c') :
    t.channel id = some c'
      ∨ ∃ new ∈ payload.channelList, new.id = id ∧ c' = { new with guildId := c'.guildId } := by
  have h : (t.setChannels payload.fillIds.channelList).channel id = some c' := h
  rcases channel_setChannels h with ⟨hc, hid⟩ | h
  · rw [Guild.channelList_fillIds] at hc
    obtain ⟨new, hnew, rfl⟩ := List.mem_map.mp hc
    exact .inr ⟨new, hnew, hid, rfl⟩
  · exact .inl h

theorem member_takeGuild {payload : Guild} {cached : Option Guild} {g u : String} {m' : Member}
    (h : (t.takeGuild botId payload cached).member g u = some m') :
    t.member g u = some m' ∨ (payload.id = g
      ∧ ∃ new ∈ payload.memberList, new.user.id = u ∧ m'.joinedAt = new.joinedAt) := by
  have h : (t.setMembers payload.id payload.fillIds.memberList).member g u = some m' := h
  rcases member_setMembers h with ⟨hg, hm, hu⟩ | h
  · rw [Guild.memberList_fillIds] at hm
    obtain ⟨new, hnew, rfl⟩ := List.mem_map.mp hm
    exact .inr ⟨hg.symm, new, hnew, hu, rfl⟩
  · exact .inl h

theorem channel_takeMember (m : Member) : (t.takeMember m).channel = t.channel := by
  unfold takeMember
  split <;> rfl

theorem channel_takePresence (guildId : String) (p : Presence) :
    (t.takePresence guildId p).channel = t.channel := by
  unfold takePresence
  split
  · split
    · rfl
    · exact channel_takeMember _
  · rfl

theorem channel_changeGuild (guildId : String) (change : Guild → Guild) :
    (t.changeGuild guildId change).channel = t.channel := by
  unfold changeGuild
  split <;> rfl

theorem channel_removeMember (g : Guild) (userId : String) :
    (t.removeMember g userId).channel = t.channel := by
  unfold removeMember
  split <;> rfl

theorem member_changeGuild (guildId : String) (change : Guild → Guild) :
    (t.changeGuild guildId change).member = t.member := by
  unfold changeGuild
  split <;> rfl

theorem member_takeChannel (c : Channel) : (t.takeChannel c).member = t.member := by
  unfold takeChannel
  dsimp only
  split
  · rfl
  · split <;> rfl

theorem member_loseChannel (channelId : String) : (t.loseChannel channelId).member = t.member := by
  unfold loseChannel
  split
  · split
    · rfl
    · split <;> rfl
  · rfl

theorem member_takePins (p : ChannelPins) : (t.takePins p).member = t.member := by
  unfold takePins
  split <;> rfl

theorem member_of_removeMember {guild : Guild} {userId g u : String} {m' : Member}
    (h : (t.removeMember guild userId).member g u = some m') : t.member g u = some m' := by
  unfold removeMember at h
  split at h <;> exact (Option.ite_none_left_eq_some.mp h).2

/-! ## Channels -/

/-- Where the record of a channel comes from when an event is over. -/
inductive ChannelSource (t : Tables) (e : Event) (id : String) (c' : Channel) : Prop
  | cached : t.channel id = some c' → t.ChannelSource e id c'
  | bundled {new : Channel} : new ∈ e.bundledChannels → new.id = id →
      c' = { new with guildId := c'.guildId } → t.ChannelSource e id c'
  | own {new : Channel} : e.ownChannel = some new → new.id = id →
      c' = new.carryOver (t.channel id) → t.ChannelSource e id c'
  | pinned {c : Channel} : t.channel id = some c →
      c' = { c with lastPinTimestamp := c'.lastPinTimestamp } → t.ChannelSource e id c'

theorem ChannelSource.of_takeGuild {payload : Guild} {cached : Option Guild} {id : String}
    {c' : Channel} (hp : payload ∈ e.guilds)
    (h : (t.takeGuild botId payload cached).channel id = some c') : t.ChannelSource e id c' := by
  rcases channel_takeGuild h with h | ⟨new, hnew, hid, hc'⟩
  · exact .cached h
  · exact .bundled (List.mem_append_left _ (List.mem_flatMap.mpr ⟨payload, hp, hnew⟩)) hid hc'

theorem ChannelSource.of_takeReady {r : Ready} {id : String} {c' : Channel}
    (h : (t.takeReady botId r).channel id = some c') : t.ChannelSource (.ready r) id c' := by
  rcases channel_setChannels h with ⟨hc, hid⟩ | h
  · exact .bundled (List.mem_append_right _ hc) hid rfl
  · rcases foldl_source (fun t : Tables => t.channel id) (fun c' (g : Guild) =>
        ∃ new ∈ g.channelList, new.id = id ∧ c' = { new with guildId := c'.guildId })
      (fun _ _ _ h => channel_takeGuild h) r.guilds h with h | ⟨g, hg, new, hnew, hid, hc'⟩
    · exact .cached h
    · exact .bundled (List.mem_append_left _ (List.mem_flatMap.mpr ⟨g, hg, hnew⟩)) hid hc'

theorem ChannelSource.of_takeChannel {new : Channel} {id : String} {c' : Channel}
    (hown : e.ownChannel = some new) (h : (t.takeChannel new).channel id = some c') :
    t.ChannelSource e id c' := by
  have hput : ∀ t' : Tables, t'.channel = t.channel →
      (t'.putChannels [new.carryOver (t.channel new.id)]).channel id = some c' →
      t.ChannelSource e id c' := by
    intro t' ht' h
    rcases channel_setChannels h with ⟨hc, hid⟩ | h
    · obtain rfl := List.mem_singleton.mp hc
      rw [Channel.carryOver_id] at hid
      exact .own hown hid (by rw [hid])
    · exact .cached (ht' ▸ h)
  unfold takeChannel at h
  dsimp only at h
  split at h
  · exact hput t rfl h
  · split at h
    · exact hput _ rfl h
    · exact .cached h

theorem ChannelSource.of_loseChannel {channelId id : String} {c' : Channel}
    (h : (t.loseChannel channelId).channel id = some c') : t.ChannelSource e id c' := by
  have hgone : ∀ t' : Tables, t'.channel = t.channel →
      (t'.removeChannel channelId).channel id = some c' → t.ChannelSource e id c' := by
    intro t' ht' h
    exact .cached (ht' ▸ (Option.ite_none_left_eq_some.mp h).2)
  unfold loseChannel at h
  split at h
  · split at h
    · exact hgone t rfl h
    · split at h
      · exact hgone _ rfl h
      · exact .cached h
  · exact .cached h

theorem ChannelSource.of_takePins (ht : t.Sound) {p : ChannelPins} {id : String} {c' : Channel}
    (h : (t.takePins p).channel id = some c') : t.ChannelSource e id c' := by
  unfold takePins at h
  split at h
  · next c hc =>
    rcases channel_setChannel h with ⟨hid, rfl⟩ | h
    · refine .pinned (c := c) ?_ rfl
      rw [hid]
      exact (ht.channel_id hc).symm ▸ hc
    · exact .cached h
  · exact .cached h

theorem channelSource_updated (ht : t.Sound) {settings : CacheSettings} {id : String}
    {c' : Channel} (h : (t.updated settings botId e).channel id = some c') :
    t.ChannelSource e id c' := by
  have hsame : (t.updated settings botId e).channel = t.channel → t.ChannelSource e id c' :=
    fun heq => .cached (heq ▸ h)
  cases e with
  | ready r => exact .of_takeReady h
  | guildCreate g => exact .of_takeGuild List.mem_cons_self h
  | guildUpdate g => exact .of_takeGuild List.mem_cons_self h
  | guildDelete g => exact .cached (Option.ite_none_left_eq_some.mp h).2
  | guildMemberAdd m => exact hsame (channel_takeMember m)
  | guildMemberUpdate m => exact hsame (channel_takeMember m)
  | guildMemberRemove m =>
      refine hsame ?_
      simp only [updated]
      split
      · exact channel_removeMember _ _
      · rfl
  | guildMembersChunk guildId members =>
      exact hsame (foldl_keeps (fun t : Tables => t.channel)
        (fun _ _ => channel_takeMember _) members t)
  | guildRoleCreate guildId r => exact hsame (channel_changeGuild _ _)
  | guildRoleUpdate guildId r => exact hsame (channel_changeGuild _ _)
  | guildRoleDelete guildId roleId => exact hsame (channel_changeGuild _ _)
  | guildEmojisUpdate guildId emojis =>
      exact hsame (foldl_keeps (fun t : Tables => t.channel)
        (fun _ _ => channel_changeGuild _ _) emojis t)
  | guildBanAdd guildId u => exact hsame (by simp only [updated]; split <;> rfl)
  | guildBanRemove guildId u => exact hsame (by simp only [updated]; split <;> rfl)
  | channelCreate c => exact .of_takeChannel rfl h
  | channelUpdate c => exact .of_takeChannel rfl h
  | channelDelete c => exact .of_loseChannel h
  | channelPinsUpdate p => exact .of_takePins ht h
  | presenceUpdate guildId p => exact hsame (channel_takePresence guildId p)
  | messageCreate m => exact hsame (by simp only [updated]; split <;> rfl)
  | _ => exact .cached h

/-- A field that is carried over, and that nothing else writes to, is left where it is. -/
theorem ChannelSource.leaves {α : Type} {field : Channel → Option α}
    (hcarry : ∀ new c : Channel, field (new.carryOver (some c)) = (field new).or (field c))
    (hpin : ∀ (c : Channel) lastPinTimestamp, field { c with lastPinTimestamp } = field c)
    (ht : t.Sound) {id : String} {c c' : Channel} (hc : t.channel id = some c)
    (h : t.ChannelSource e id c') : e.Leaves field c c' := by
  intro _
  have hid := ht.channel_id hc
  cases h with
  | cached h =>
      cases hc.symm.trans h
      exact .inl rfl
  | @bundled new hnew hnewId hc' =>
      cases hfield : field new with
      | some x =>
          exact .inr (.inl ⟨new, .inl hnew, hnewId.trans hid.symm, Option.isSome_of_eq_some hfield⟩)
      | none => exact .inr (.inr ⟨new, hnew, hnewId.trans hid.symm, hfield⟩)
  | @own new hown hnewId hc' =>
      cases hfield : field new with
      | some x =>
          exact .inr (.inl ⟨new, .inr hown, hnewId.trans hid.symm, Option.isSome_of_eq_some hfield⟩)
      | none =>
          left
          rw [hc', hc, hcarry, hfield, Option.none_or]
  | pinned h hc' =>
      cases hc.symm.trans h
      left
      rw [hc', hpin]

/-! ## Members -/

/-- When a member joined, if that is known. -/
def joinedAt (t : Tables) (guildId userId : String) : Option Timestamp :=
  (t.member guildId userId).bind (·.joinedAt)

/-- The time when a member joined is what it was, or there is a new one in its place. -/
def FillsJoin (guildId userId : String) (t t' : Tables) : Prop :=
  ∃ new, t'.joinedAt guildId userId = Option.or new (t.joinedAt guildId userId)

variable {g u : String}

theorem FillsJoin.of_eq (h : t'.member = t.member) : t.FillsJoin g u t' := by
  refine ⟨none, ?_⟩
  rw [joinedAt, h]
  rfl

theorem FillsJoin.trans (h : t.FillsJoin g u t') (h' : t'.FillsJoin g u t'') :
    t.FillsJoin g u t'' := by
  obtain ⟨new, hnew⟩ := h
  obtain ⟨new', hnew'⟩ := h'
  exact ⟨new'.or new, by rw [hnew', hnew, Option.or_assoc]⟩

theorem FillsJoin.takeMember (ht : t.Sound) (m : Member) : t.FillsJoin g u (t.takeMember m) := by
  unfold Tables.takeMember
  split
  · next guild hguild =>
    have hid := ht.guild_id hguild
    have hmember : (t.storeMember guild (m.carryOver (t.member m.guildId m.user.id))).member
        = (t.setMembers guild.id [m.carryOver (t.member m.guildId m.user.id)]).member := rfl
    by_cases hsame : g = guild.id ∧ u = m.user.id
    · refine ⟨m.joinedAt, ?_⟩
      obtain ⟨rfl, rfl⟩ := hsame
      rw [joinedAt, hmember, joinedAt, ← hid]
      cases t.member guild.id m.user.id <;>
        simp [setMembers, lastWith, Member.carryOver]
    · refine ⟨none, ?_⟩
      have hother : (t.setMembers guild.id
          [m.carryOver (t.member m.guildId m.user.id)]).member g u = t.member g u := by
        by_cases hg : g = guild.id
        · have hu : m.user.id ≠ u := fun hu => hsame ⟨hg, hu.symm⟩
          simp [setMembers, lastWith, Member.carryOver_user, hu]
        · exact if_neg hg
      rw [joinedAt, hmember, hother]
      rfl
  · exact .of_eq rfl

theorem FillsJoin.takeMembers (ht : t.Sound) {guildId : String} (hguild : PlainId guildId)
    {members : List Member} (hmembers : ∀ m ∈ members, PlainId m.user.id) :
    t.FillsJoin g u (members.foldl (fun t m => t.takeMember { m with guildId }) t) := by
  refine ht.foldl_related (fun _ => .of_eq rfl) .trans (fun m hm t ht => ?_) fun m t ht => ?_
  · exact ht.takeMember ⟨hguild, hmembers m hm⟩
  · exact .takeMember ht _

theorem FillsJoin.takePresence (ht : t.Sound) (guildId : String) (p : Presence) :
    t.FillsJoin g u (t.takePresence guildId p) := by
  unfold Tables.takePresence
  split
  · next guild hguild =>
    have hsound := ht.setGuild (g := guild.addPresence p) fun c hc =>
      ht.guild_channel hguild c hc
    split
    · exact .of_eq rfl
    · have hset : t.FillsJoin g u (t.setGuild (guild.addPresence p)) := .of_eq rfl
      exact hset.trans (.takeMember hsound _)
  · exact .of_eq rfl

/-- A member that is still there after an event joined when it did before or when the event says,
unless it came along with its guild. -/
theorem fillsJoin_updated (ht : t.Sound) (he : e.IsWellNamed) {settings : CacheSettings}
    {m' : Member} (h : (t.updated settings botId e).member g u = some m') :
    t.FillsJoin g u (t.updated settings botId e)
      ∨ ∃ new ∈ e.bundledMembers g, new.user.id = u ∧ m'.joinedAt = new.joinedAt := by
  have hcached : t.member g u = some m' → t.FillsJoin g u (t.updated settings botId e) :=
    fun hold => ⟨none, by rw [joinedAt, h, joinedAt, hold]; rfl⟩
  have hguild : ∀ payload ∈ e.guilds, ∀ (t' : Tables) cached,
      (t'.takeGuild botId payload cached).member g u = some m' → t'.member g u = some m'
        ∨ ∃ new ∈ e.bundledMembers g, new.user.id = u ∧ m'.joinedAt = new.joinedAt := by
    intro payload hp t' cached h
    refine (member_takeGuild h).imp_right ?_
    rintro ⟨rfl, new, hnew, hjoin⟩
    exact ⟨new, Event.mem_bundledMembers hp hnew, hjoin⟩
  cases e with
  | ready r =>
      have h : (r.guilds.foldl (fun t g => t.takeGuild botId g none) (t.setUser r.user)).member g u
          = some m' := h
      rcases foldl_source (fun t : Tables => t.member g u) (fun m' payload => payload.id = g
          ∧ ∃ new ∈ payload.memberList, new.user.id = u ∧ m'.joinedAt = new.joinedAt)
        (fun _ _ _ h => member_takeGuild h) r.guilds h
        with hold | ⟨payload, hp, rfl, new, hnew, hjoin⟩
      · exact .inl (hcached hold)
      · exact .inr ⟨new, Event.mem_bundledMembers hp hnew, hjoin⟩
  | guildCreate payload => exact (hguild payload List.mem_cons_self t _ h).imp_left hcached
  | guildUpdate payload => exact (hguild payload List.mem_cons_self t _ h).imp_left hcached
  | guildDelete payload => exact .inl (hcached (Option.ite_none_left_eq_some.mp h).2)
  | guildMemberAdd m => exact .inl (.takeMember ht m)
  | guildMemberUpdate m => exact .inl (.takeMember ht m)
  | guildMemberRemove m =>
      refine .inl (hcached ?_)
      simp only [updated] at h
      split at h
      · exact member_of_removeMember h
      · exact h
  | guildMembersChunk guildId members => exact .inl (.takeMembers ht he.1 he.2)
  | guildRoleCreate guildId r => exact .inl (.of_eq (member_changeGuild _ _))
  | guildRoleUpdate guildId r => exact .inl (.of_eq (member_changeGuild _ _))
  | guildRoleDelete guildId roleId => exact .inl (.of_eq (member_changeGuild _ _))
  | guildEmojisUpdate guildId emojis =>
      exact .inl (.of_eq (foldl_keeps (fun t : Tables => t.member)
        (fun _ _ => member_changeGuild _ _) emojis t))
  | guildBanAdd guildId u => exact .inl (.of_eq (by simp only [updated]; split <;> rfl))
  | guildBanRemove guildId u => exact .inl (.of_eq (by simp only [updated]; split <;> rfl))
  | channelCreate c => exact .inl (.of_eq (member_takeChannel c))
  | channelUpdate c => exact .inl (.of_eq (member_takeChannel c))
  | channelDelete c => exact .inl (.of_eq (member_loseChannel c.id))
  | channelPinsUpdate p => exact .inl (.of_eq (member_takePins p))
  | presenceUpdate guildId p => exact .inl (.takePresence ht guildId p)
  | messageCreate m => exact .inl (.of_eq (by simp only [updated]; split <;> rfl))
  | _ => exact .inl (.of_eq rfl)

end Tables

/-! ## Records -/

open Tables

/-- Where nothing expires, what an update leaves out stays as it was: when a member joined, and the
overwrites and the messages of a channel. It is lost only where the member or the channel comes
along with a guild or with the start of a connection, and lacks it there. -/
theorem World.Reachable.left_out_fields_stay {ns : String} {settings : CacheSettings} {w w' : World}
    (h : Reachable ns settings Event.IsWellNamed w) (hexpiry : settings.expiry = none)
    (botId : String) {e : Event} (he : e.IsWellNamed) {result : Except CacheError (Option String)}
    (hrun : Runs ns (ExceptT.run (Cache.apply settings botId e)) w result w') :
    (∀ guildId userId (m m' : Member), PlainId guildId →
      w.host.record ns (.member guildId userId) = some m →
      w'.host.record ns (.member guildId userId) = some m' → m.joinedAt.isSome →
      m'.joinedAt.isSome
        ∨ ∃ new ∈ e.bundledMembers guildId, new.user.id = userId ∧ new.joinedAt = none)
    ∧ ∀ channelId (c c' : Channel), PlainId channelId →
      w.host.record ns (.channel channelId) = some c →
      w'.host.record ns (.channel channelId) = some c' →
      e.Leaves (·.permissionOverwrites) c c' ∧ e.Leaves (·.messages) c c' := by
  have hf := CacheSettings.not_fading hexpiry
  obtain ⟨t, ht, -, hw⟩ := h.exists_updated hexpiry (fun _ => id) (I := fun _ => True) trivial
    fun _ _ _ _ _ _ => trivial
  obtain ⟨_, rfl, hw'⟩ := hrun.leads rfl
    (Cache.leads_apply_updated hf settings.surroundings_allows he ht) hw
  refine ⟨fun guildId userId m m' hplain hm hm' hjoined => ?_,
    fun channelId c c' hplain hc hc' => ?_⟩
  · have hm : t.member guildId userId = some m :=
      (hw.host.record_eq (Slot.member guildId userId) hplain hf).symm.trans hm
    have hm' : (t.updated settings botId e).member guildId userId = some m' :=
      (hw'.host.record_eq (Slot.member guildId userId) hplain hf).symm.trans hm'
    rcases fillsJoin_updated ht he hm' with ⟨new, hnew⟩ | ⟨new, hnew, hid, hjoin⟩
    · left
      rw [joinedAt, hm', joinedAt, hm, Option.bind_some, Option.bind_some] at hnew
      rw [hnew, Option.isSome_or, hjoined, Bool.or_true]
    · cases hfield : new.joinedAt with
      | some at_ => exact .inl (by rw [hjoin, hfield]; rfl)
      | none => exact .inr ⟨new, hnew, hid, hfield⟩
  · have hc : t.channel channelId = some c :=
      (hw.host.record_eq (Slot.channel channelId) hplain hf).symm.trans hc
    have hc' : (t.updated settings botId e).channel channelId = some c' :=
      (hw'.host.record_eq (Slot.channel channelId) hplain hf).symm.trans hc'
    have hsource := channelSource_updated ht hc'
    exact ⟨hsource.leaves (fun _ _ => rfl) (fun _ _ => rfl) ht hc,
      hsource.leaves (fun _ _ => rfl) (fun _ _ => rfl) ht hc⟩

namespace World

/-- Noon of some day. -/
def sampleMoment : Timestamp :=
  ⟨⟨2024, 3, 1, by decide⟩, 12, 0, 0, 0, by decide, by decide, by decide, by decide, by decide⟩

/-- The member, who is known to have joined then. -/
def sampleJoined : Member :=
  { sampleMember with joinedAt := some sampleMoment }

/-- The member under another name. -/
def sampleRenamed : Member :=
  { sampleMember with nick := "guest" }

/-- A new name for the member leaves the time of joining where it is. The guild with its members
overwrites it. -/
theorem sample_left_out_fields_stay :
    let known := sample.after "relay" {} "3" (.guildMemberUpdate sampleJoined)
    let renamed := known.after "relay" {} "3" (.guildMemberUpdate sampleRenamed)
    let resent := known.after "relay" {} "3" (.guildUpdate sampleGuild)
    (∃ m : Member, renamed.host.record "relay" (.member "1" "3") = some m ∧ m.nick = "guest"
      ∧ m.joinedAt.isSome)
    ∧ ∃ m : Member, resent.host.record "relay" (.member "1" "3") = some m ∧ m.joinedAt = none := by
  intro known renamed resent
  have hplain : PlainId "1" := by decide
  have hjoined : (Event.guildMemberUpdate sampleJoined).IsWellNamed :=
    ⟨hplain, (by decide : PlainId "3")⟩
  have hrenamed : (Event.guildMemberUpdate sampleRenamed).IsWellNamed :=
    ⟨hplain, (by decide : PlainId "3")⟩
  have hknown := sample_keepsTables.after rfl "3" hjoined
  have hbefore := hknown.record rfl (Slot.member "1" "3") hplain
  have hafter := (hknown.after rfl "3" hrenamed).record rfl (Slot.member "1" "3") hplain
  have hlost := (hknown.after rfl "3" (e := .guildUpdate sampleGuild)
    sampleGuild_isWellNamed).record rfl (Slot.member "1" "3") hplain
  refine ⟨⟨_, hafter, rfl, ?_⟩, _, hlost, rfl⟩
  have hreachable := (sample_reachable sampleGuild_isWellNamed).after "3" hjoined
  obtain ⟨hstays, -⟩ := hreachable.left_out_fields_stay rfl "3" hrenamed
    (runs_of_run _ known)
  rcases hstays "1" "3" _ _ hplain hbefore hafter rfl with hsome | ⟨new, hnew, -⟩
  · exact hsome
  · exact absurd hnew List.not_mem_nil

end World

end GuildRelay
