import GuildRelay.Cache.Update
import GuildRelay.Proofs.Cache.Tables
import GuildRelay.Proofs.Guild.Merge
import Mathlib.Data.List.Nodup
/-!
# Changes of the tables

What handlers make of the tables, as functions: `Tables.takeGuild`, `Tables.removeGuild`,
`Tables.storeMember`, `Tables.removeMember` and the smaller changes that they are made of. Handlers
write several records one after the other; here such a loop is one change, in which the last of the
records with an id is kept (`lastWith`), and `foldl_setChannel` and its siblings say that this is
what the loop comes to.

Handlers write under the id that a cached record carries, and drop what cached records name. Tables
are sound when this does no harm (`Tables.Sound`): records carry the id that they are kept under,
and all ids that keys are made of are plain. `Event.IsWellNamed` asks the same of events.
-/

namespace GuildRelay

/-! ## Ids -/

/-- The ids of the channel are plain. -/
def Channel.IsWellNamed (c : Channel) : Prop :=
  PlainId c.id ∧ PlainId c.guildId

/-- The ids of the member are plain. -/
def Member.IsWellNamed (m : Member) : Prop :=
  PlainId m.guildId ∧ PlainId m.user.id

instance (c : Channel) : Decidable c.IsWellNamed :=
  inferInstanceAs (Decidable (_ ∧ _))

instance (m : Member) : Decidable m.IsWellNamed :=
  inferInstanceAs (Decidable (_ ∧ _))

/-- The ids of the guild, its channels and its members are plain. -/
def Guild.IsWellNamed (g : Guild) : Prop :=
  PlainId g.id ∧ (∀ c ∈ g.channelList, c.IsWellNamed) ∧ ∀ m ∈ g.memberList, m.IsWellNamed

/-- The ids of guilds, channels and users in the event are plain. -/
def Event.IsWellNamed : Event → Prop
  | .ready r =>
    PlainId r.user.id ∧ (∀ g ∈ r.guilds, g.IsWellNamed) ∧ ∀ c ∈ r.privateChannels, c.IsWellNamed
  | .guildCreate g => g.IsWellNamed
  | .guildUpdate g => g.IsWellNamed
  | .guildDelete g => g.IsWellNamed
  | .guildMemberAdd m => m.IsWellNamed
  | .guildMemberUpdate m => m.IsWellNamed
  | .guildMemberRemove m => m.IsWellNamed
  | .guildMembersChunk guildId members => PlainId guildId ∧ ∀ m ∈ members, PlainId m.user.id
  | .guildRoleCreate guildId _ => PlainId guildId
  | .guildRoleUpdate guildId _ => PlainId guildId
  | .guildRoleDelete guildId _ => PlainId guildId
  | .guildEmojisUpdate guildId _ => PlainId guildId
  | .guildBanAdd guildId _ => PlainId guildId
  | .guildBanRemove guildId _ => PlainId guildId
  | .channelCreate c => c.IsWellNamed
  | .channelUpdate c => c.IsWellNamed
  | .channelDelete c => c.IsWellNamed
  | .channelPinsUpdate p => PlainId p.channelId
  | .presenceUpdate guildId p => PlainId guildId ∧ PlainId p.user.id
  | .messageCreate m => PlainId m.channelId
  | _ => True

namespace Tables

/-- Records carry the ids that they are kept under, and the ids that they name are plain. -/
structure Sound (t : Tables) : Prop where
  guild_id : ∀ {g r}, t.guild g = some r → r.id = g
  guild_channel : ∀ {g r}, t.guild g = some r → ∀ c ∈ r.channelList, PlainId c.id
  member_user : ∀ {g u m}, t.member g u = some m → m.user.id = u
  member_guild : ∀ {g u m}, t.member g u = some m → PlainId m.guildId
  channel_id : ∀ {c r}, t.channel c = some r → r.id = c
  channel_guild : ∀ {c r}, t.channel c = some r → PlainId r.guildId
  user_id : ∀ {u r}, t.user u = some r → r.id = u
  guildIds : ∀ g ∈ t.guildIds, PlainId g
  userIds : ∀ u ∈ t.userIds, PlainId u
  channelIds : ∀ c ∈ t.channelIds, PlainId c

end Tables

theorem PlainId.unlessBlank {new cached : String} (hnew : PlainId new) (hcached : PlainId cached) :
    PlainId (unlessBlank new cached) := by
  unfold GuildRelay.unlessBlank
  split
  · exact hcached
  · exact hnew

/-- Filling in ids keeps the ids of channels and members plain. -/
theorem Guild.IsWellNamed.fillIds {g : Guild} (h : g.IsWellNamed) : g.fillIds.IsWellNamed := by
  obtain ⟨hg, hcs, hms⟩ := h
  refine ⟨hg, ?_, ?_⟩
  · rw [Guild.channelList_fillIds]
    refine List.forall_mem_map.mpr fun c hc => ?_
    exact ⟨(hcs c hc).1, (hcs c hc).2.unlessBlank hg⟩
  · rw [Guild.memberList_fillIds]
    refine List.forall_mem_map.mpr fun m hm => ?_
    exact ⟨(hms m hm).1.unlessBlank hg, (hms m hm).2⟩

/-! ## Items by their ids -/

/-- The last item with an id. -/
def lastWith {α : Type} (idOf : α → String) (id : String) (items : List α) : Option α :=
  items.reverse.find? fun a => idOf a == id

section LastWith

variable {α : Type} {idOf : α → String} {id : String} {items : List α} {a : α}

theorem lastWith_cons (idOf : α → String) (id : String) (a : α) (items : List α) :
    lastWith idOf id (a :: items)
      = (lastWith idOf id items).or (if idOf a = id then some a else none) := by
  simp only [lastWith, List.reverse_cons, List.find?_append, List.find?_singleton, beq_iff_eq]

theorem lastWith_concat (idOf : α → String) (id : String) (items : List α) (a : α) :
    lastWith idOf id (items ++ [a]) = if idOf a = id then some a else lastWith idOf id items := by
  by_cases h : idOf a = id <;> simp [lastWith, h]

theorem mem_of_lastWith (h : lastWith idOf id items = some a) : a ∈ items ∧ idOf a = id :=
  ⟨List.mem_reverse.mp (List.mem_of_find?_eq_some h),
    beq_iff_eq.mp (List.find?_some (p := fun a => idOf a == id) h)⟩

theorem lastWith_eq_none_iff : lastWith idOf id items = none ↔ id ∉ items.map idOf := by
  simp only [lastWith, List.find?_eq_none, List.mem_reverse, beq_iff_eq, List.mem_map, not_exists,
    not_and]

theorem isSome_lastWith : (lastWith idOf id items).isSome ↔ id ∈ items.map idOf := by
  rw [← not_iff_not, ← lastWith_eq_none_iff, Option.not_isSome_iff_eq_none]

theorem lastWith_of_nodup (hnodup : (items.map idOf).Nodup) (ha : a ∈ items) :
    lastWith idOf (idOf a) items = some a := by
  cases h : lastWith idOf (idOf a) items with
  | none => exact absurd (List.mem_map_of_mem ha) (lastWith_eq_none_iff.mp h)
  | some b =>
      obtain ⟨hb, hid⟩ := mem_of_lastWith h
      rw [List.inj_on_of_nodup_map hnodup hb ha hid]

end LastWith

/-! ## Changes of tables -/

namespace Tables

variable (t : Tables)

/-- A user record is replaced. -/
def setUser (u : User) : Tables :=
  (Slot.user u.id).put (some u) t

/-- A guild record is replaced, which is not indexed again. -/
def setGuild (g : Guild) : Tables :=
  (Slot.guild g.id).put (some g) t

/-- A channel record is replaced, which is not indexed again. -/
def setChannel (c : Channel) : Tables :=
  (Slot.channel c.id).put (some c) t

/-- Channel records are replaced. -/
def setChannels (cs : List Channel) : Tables :=
  { t with channel := fun id => (lastWith (·.id) id cs).or (t.channel id) }

/-- Channels are kept and indexed. -/
def putChannels (cs : List Channel) : Tables :=
  { t.setChannels cs with channelIds := insertAll (cs.map (·.id)) t.channelIds }

/-- Member records of a guild are replaced, and the records of their users. -/
def setMembers (guildId : String) (ms : List Member) : Tables :=
  { t with
    member := fun g u =>
      if g = guildId then (lastWith (·.user.id) u ms).or (t.member g u) else t.member g u
    user := fun u => ((lastWith (·.user.id) u ms).map (·.user)).or (t.user u) }

/-- Members of a guild are kept with their users, and indexed. -/
def putMembers (guildId : String) (ms : List Member) : Tables :=
  { t.setMembers guildId ms with
    userIds := insertAll (ms.map (·.user.id)) t.userIds
    guildUserIds := fun g =>
      if g = guildId then insertAll (ms.map (·.user.id)) (t.guildUserIds guildId)
      else t.guildUserIds g }

/-- A guild is kept and indexed. -/
def putGuild (g : Guild) : Tables :=
  { t.setGuild g with guildIds := insertAll [g.id] t.guildIds }

/-- A bot may read the bans of a guild, by the records of the two. -/
def mayReadBans (botId guildId : String) : Bool :=
  match t.guild guildId with
  | some g =>
    if botId = g.ownerId then Permissions.all.contains .banRead
    else (t.member guildId botId).any fun m => (g.memberPermissions m).contains .banRead
  | none => false

/-- A bot is noted in a guild. -/
def addBot (guildId botId : String) : Tables :=
  { t with
    guildBotIds := fun id =>
      if botId.isEmpty = false ∧ id = guildId then insertAll [botId] (t.guildBotIds guildId)
      else t.guildBotIds id }

/-- The guild of a payload is kept with its channels and members, completed from a cached one. -/
def takeGuild (botId : String) (payload : Guild) (cached : Option Guild) : Tables :=
  let g := payload.fillIds
  (((t.putChannels g.channelList).putMembers g.id g.memberList).putGuild
    (g.carryOver cached)).addBot g.id botId

/-- A channel is gone from the records and from the index. -/
def dropChannel (channelId : String) : Tables :=
  { (Slot.channel channelId).put none t with
    channelIds := t.channelIds.filter (· != channelId) }

/-- A guild, the channels with some ids and the indexed members are gone. -/
def removeGuild (guildId : String) (channelIds : List String) : Tables :=
  { t with
    guild := fun g => if g = guildId then none else t.guild g
    guildIds := t.guildIds.filter (· != guildId)
    channel := fun c => if c ∈ channelIds then none else t.channel c
    channelIds := t.channelIds.filter (· ∉ channelIds)
    member := fun g u =>
      if g = guildId ∧ u ∈ t.guildUserIds guildId then none else t.member g u
    guildUserIds := fun g => if g = guildId then [] else t.guildUserIds g
    guildBotIds := fun g => if g = guildId then [] else t.guildBotIds g
    guildBannedUserIds := fun g => if g = guildId then [] else t.guildBannedUserIds g
    banInitializedGuildIds := t.banInitializedGuildIds.filter (· != guildId) }

/-- A member is kept with the user, embedded in the guild and indexed. -/
def storeMember (g : Guild) (m : Member) : Tables :=
  (t.setGuild (g.addMember m)).putMembers g.id [m]

/-- A user is a member of one of the indexed guilds other than `guildId`. -/
def isMemberElsewhere (guildId userId : String) : Bool :=
  t.guildIds.any fun g => g != guildId && (t.guildUserIds g).contains userId

/-- A member is gone from the records and from the index of the guild. -/
def dropMember (guildId userId : String) : Tables :=
  { (Slot.member guildId userId).put none t with
    guildUserIds := fun id =>
      if id = guildId then (t.guildUserIds guildId).filter (· != userId) else t.guildUserIds id }

/-- A user is gone from the records and from the index. -/
def dropUser (userId : String) : Tables :=
  { (Slot.user userId).put none t with userIds := t.userIds.filter (· != userId) }

/-- A member is gone, and the user too if no other guild has them. -/
def removeMember (g : Guild) (userId : String) : Tables :=
  if (t.dropMember g.id userId).isMemberElsewhere g.id userId then
    (t.dropMember g.id userId).setGuild (g.removeMember userId)
  else ((t.dropMember g.id userId).dropUser userId).setGuild (g.removeMember userId)

/-- The messages of a channel are replaced. -/
def setMessages (channelId : String) (messages : List Message) : Tables :=
  { t with messages := fun id => if id = channelId then messages else t.messages id }

/-- A channel is gone with its messages. -/
def removeChannel (channelId : String) : Tables :=
  { t.setMessages channelId [] with
    channel := fun id => if id = channelId then none else t.channel id
    channelIds := t.channelIds.filter (· != channelId) }

/-- A message is the newest of its channel, whose others are kept up to some number. -/
def addMessage (settings : CacheSettings) (m : Message) : Tables :=
  let last := min (settings.maxChannelMessages - 1) Cache.lastPosition
  t.setMessages m.channelId (slice 0 last (m :: t.messages m.channelId))

end Tables

/-! ## Where a record comes from -/

namespace Tables

variable {t : Tables}

theorem guild_setGuild {g r : Guild} {id : String} (h : (t.setGuild g).guild id = some r) :
    (id = g.id ∧ r = g) ∨ (id ≠ g.id ∧ t.guild id = some r) := by
  simp only [setGuild, Slot.guild] at h
  split at h
  · next hid => exact .inl ⟨hid, (Option.some.inj h).symm⟩
  · next hid => exact .inr ⟨hid, h⟩

theorem channel_setChannel {c r : Channel} {id : String}
    (h : (t.setChannel c).channel id = some r) :
    (id = c.id ∧ r = c) ∨ t.channel id = some r := by
  simp only [setChannel, Slot.channel] at h
  split at h
  · next hid => exact .inl ⟨hid, (Option.some.inj h).symm⟩
  · exact .inr h

theorem channel_setChannels {cs : List Channel} {id : String} {c : Channel}
    (h : (t.setChannels cs).channel id = some c) :
    (c ∈ cs ∧ c.id = id) ∨ t.channel id = some c := by
  rcases Option.or_eq_some_iff.mp h with h | ⟨-, h⟩
  · exact .inl (mem_of_lastWith h)
  · exact .inr h

theorem member_setMembers {guildId g u : String} {ms : List Member} {m : Member}
    (h : (t.setMembers guildId ms).member g u = some m) :
    (g = guildId ∧ m ∈ ms ∧ m.user.id = u) ∨ t.member g u = some m := by
  simp only [setMembers] at h
  split at h
  · next hg =>
    rcases Option.or_eq_some_iff.mp h with h | ⟨-, h⟩
    · exact .inl ⟨hg, mem_of_lastWith h⟩
    · exact .inr h
  · exact .inr h

theorem user_setMembers (guildId : String) {u : String} {ms : List Member} {r : User}
    (h : (t.setMembers guildId ms).user u = some r) :
    (∃ m ∈ ms, m.user = r ∧ r.id = u) ∨ t.user u = some r := by
  rcases Option.or_eq_some_iff.mp h with h | ⟨-, h⟩
  · obtain ⟨m, hm, rfl⟩ := Option.map_eq_some_iff.mp h
    obtain ⟨hmem, hid⟩ := mem_of_lastWith hm
    exact .inl ⟨m, hmem, rfl, hid⟩
  · exact .inr h

end Tables

/-! ## Loops -/

namespace Tables

theorem foldl_setChannel (cs : List Channel) (t : Tables) :
    cs.foldl (fun t c => t.setChannel c) t = t.setChannels cs := by
  induction cs generalizing t with
  | nil => rfl
  | cons c cs ih =>
      rw [List.foldl_cons, ih]
      refine congrArg (fun f => { t with channel := f }) (funext fun id => ?_)
      rw [lastWith_cons, Option.or_assoc]
      by_cases h : id = c.id
      · simp [setChannel, Slot.channel, h]
      · simp [setChannel, Slot.channel, h, Ne.symm h]

theorem foldl_setMember (guildId : String) (ms : List Member) (t : Tables) :
    ms.foldl (fun t m => ((Slot.member guildId m.user.id).put (some m) t).setUser m.user) t
      = t.setMembers guildId ms := by
  induction ms generalizing t with
  | nil => simp [setMembers, lastWith]
  | cons m ms ih =>
      rw [List.foldl_cons, ih]
      refine congrArg₂ (fun f f' => { t with member := f, user := f' })
        (funext₂ fun g u => ?_) (funext fun u => ?_)
      · by_cases hg : g = guildId
        · rw [if_pos hg, if_pos hg, lastWith_cons, Option.or_assoc]
          by_cases hu : u = m.user.id
          · simp [setUser, Slot.user, Slot.member, hg, hu]
          · simp [setUser, Slot.user, Slot.member, hu, Ne.symm hu]
        · simp [setUser, Slot.user, Slot.member, hg]
      · rw [lastWith_cons]
        by_cases hu : u = m.user.id
        · cases lastWith (·.user.id) u ms <;> simp [setUser, Slot.user, Slot.member, hu]
        · cases lastWith (·.user.id) u ms <;>
            simp [setUser, Slot.user, Slot.member, hu, Ne.symm hu]

theorem foldl_dropChannel (cs : List Channel) (t : Tables) :
    cs.foldl (fun t c => t.dropChannel c.id) t
      = { t with
          channel := fun id => if id ∈ cs.map (·.id) then none else t.channel id
          channelIds := t.channelIds.filter (· ∉ cs.map (·.id)) } := by
  induction cs generalizing t with
  | nil => simp
  | cons c cs ih =>
      rw [List.foldl_cons, ih]
      refine congrArg₂ (fun f ids => { t with channel := f, channelIds := ids })
        (funext fun id => ?_) ?_
      · by_cases h : id = c.id <;> simp [dropChannel, Slot.channel, h]
      · simp only [dropChannel, List.filter_filter]
        refine List.filter_congr fun id _ => ?_
        by_cases h : id = c.id <;> simp [h]

theorem foldl_dropMemberRecord (guildId : String) (userIds : List String) (t : Tables) :
    userIds.foldl (fun t u => (Slot.member guildId u).put none t) t
      = { t with
          member := fun g u => if g = guildId ∧ u ∈ userIds then none else t.member g u } := by
  induction userIds generalizing t with
  | nil => simp
  | cons u us ih =>
      rw [List.foldl_cons, ih]
      refine congrArg (fun f => { t with member := f }) (funext₂ fun g u' => ?_)
      by_cases hg : g = guildId <;> by_cases hu : u' = u <;> simp [Slot.member, hg, hu]

theorem setMessages_setMessages (t : Tables) (channelId : String) (ms ms' : List Message) :
    (t.setMessages channelId ms).setMessages channelId ms' = t.setMessages channelId ms' := by
  refine congrArg (fun f => { t with messages := f }) (funext fun id => ?_)
  by_cases h : id = channelId <;> simp [setMessages, h]

end Tables

end GuildRelay
