import GuildRelay.Proofs.Cache.Moves
/-!
# The outcome of an event

Where nothing expires, the records that a handler finds are those in the tables, and then an event
leaves the tables no choice. `Tables.updated` computes what they come to, and `leads_update_updated`
says that this is where the handlers lead, whether they succeed or fail. What two events do one
after the other is then a question about a function.

Handlers of several items go on from one item to the next and end at the first that fails. For
members and emojis all items need the same guild, so that nothing is left to do after a failure
(`Action.Leads.forM_foldl`).
-/

namespace GuildRelay

namespace Tables

variable (t : Tables)

/-- The snapshot of a connection is kept: the bot's user, the guilds and the private channels. -/
def takeReady (botId : String) (r : Ready) : Tables :=
  (r.guilds.foldl (fun t g => t.takeGuild botId g none) (t.setUser r.user)).putChannels
    r.privateChannels

/-- A guild is changed, if it is cached. -/
def changeGuild (guildId : String) (change : Guild → Guild) : Tables :=
  match t.guild guildId with
  | some g => t.setGuild (change g)
  | none => t

/-- A member is kept with what it leaves out, if its guild is cached. -/
def takeMember (payload : Member) : Tables :=
  match t.guild payload.guildId with
  | some g => t.storeMember g (payload.carryOver (t.member payload.guildId payload.user.id))
  | none => t

/-- The member that a presence tells of. -/
def memberSeen (guildId : String) (p : Presence) : Member :=
  match t.member guildId p.user.id with
  | some m => m.seen p
  | none => p.newMember guildId (t.user p.user.id)

/-- A presence is kept, and a member for whoever is not offline, if the guild is cached. -/
def takePresence (guildId : String) (p : Presence) : Tables :=
  match t.guild guildId with
  | some g =>
    if p.status = some .offline then t.setGuild (g.addPresence p)
    else (t.setGuild (g.addPresence p)).takeMember (t.memberSeen guildId p)
  | none => t

/-- A channel is kept with what it leaves out, unless it has a guild that is not cached. -/
def takeChannel (payload : Channel) : Tables :=
  let c := payload.carryOver (t.channel payload.id)
  if payload.isPrivate then t.putChannels [c]
  else
    match t.guild payload.guildId with
    | some g => (t.setGuild (g.addChannel c)).putChannels [c]
    | none => t

/-- A channel is gone, unless it has a guild that is not cached. -/
def loseChannel (channelId : String) : Tables :=
  match t.channel channelId with
  | some c =>
    if c.isPrivate then t.removeChannel channelId
    else
      match t.guild c.guildId with
      | some g => (t.setGuild (g.removeChannel channelId)).removeChannel channelId
      | none => t
  | none => t

/-- When a message was last pinned is kept, if the channel is cached. -/
def takePins (p : ChannelPins) : Tables :=
  match t.channel p.channelId with
  | some c => t.setChannel { c with lastPinTimestamp := p.lastPinTimestamp }
  | none => t

/-- The tables after an event, whether it succeeds or fails, where nothing expires. -/
def updated (settings : CacheSettings) (botId : String) : Event → Tables
  | .ready r => t.takeReady botId r
  | .guildCreate g => t.takeGuild botId g (t.guild g.id)
  | .guildUpdate g => t.takeGuild botId g (t.guild g.id)
  | .guildDelete g => t.removeGuild g.id (((t.guild g.id).getD g).channelList.map (·.id))
  | .guildMemberAdd m => t.takeMember m
  | .guildMemberUpdate m => t.takeMember m
  | .guildMemberRemove m =>
    match t.guild m.guildId with
    | some g => t.removeMember g m.user.id
    | none => t
  | .guildMembersChunk guildId members =>
    members.foldl (fun t m => t.takeMember { m with guildId }) t
  | .guildRoleCreate guildId r => t.changeGuild guildId (·.addRole r)
  | .guildRoleUpdate guildId r => t.changeGuild guildId (·.addRole r)
  | .guildRoleDelete guildId roleId => t.changeGuild guildId (·.removeRole roleId)
  | .guildEmojisUpdate guildId emojis =>
    emojis.foldl (fun t e => t.changeGuild guildId (·.addEmoji e)) t
  | .guildBanAdd guildId u =>
    if t.mayReadBans botId guildId then
      (Index.guildBanned guildId).put (insertAll [u.id] (t.guildBannedUserIds guildId)) t
    else t
  | .guildBanRemove guildId u =>
    if t.mayReadBans botId guildId then
      (Index.guildBanned guildId).put ((t.guildBannedUserIds guildId).filter (· != u.id)) t
    else t
  | .channelCreate c => t.takeChannel c
  | .channelUpdate c => t.takeChannel c
  | .channelDelete c => t.loseChannel c.id
  | .channelPinsUpdate p => t.takePins p
  | .presenceUpdate guildId p => t.takePresence guildId p
  | .messageCreate m =>
    if settings.maxChannelMessages = 0 then t else t.addMessage settings m
  | _ => t

variable {t}

/-! ## Sound outcomes -/

theorem Sound.foldl {β : Type} {step : Tables → β → Tables} {bs : List β}
    (hstep : ∀ b ∈ bs, ∀ t : Tables, t.Sound → (step t b).Sound) (ht : t.Sound) :
    (bs.foldl step t).Sound := by
  induction bs generalizing t with
  | nil => exact ht
  | cons b bs ih =>
      refine ih (fun b' hb' => hstep b' (List.mem_cons_of_mem b hb')) ?_
      exact hstep b List.mem_cons_self t ht

/-- Steps that relate sound tables to what becomes of them do so all together. -/
theorem Sound.foldl_related {R : Tables → Tables → Prop} (hrefl : ∀ t, R t t)
    (htrans : ∀ {t t' t''}, R t t' → R t' t'' → R t t'') {β : Type} {step : Tables → β → Tables}
    {bs : List β} (hsound : ∀ b ∈ bs, ∀ t : Tables, t.Sound → (step t b).Sound)
    (hstep : ∀ b t, Sound t → R t (step t b)) (ht : t.Sound) : R t (bs.foldl step t) := by
  induction bs generalizing t with
  | nil => exact hrefl t
  | cons b bs ih =>
      obtain ⟨hfirst, hrest⟩ := List.forall_mem_cons.mp hsound
      exact htrans (hstep b t ht) (ih hrest (hfirst t ht))

theorem Sound.takeReady (ht : t.Sound) (botId : String) {r : Ready}
    (hr : (Event.ready r).IsWellNamed) : (t.takeReady botId r).Sound := by
  obtain ⟨-, hguilds, hchannels⟩ := hr
  refine Sound.putChannels (.foldl (fun g hg t ht => ?_) (ht.setUser r.user)) hchannels
  exact ht.takeGuild botId (hguilds g hg) fun _ h => nomatch h

theorem Sound.changeGuild (ht : t.Sound) {guildId : String} {change : Guild → Guild}
    (hchannels : ∀ g, (change g).channels = g.channels) :
    (t.changeGuild guildId change).Sound := by
  unfold Tables.changeGuild
  split
  · next g hg =>
    refine ht.setGuild fun c hc => ht.guild_channel hg c ?_
    unfold Guild.channelList at hc ⊢
    rwa [hchannels] at hc
  · exact ht

theorem Sound.takeMember (ht : t.Sound) {m : Member} (hm : m.IsWellNamed) :
    (t.takeMember m).Sound := by
  unfold Tables.takeMember
  split
  · next g hg => exact (Cache.move_addMember (.guildMemberAdd m) hm ht hg _).sound ht
  · exact ht

theorem memberSeen_isWellNamed (ht : t.Sound) {guildId : String} {p : Presence}
    (hguild : PlainId guildId) (hp : PlainId p.user.id) : (t.memberSeen guildId p).IsWellNamed := by
  have htold : Cache.TellsOf ⟨false, false⟩ t guildId p (t.memberSeen guildId p) := by
    unfold memberSeen
    split
    · next m hm => exact .cached hm
    · next hnone => exact .fresh (.inl hnone.symm) (.inl rfl)
  exact htold.isWellNamed ht hguild hp

theorem Sound.takePresence (ht : t.Sound) {guildId : String} {p : Presence}
    (hguild : PlainId guildId) (hp : PlainId p.user.id) : (t.takePresence guildId p).Sound := by
  unfold Tables.takePresence
  split
  · next g hg =>
    have hfirst := ht.setPresence hg p
    split
    · exact hfirst
    · exact hfirst.takeMember (memberSeen_isWellNamed ht hguild hp)
  · exact ht

theorem Sound.takeChannel (ht : t.Sound) {payload : Channel} (hp : payload.IsWellNamed) :
    (t.takeChannel payload).Sound := by
  have hcarry : ∀ c ∈ [payload.carryOver (t.channel payload.id)], c.IsWellNamed := by
    intro c hc
    rw [List.mem_singleton.mp hc]
    cases t.channel payload.id <;> exact hp
  unfold Tables.takeChannel
  split
  · exact ht.putChannels hcarry
  · split
    · next g hg =>
      refine Sound.putChannels (ht.setGuild fun c hc => ?_) hcarry
      rcases mem_of_mem_replaceOrAdd hc with rfl | hc
      · exact (hcarry _ List.mem_cons_self).1
      · exact ht.guild_channel hg c hc
    · exact ht

theorem Sound.loseChannel (ht : t.Sound) (channelId : String) :
    (t.loseChannel channelId).Sound := by
  unfold Tables.loseChannel
  split
  · split
    · exact ht.removeChannel channelId
    · split
      · next g hg =>
        refine Sound.removeChannel (ht.setGuild fun c hc => ?_) channelId
        rw [Guild.channelList_removeChannel] at hc
        exact ht.guild_channel hg c (List.mem_of_mem_filter hc)
      · exact ht
  · exact ht

theorem Sound.takePins (ht : t.Sound) (p : ChannelPins) : (t.takePins p).Sound := by
  unfold Tables.takePins
  split
  · next c hc =>
    have hguild := ht.channel_guild hc
    exact ht.setChannel hguild
  · exact ht

/-- An event that brings plain ids only leaves sound tables. -/
theorem Sound.updated (ht : t.Sound) (settings : CacheSettings) (botId : String) {e : Event}
    (he : e.IsWellNamed) : (t.updated settings botId e).Sound := by
  cases e with
  | ready r => exact ht.takeReady botId he
  | guildCreate g => exact ht.takeGuild botId he fun _ h => h
  | guildUpdate g => exact ht.takeGuild botId he fun _ h => h
  | guildDelete g => exact ht.removeGuild g.id _
  | guildMemberAdd m => exact ht.takeMember he
  | guildMemberUpdate m => exact ht.takeMember he
  | guildMemberRemove m =>
      simp only [Tables.updated]
      split
      · next g hg =>
        have hmove : Move (.guildMemberRemove m) t (t.removeMember g m.user.id) :=
          .memberGone _ (ht.guild_self hg)
        exact hmove.sound ht
      · exact ht
  | guildMembersChunk guildId members =>
      exact .foldl (fun m hm t ht => ht.takeMember ⟨he.1, he.2 m hm⟩) ht
  | guildRoleCreate guildId r => exact ht.changeGuild fun _ => rfl
  | guildRoleUpdate guildId r => exact ht.changeGuild fun _ => rfl
  | guildRoleDelete guildId roleId => exact ht.changeGuild fun _ => rfl
  | guildEmojisUpdate guildId emojis =>
      exact .foldl (fun e _ t ht => ht.changeGuild fun _ => rfl) ht
  | guildBanAdd guildId u =>
      simp only [Tables.updated]
      split
      · exact { ht with }
      · exact ht
  | guildBanRemove guildId u =>
      simp only [Tables.updated]
      split
      · exact { ht with }
      · exact ht
  | channelCreate c => exact ht.takeChannel he
  | channelUpdate c => exact ht.takeChannel he
  | channelDelete c => exact ht.loseChannel c.id
  | channelPinsUpdate p => exact ht.takePins p
  | presenceUpdate guildId p => exact ht.takePresence he.1 he.2
  | messageCreate m =>
      simp only [Tables.updated]
      split
      · exact ht
      · exact { ht with }
  | _ => exact ht

end Tables

/-! ## Several items -/

/-- Steps that do nothing come to nothing. -/
theorem foldl_idle {σ β : Type} {step : σ → β → σ} {st : σ} :
    ∀ {bs : List β}, (∀ b ∈ bs, step st b = st) → bs.foldl step st = st
  | [], _ => rfl
  | b :: bs, h => by
      rw [List.foldl_cons, h b List.mem_cons_self]
      exact foldl_idle fun b' hb' => h b' (List.mem_cons_of_mem b hb')

/-- Going through a list comes to a fold, if after a failure the rest of it would do nothing. -/
theorem Action.Leads.forM_foldl {β : Type} {s : Surroundings} {f : β → Action Key Unit}
    {step : Tables → β → Tables} {I : Tables → Prop} :
    ∀ {bs : List β} {t : Tables}, I t →
      (∀ b ∈ bs, ∀ t', I t' → (f b).Leads s t' fun r t'' => t'' = step t' b ∧
        match r with
        | .ok _ => I t''
        | .error _ => ∀ b' ∈ bs, step t'' b' = t'') →
      (bs.forM f).Leads s t fun _ t' => t' = bs.foldl step t
  | [], _, _, _ => .pure rfl
  | b :: bs, t, hI, hf => by
      refine .bind ((hf b List.mem_cons_self t hI).mono ?_)
      rintro (e | _) t' ⟨rfl, h⟩
      · exact (foldl_idle fun b' hb' => h b' (List.mem_cons_of_mem b hb')).symm
      · refine forM_foldl h fun b' hb' t' hI' => ?_
        refine (hf b' (List.mem_cons_of_mem b hb') t' hI').mono ?_
        rintro (e | _) t'' ⟨ht'', h⟩
        · exact ⟨ht'', fun b'' hb'' => h b'' (List.mem_cons_of_mem b hb'')⟩
        · exact ⟨ht'', h⟩

namespace Cache

open GuildRelay.Action Tables

variable {s : Surroundings} {settings : CacheSettings} {t : Tables}

/-! ## Handlers where nothing expires -/

theorem leads_applyReady_updated (hs : s.Allows settings) {botId : String} {r : Ready}
    (hr : (Event.ready r).IsWellNamed) :
    (applyReady settings botId r).Leads s t fun _ t' => t' = t.takeReady botId r := by
  obtain ⟨huser, hguilds, hchannels⟩ := hr
  refine .bind (leads_write hs (Slot.user r.user.id) r.user huser ?_)
  refine .bind (.forM (fun g hg _ _ hR => leads_resetGuild hs (hguilds g hg) hR) ?_)
  refine .bind (leads_writeChannels hs (fun c hc => (hchannels c hc).1) ?_)
  exact leads_addIds Index.channels _ trivial rfl

theorem leads_changeGuild_updated (hf : s.fading = false) (hs : s.Allows settings)
    {guildId : String} (change : Guild → Guild) (hid : ∀ g, (change g).id = g.id)
    (hguild : PlainId guildId) (ht : t.Sound) :
    (guild guildId >>= fun g => write settings (.guild g.id) (change g)).Leads s t
      fun r t' => t' = t.changeGuild guildId change
        ∧ ∀ e, r = .error e → t.guild guildId = none := by
  unfold changeGuild
  refine leads_changeGuild hs hid hguild ht (fun hmiss => ?_) fun g hg => ?_
  · have hnone := (hmiss.eq hf).symm
    rw [hnone]
    exact ⟨rfl, fun _ _ => rfl⟩
  · rw [hg]
    exact ⟨rfl, fun _ h => nomatch h⟩

theorem leads_addMember_updated (hf : s.fading = false) (hs : s.Allows settings) {m : Member}
    (hm : m.IsWellNamed) (ht : t.Sound) :
    (addMember settings m).Leads s t
      fun r t' => t' = t.takeMember m ∧ ∀ e, r = .error e → t.guild m.guildId = none := by
  unfold takeMember
  refine leads_addMember hs hm ht (fun hmiss => ?_) fun g cached hg hcached => ?_
  · have hnone := (hmiss.eq hf).symm
    rw [hnone]
    exact ⟨rfl, fun _ _ => rfl⟩
  · rw [hg, ← hcached.eq hf]
    exact ⟨rfl, fun _ h => nomatch h⟩

theorem leads_addMembers_updated (hf : s.fading = false) (hs : s.Allows settings)
    {guildId : String} {members : List Member} (hguild : PlainId guildId)
    (hms : ∀ m ∈ members, PlainId m.user.id) (ht : t.Sound) :
    (members.forM fun m => addMember settings { m with guildId }).Leads s t
      fun _ t' => t' = members.foldl (fun t m => t.takeMember { m with guildId }) t := by
  refine .forM_foldl (I := Sound) ht fun m hm t' ht' => ?_
  have hnamed : { m with guildId }.IsWellNamed := ⟨hguild, hms m hm⟩
  refine (leads_addMember_updated hf hs hnamed ht').mono ?_
  rintro (e | _) t'' ⟨rfl, herror⟩
  · have hnone := herror e rfl
    have hidle : ∀ m : Member, t'.takeMember { m with guildId } = t' := fun m => by
      rw [takeMember, hnone]
    refine ⟨rfl, fun m' _ => ?_⟩
    rw [hidle, hidle]
  · exact ⟨rfl, ht'.takeMember hnamed⟩

theorem leads_addEmojis_updated (hf : s.fading = false) (hs : s.Allows settings)
    {guildId : String} {emojis : List Emoji} (hguild : PlainId guildId) (ht : t.Sound) :
    (emojis.forM (addEmoji settings guildId)).Leads s t
      fun _ t' => t' = emojis.foldl (fun t e => t.changeGuild guildId (·.addEmoji e)) t := by
  refine .forM_foldl (I := Sound) ht fun e _ t' ht' => ?_
  refine (leads_changeGuild_updated hf hs (·.addEmoji e) (fun _ => rfl) hguild ht').mono ?_
  rintro (error | _) t'' ⟨rfl, herror⟩
  · have hnone := herror error rfl
    have hidle : ∀ e : Emoji, t'.changeGuild guildId (·.addEmoji e) = t' := fun e => by
      rw [changeGuild, hnone]
    refine ⟨rfl, fun e' _ => ?_⟩
    rw [hidle, hidle]
  · exact ⟨rfl, ht'.changeGuild fun _ => rfl⟩

theorem leads_addPresence_updated (hf : s.fading = false) (hs : s.Allows settings)
    {guildId : String} {p : Presence} (hguild : PlainId guildId) (hp : PlainId p.user.id)
    (ht : t.Sound) :
    (addPresence settings guildId p).Leads s t fun _ t' => t' = t.takePresence guildId p := by
  unfold takePresence
  refine leads_addPresence hs hguild hp ht (fun hmiss => ?_) (fun g hg hoff => ?_)
    fun g m hg hoff hm => ?_
  · rw [← hmiss.eq hf]
  · rw [hg]
    exact (if_pos hoff).symm
  · have hseen : m = t.memberSeen guildId p := by
      unfold memberSeen
      cases hm with
      | cached hm => rw [hm]
      | fresh hnone hu => rw [← hnone.eq hf, ← hu.eq hf]
    rw [hg]
    simp only [if_neg hoff]
    rw [← hseen]
    have hsound := ht.setPresence hg p
    exact (leads_addMember_updated hf hs (hm.isWellNamed ht hguild hp) hsound).mono
      fun _ _ h => h.1

theorem leads_addChannel_updated (hf : s.fading = false) (hs : s.Allows settings) {c : Channel}
    (hc : c.IsWellNamed) (ht : t.Sound) :
    (addChannel settings c).Leads s t fun _ t' => t' = t.takeChannel c := by
  unfold takeChannel
  refine leads_addChannel hs hc ht (fun cached hkind hcached => ?_) (fun hkind hmiss => ?_)
    fun cached g hkind hcached hg => ?_
  · rw [if_pos hkind, ← hcached.eq hf]
  · simp only [hkind, Bool.false_eq_true, if_false]
    rw [← hmiss.eq hf]
  · simp only [hkind, Bool.false_eq_true, if_false]
    rw [hg, ← hcached.eq hf]

theorem leads_removeChannel_updated (hf : s.fading = false) (hs : s.Allows settings) {c : Channel}
    (hc : c.IsWellNamed) (ht : t.Sound) :
    (removeChannel settings c).Leads s t fun _ t' => t' = t.loseChannel c.id := by
  unfold loseChannel
  refine leads_removeChannel hs hc ht (fun hmiss => ?_) (fun old hold hkind => ?_)
    (fun old hold hkind hmiss => ?_) fun old g hold hkind hg => ?_
  · rw [← hmiss.eq hf]
  · simp only [hold, if_pos hkind]
  · simp only [hold, hkind, Bool.false_eq_true, if_false]
    rw [← hmiss.eq hf]
  · simp only [hold, hkind, Bool.false_eq_true, if_false, hg]

theorem leads_updatePins_updated (hf : s.fading = false) (hs : s.Allows settings)
    {p : ChannelPins} (hp : PlainId p.channelId) (ht : t.Sound) :
    (updatePins settings p).Leads s t fun _ t' => t' = t.takePins p := by
  unfold takePins
  refine leads_updatePins hs hp ht (fun hmiss => ?_) fun c hc => ?_
  · rw [← hmiss.eq hf]
  · rw [hc]

/-- Where nothing expires, every event leads to the tables that are computed for it. -/
theorem leads_update_updated (hf : s.fading = false) (hs : s.Allows settings) {botId : String}
    {e : Event} (he : e.IsWellNamed) (ht : t.Sound) :
    (update settings botId e).Leads s t fun _ t' => t' = t.updated settings botId e := by
  have hguild : ∀ {g : Guild}, g.IsWellNamed → (addGuild settings botId g).Leads s t
      fun _ t' => t' = t.takeGuild botId g (t.guild g.id) := fun hg =>
    leads_addGuild hs hg fun cached hcached => by rw [← hcached.eq hf]
  have hrole : ∀ {guildId : String} (change : Guild → Guild), PlainId guildId →
      (∀ g, (change g).id = g.id) →
      (guild guildId >>= fun g => write settings (.guild g.id) (change g)).Leads s t
        fun _ t' => t' = t.changeGuild guildId change := fun change hg hid =>
    (leads_changeGuild_updated hf hs change hid hg ht).mono fun _ _ h => h.1
  cases e with
  | ready r => exact leads_applyReady_updated hs he
  | guildCreate g => exact hguild he
  | guildUpdate g => exact hguild he
  | guildDelete g => exact leads_removeGuild he ht fun cached hcached => by rw [hcached.eq hf]; rfl
  | guildMemberAdd m => exact (leads_addMember_updated hf hs he ht).mono fun _ _ h => h.1
  | guildMemberUpdate m => exact (leads_addMember_updated hf hs he ht).mono fun _ _ h => h.1
  | guildMemberRemove m =>
      refine leads_removeMember hs he ht (fun hmiss => ?_) fun g hg => ?_
      · simp only [updated]
        rw [← hmiss.eq hf]
      · simp only [updated, hg]
  | guildMembersChunk guildId members => exact leads_addMembers_updated hf hs he.1 he.2 ht
  | guildRoleCreate guildId r => exact hrole (·.addRole r) he fun _ => rfl
  | guildRoleUpdate guildId r => exact hrole (·.addRole r) he fun _ => rfl
  | guildRoleDelete guildId roleId => exact hrole (·.removeRole roleId) he fun _ => rfl
  | guildEmojisUpdate guildId emojis => exact leads_addEmojis_updated hf hs he ht
  | guildBanAdd guildId u =>
      refine leads_addBan he ht (fun hno => ?_) fun hyes => ?_
      · simp only [updated, hno hf, Bool.false_eq_true, if_false]
      · simp only [updated, hyes hf, if_true]
  | guildBanRemove guildId u =>
      refine leads_removeBan he ht (fun hno => ?_) fun hyes => ?_
      · simp only [updated, hno hf, Bool.false_eq_true, if_false]
      · simp only [updated, hyes hf, if_true]
  | channelCreate c => exact leads_addChannel_updated hf hs he ht
  | channelUpdate c => exact leads_addChannel_updated hf hs he ht
  | channelDelete c => exact leads_removeChannel_updated hf hs he ht
  | channelPinsUpdate p => exact leads_updatePins_updated hf hs he ht
  | presenceUpdate guildId p => exact leads_addPresence_updated hf hs he.1 he.2 ht
  | messageCreate m =>
      refine leads_addMessage he (fun hzero => ?_) fun hpos => ?_
      · exact (if_pos hzero).symm
      · exact (if_neg hpos).symm
  | _ => exact .pure rfl

theorem leads_apply_updated (hf : s.fading = false) (hs : s.Allows settings) {botId : String}
    {e : Event} (he : e.IsWellNamed) (ht : t.Sound) :
    (apply settings botId e).Leads s t fun _ t' => t' = t.updated settings botId e :=
  leads_apply (leads_update_updated hf hs he ht)

end Cache

/-- A world that shows tables shows their outcome after an event, if nothing expires and nothing
goes on beside it. -/
theorem World.shows_after {ns : String} {s : Surroundings} {settings : CacheSettings} {w : World}
    {t : Tables} (hw : w.host.Shows ns s t.content) (hf : s.fading = false)
    (hs : s.Allows settings) (ht : t.Sound) (botId : String) {e : Event} (he : e.IsWellNamed) :
    (w.after ns settings botId e).host.Shows ns s (t.updated settings botId e).content := by
  obtain ⟨_, ⟨t', rfl, rfl⟩, hafter⟩ :=
    Program.Ensures.run (Cache.leads_apply_updated hf hs he ht) hw
  exact hafter

/-- Where nothing expires, an invariant that the outcomes of events keep holds in every world that
events lead to. -/
theorem World.Reachable.exists_updated {ns : String} {settings : CacheSettings}
    {allowed : Event → Prop} {w : World} {I : Tables → Prop} (hexpiry : settings.expiry = none)
    (hnamed : ∀ e, allowed e → e.IsWellNamed) (hstart : I {})
    (hevent : ∀ e botId t, allowed e → t.Sound → I t → I (t.updated settings botId e))
    (h : Reachable ns settings allowed w) :
    ∃ t : Tables, t.Sound ∧ I t ∧ w.Shows ns settings.surroundings t.content := by
  have hview : ∀ e botId v, allowed e → (∃ t : Tables, v = t.content ∧ t.Sound ∧ I t) →
      (ExceptT.run (Cache.apply settings botId e)).Ensures settings.surroundings v
        fun _ v' => ∃ t : Tables, v' = t.content ∧ t.Sound ∧ I t := by
    rintro e botId v he ⟨t, rfl, ht, hI⟩
    refine Program.Ensures.mono ?_ (Cache.leads_apply_updated
      (CacheSettings.not_fading hexpiry) settings.surroundings_allows (hnamed e he) ht)
    rintro _ _ ⟨t', rfl, rfl⟩
    exact ⟨_, rfl, ht.updated settings botId (hnamed e he), hevent e botId t he ht hI⟩
  obtain ⟨v, ⟨t, rfl, ht, hI⟩, hv⟩ := h.exists_view rfl
    ⟨{}, Tables.content_empty.symm, Tables.sound_empty, hstart⟩ hview
  exact ⟨t, ht, hI, hv⟩

namespace World

/-- The host keeps the tables, which are sound. -/
structure KeepsTables (w : World) (ns : String) (settings : CacheSettings) (t : Tables) : Prop where
  sound : t.Sound
  shows : w.host.Shows ns settings.surroundings t.content

namespace KeepsTables

variable {ns : String} {settings : CacheSettings} {w : World} {t : Tables}

theorem start {h : Host} (hstore : h.store = {}) (hfaults : ∀ n, h.faults n = none) :
    ({ host := h } : World).KeepsTables ns settings {} :=
  ⟨Tables.sound_empty, Tables.content_empty ▸ .of_empty hstore hfaults⟩

/-- The tables after an event are computed. -/
theorem after (hw : w.KeepsTables ns settings t) (hexpiry : settings.expiry = none)
    (botId : String) {e : Event} (he : e.IsWellNamed) :
    (w.after ns settings botId e).KeepsTables ns settings (t.updated settings botId e) where
  sound := hw.sound.updated settings botId he
  shows := shows_after hw.shows (CacheSettings.not_fading hexpiry) settings.surroundings_allows
    hw.sound botId he

theorem record {α : Type} [Decode α] [Encode α] [LawfulCodec α] [Writable α]
    (hw : w.KeepsTables ns settings t) (hexpiry : settings.expiry = none) (slot : Tables.Slot α)
    (hk : slot.key.IsPlain) : w.host.record ns slot.key = slot.get t :=
  hw.shows.record_eq slot hk (CacheSettings.not_fading hexpiry)

end KeepsTables

theorem sample_keepsTables :
    sample.KeepsTables "relay" {} (({} : Tables).updated {} "3" (.guildCreate sampleGuild)) :=
  (KeepsTables.start rfl fun _ => rfl).after rfl "3" sampleGuild_isWellNamed

end World

end GuildRelay
