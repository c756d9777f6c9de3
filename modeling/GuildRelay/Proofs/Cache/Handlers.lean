import GuildRelay.Proofs.Cache.Changes
/-!
# What handlers do to the tables

Each handler of an event has a rule here that says which tables it leads to. A rule has one premise
for each way in which the handler can end: a record may be missing, which ends it with an error, or
it goes through and leaves the tables that the function with its name computes. The tables have to
be sound and what the event brings well named.

The rules hold whatever the surroundings do. A record that is read may have expired, so a premise
about a missing record can only assume that nothing was found (`Surroundings.Finds`).
-/

namespace GuildRelay

namespace Cache

open GuildRelay.Action Tables

variable {s : Surroundings} {settings : CacheSettings} {t : Tables}
variable {Q : Except CacheError Unit → Tables → Prop}

/-! ## Guilds -/

/-- A cached guild has the id that it is looked up with. -/
theorem leads_guild {guildId : String} {R : Except CacheError Guild → Tables → Prop}
    (ht : t.Sound) (hguild : PlainId guildId)
    (hmiss : s.Finds (t.guild guildId) none → R (.error .notFound) t)
    (h : ∀ g, t.guild guildId = some g → PlainId g.id → R (.ok g) t) :
    (guild guildId).Leads s t R := by
  refine leads_read (Slot.guild guildId) hguild hmiss fun g hg => h g hg ?_
  rw [ht.guild_id hg]
  exact hguild

theorem leads_writeChannel (hs : s.Allows settings) {c : Channel} (hc : PlainId c.id)
    (h : Q (.ok ()) (t.setChannel c)) : (writeChannel settings c).Leads s t Q :=
  leads_write hs (Slot.channel c.id) c hc h

theorem leads_writeChannels (hs : s.Allows settings) {cs : List Channel}
    (hcs : ∀ c ∈ cs, PlainId c.id) (h : Q (.ok ()) (t.setChannels cs)) :
    (cs.forM (writeChannel settings)).Leads s t Q :=
  .forM (fun c hc _ _ hR => leads_writeChannel hs (hcs c hc) hR) (foldl_setChannel cs t ▸ h)

theorem leads_writeMember (hs : s.Allows settings) {guildId : String} {m : Member}
    (hg : PlainId guildId) (hm : PlainId m.user.id)
    (h : Q (.ok ()) (((Slot.member guildId m.user.id).put (some m) t).setUser m.user)) :
    (writeMember settings guildId m).Leads s t Q :=
  .bind (leads_write hs (Slot.member guildId m.user.id) m hg
    (leads_write hs (Slot.user m.user.id) m.user hm h))

theorem leads_writeMembers (hs : s.Allows settings) {guildId : String} {ms : List Member}
    (hg : PlainId guildId) (hms : ∀ m ∈ ms, PlainId m.user.id)
    (h : Q (.ok ()) (t.setMembers guildId ms)) :
    (ms.forM (writeMember settings guildId)).Leads s t Q :=
  .forM (fun m hm _ _ hR => leads_writeMember hs hg (hms m hm) hR)
    (foldl_setMember guildId ms t ▸ h)

theorem leads_writeChildren (hs : s.Allows settings) {g : Guild} (hg : PlainId g.id)
    (hcs : ∀ c ∈ g.channelList, PlainId c.id) (hms : ∀ m ∈ g.memberList, PlainId m.user.id)
    (h : Q (.ok ()) ((t.putChannels g.channelList).putMembers g.id g.memberList)) :
    (writeChildren settings g).Leads s t Q := by
  refine .bind (leads_writeChannels hs hcs ?_)
  refine .bind (leads_addIds Index.channels _ trivial ?_)
  refine .bind (leads_writeMembers hs hg hms ?_)
  refine .bind (leads_addIds Index.users _ trivial ?_)
  exact leads_addIds (Index.guildUsers g.id) _ hg h

theorem leads_writeGuild (hs : s.Allows settings) {g : Guild} (hg : PlainId g.id)
    (h : Q (.ok ()) (t.putGuild g)) : (writeGuild settings g).Leads s t Q :=
  .bind (leads_write hs (Slot.guild g.id) g hg (leads_addIds Index.guilds [g.id] trivial h))

theorem leads_addBot {guildId botId : String} (hg : PlainId guildId)
    (h : Q (.ok ()) (t.addBot guildId botId)) :
    (Cache.addBot guildId botId).Leads s t Q := by
  unfold Cache.addBot
  unfold Tables.addBot at h
  cases hbot : botId.isEmpty with
  | true => exact .pure (by simpa [hbot] using h)
  | false =>
      simp only [hbot, true_and] at h
      exact leads_addIds (Index.guildBots guildId) _ hg h

theorem leads_resetGuild (hs : s.Allows settings) {botId : String} {payload : Guild}
    (hp : payload.IsWellNamed) (h : Q (.ok ()) (t.takeGuild botId payload none)) :
    (resetGuild settings botId payload).Leads s t Q := by
  obtain ⟨hg, hcs, hms⟩ := hp.fillIds
  refine .bind (leads_writeGuild hs hg ?_)
  refine .bind (leads_writeChildren hs hg (fun c hc => (hcs c hc).1) (fun m hm => (hms m hm).2) ?_)
  exact leads_addBot hg h

theorem leads_addGuild (hs : s.Allows settings) {botId : String} {payload : Guild}
    (hp : payload.IsWellNamed)
    (h : ∀ cached, s.Finds (t.guild payload.id) cached →
      Q (.ok ()) (t.takeGuild botId payload cached)) :
    (addGuild settings botId payload).Leads s t Q := by
  obtain ⟨hg, hcs, hms⟩ := hp.fillIds
  refine .bind (leads_writeChildren hs hg (fun c hc => (hcs c hc).1) (fun m hm => (hms m hm).2) ?_)
  refine .bind (leads_found_read (Slot.guild payload.id) hg fun cached hcached => ?_)
  refine .bind (leads_writeGuild hs (by rwa [Guild.carryOver_id]) ?_)
  exact leads_addBot hg (h cached hcached)

theorem leads_dropChannel {channelId : String} (hc : PlainId channelId)
    (h : Q (.ok ()) (t.dropChannel channelId)) : (Cache.dropChannel channelId).Leads s t Q :=
  .bind (leads_drop (Slot.channel channelId) hc (leads_removeId Index.channels channelId trivial h))

theorem leads_removeGuild {payload : Guild} (hp : payload.IsWellNamed) (ht : t.Sound)
    (h : ∀ cached, s.Finds (t.guild payload.id) cached →
      Q (.ok ()) (t.removeGuild payload.id ((cached.getD payload).channelList.map (·.id)))) :
    (removeGuild payload).Leads s t Q := by
  refine .bind (leads_found_read (Slot.guild payload.id) hp.1 fun cached hcached => ?_)
  -- The channels are those of the cached record, or of the payload if there is none.
  have hcs : ∀ c ∈ (cached.getD payload).channelList, PlainId c.id := by
    cases cached with
    | none => exact fun c hc => (hp.2.1 c hc).1
    | some g => exact ht.guild_channel hcached.eq_some
  refine .bind (leads_drop (Slot.guild payload.id) hp.1 ?_)
  refine .bind (leads_removeId Index.guilds payload.id trivial ?_)
  refine .bind (.forM (fun c hc _ _ hR => leads_dropChannel (hcs c hc) hR) ?_)
  rw [foldl_dropChannel]
  refine .bind (leads_ids (Index.guildUsers payload.id) hp.1 (Bool.and_false _) ?_)
  refine .bind (.forM (fun u _ _ _ hR => leads_drop (Slot.member payload.id u) hp.1 hR) ?_)
  rw [foldl_dropMemberRecord]
  refine .bind (leads_dropIndex (Index.guildUsers payload.id) hp.1 ?_)
  refine .bind (leads_dropIndex (Index.guildBots payload.id) hp.1 ?_)
  refine .bind (leads_dropIndex (Index.guildBanned payload.id) hp.1 ?_)
  exact leads_removeId Index.banInitialized payload.id trivial (h cached hcached)

/-! ## Members -/

theorem leads_addMember (hs : s.Allows settings) {payload : Member} (hp : payload.IsWellNamed)
    (ht : t.Sound) (hmiss : s.Finds (t.guild payload.guildId) none → Q (.error .notFound) t)
    (h : ∀ g cached, t.guild payload.guildId = some g →
      s.Finds (t.member payload.guildId payload.user.id) cached →
      Q (.ok ()) (t.storeMember g (payload.carryOver cached))) :
    (addMember settings payload).Leads s t Q := by
  refine .bind (leads_guild ht hp.1 hmiss fun g hg hgid => ?_)
  refine .bind (leads_found_read (Slot.member payload.guildId payload.user.id) hp.1
    fun cached hcached => ?_)
  have hm : PlainId (payload.carryOver cached).user.id := by
    cases cached <;> exact hp.2
  refine .bind (leads_write hs (Slot.guild g.id) _ hgid ?_)
  refine .bind (leads_writeMember hs hgid hm ?_)
  refine .bind (leads_addIds Index.users _ trivial ?_)
  refine leads_addIds (Index.guildUsers g.id) _ hgid ?_
  have h := h g cached hg hcached
  rw [storeMember, putMembers, ← foldl_setMember] at h
  exact h

theorem leads_isMemberElsewhere {guildId userId : String} {elsewhere : Bool}
    {R : Except CacheError Bool → Tables → Prop} : ∀ {guildIds : List String},
      (∀ g ∈ guildIds, PlainId g) →
      (guildIds.any fun g => g != guildId && (t.guildUserIds g).contains userId) = elsewhere →
      R (.ok elsewhere) t → (Cache.isMemberElsewhere guildId userId guildIds).Leads s t R
  | [], _, heq, h => .pure (by rwa [← heq] at h)
  | g :: rest, hplain, heq, h => by
      have hrest := fun g' hg' => hplain g' (List.mem_cons_of_mem g hg')
      rw [List.any_cons] at heq
      unfold Cache.isMemberElsewhere
      split
      · next hself =>
        refine leads_isMemberElsewhere hrest ?_ h
        rwa [bne_eq_false_iff_eq.mpr hself, Bool.false_and, Bool.false_or] at heq
      · next hother =>
        rw [bne_iff_ne.mpr hother, Bool.true_and] at heq
        refine .bind (leads_isMember (hplain g List.mem_cons_self) ?_)
        cases hmem : (t.guildUserIds g).contains userId with
        | true =>
            rw [hmem, Bool.true_or] at heq
            exact .pure (heq ▸ h)
        | false =>
            rw [hmem, Bool.false_or] at heq
            exact leads_isMemberElsewhere hrest heq h

theorem leads_removeMember (hs : s.Allows settings) {payload : Member} (hp : payload.IsWellNamed)
    (ht : t.Sound) (hmiss : s.Finds (t.guild payload.guildId) none → Q (.error .notFound) t)
    (h : ∀ g, t.guild payload.guildId = some g →
      Q (.ok ()) (t.removeMember g payload.user.id)) :
    (removeMember settings payload).Leads s t Q := by
  refine .bind (leads_guild ht hp.1 hmiss fun g hg hgid => ?_)
  refine .bind (leads_drop (Slot.member g.id payload.user.id) hgid ?_)
  refine .bind (leads_removeId (Index.guildUsers g.id) _ hgid ?_)
  refine .bind (leads_ids Index.guilds trivial (Bool.and_false _) ?_)
  have h := h g hg
  unfold Tables.removeMember at h
  cases helse : (t.dropMember g.id payload.user.id).isMemberElsewhere g.id payload.user.id with
  | true =>
      rw [helse, if_pos rfl] at h
      refine .bind (leads_isMemberElsewhere ht.guildIds helse ?_)
      exact leads_write hs (Slot.guild g.id) _ hgid h
  | false =>
      rw [helse, if_neg Bool.false_ne_true] at h
      refine .bind (leads_isMemberElsewhere ht.guildIds helse ?_)
      refine .bind (leads_drop (Slot.user payload.user.id) hp.2 ?_)
      refine .bind (leads_removeId Index.users _ trivial ?_)
      exact leads_write hs (Slot.guild g.id) _ hgid h

/-- The member that a presence tells of. -/
inductive TellsOf (s : Surroundings) (t : Tables) (guildId : String) (p : Presence) : Member → Prop
  | cached {m : Member} : t.member guildId p.user.id = some m → TellsOf s t guildId p (m.seen p)
  | fresh {u : Option User} : s.Finds (t.member guildId p.user.id) none →
      s.Finds (t.user p.user.id) u → TellsOf s t guildId p (p.newMember guildId u)

theorem TellsOf.isWellNamed {guildId : String} {p : Presence} {m : Member}
    (h : TellsOf s t guildId p m) (ht : t.Sound) (hguild : PlainId guildId)
    (hp : PlainId p.user.id) : m.IsWellNamed := by
  cases h with
  | cached hm =>
      have hplain := ht.member_guild hm
      rw [← ht.member_user hm] at hp
      exact ⟨hplain, hp⟩
  | @fresh u _ hu =>
      refine ⟨hguild, ?_⟩
      cases u with
      | none => exact hp
      | some r =>
          rw [← ht.user_id hu.eq_some] at hp
          exact hp

theorem leads_addPresence (hs : s.Allows settings) {guildId : String} {p : Presence}
    (hguild : PlainId guildId) (hp : PlainId p.user.id) (ht : t.Sound)
    (hmiss : s.Finds (t.guild guildId) none → Q (.error .notFound) t)
    (hoffline : ∀ g, t.guild guildId = some g → p.status = some .offline →
      Q (.ok ()) (t.setGuild (g.addPresence p)))
    (h : ∀ g m, t.guild guildId = some g → p.status ≠ some .offline → TellsOf s t guildId p m →
      (addMember settings m).Leads s (t.setGuild (g.addPresence p)) Q) :
    (addPresence settings guildId p).Leads s t Q := by
  refine .bind (leads_guild ht hguild hmiss fun g hg hgid => ?_)
  refine .bind (leads_write hs (Slot.guild g.id) _ hgid ?_)
  by_cases hoff : p.status = some .offline
  · simp only [if_pos hoff]
    exact .pure (hoffline g hg hoff)
  · simp only [if_neg hoff]
    refine .bind (leads_found_read (Slot.member guildId p.user.id) hguild fun m hm => ?_)
    cases m with
    | some m => exact h g _ hg hoff (.cached hm.eq_some)
    | none =>
        refine .bind (leads_found_read (Slot.user p.user.id) hp fun u hu => ?_)
        exact h g _ hg hoff (.fresh hm hu)

/-! ## Roles, emojis and channels -/

/-- A handler that changes a cached guild. -/
theorem leads_changeGuild (hs : s.Allows settings) {guildId : String} {change : Guild → Guild}
    (hchange : ∀ g, (change g).id = g.id) (hguild : PlainId guildId) (ht : t.Sound)
    (hmiss : s.Finds (t.guild guildId) none → Q (.error .notFound) t)
    (h : ∀ g, t.guild guildId = some g → Q (.ok ()) (t.setGuild (change g))) :
    (guild guildId >>= fun g => write settings (.guild g.id) (change g)).Leads s t Q := by
  refine .bind (leads_guild ht hguild hmiss fun g hg hgid => ?_)
  have h := h g hg
  unfold setGuild at h
  rw [hchange] at h
  exact leads_write hs (Slot.guild g.id) _ hgid h

theorem leads_putChannel (hs : s.Allows settings) {c : Channel} (hc : PlainId c.id)
    (h : Q (.ok ()) (t.putChannels [c])) :
    (do writeChannel settings c; addIds .allChannelIds [c.id] : CacheAction Unit).Leads s t Q := by
  rw [putChannels, ← foldl_setChannel] at h
  exact .bind (leads_writeChannel hs hc (leads_addIds Index.channels [c.id] trivial h))

theorem leads_addChannel (hs : s.Allows settings) {payload : Channel} (hp : payload.IsWellNamed)
    (ht : t.Sound)
    (hprivate : ∀ cached, payload.isPrivate = true → s.Finds (t.channel payload.id) cached →
      Q (.ok ()) (t.putChannels [payload.carryOver cached]))
    (hmiss : payload.isPrivate = false → s.Finds (t.guild payload.guildId) none →
      Q (.error .notFound) t)
    (h : ∀ cached g, payload.isPrivate = false → s.Finds (t.channel payload.id) cached →
      t.guild payload.guildId = some g →
      Q (.ok ()) ((t.setGuild (g.addChannel (payload.carryOver cached))).putChannels
        [payload.carryOver cached])) :
    (addChannel settings payload).Leads s t Q := by
  refine .bind (leads_found_read (Slot.channel payload.id) hp.1 fun cached hcached => ?_)
  have hc : PlainId (payload.carryOver cached).id := by
    rw [Channel.carryOver_id]
    exact hp.1
  simp only [Channel.carryOver_isPrivate, Channel.carryOver_guildId]
  cases hkind : payload.isPrivate with
  | true =>
      exact leads_putChannel hs hc (hprivate cached hkind hcached)
  | false =>
      refine .bind (leads_guild ht hp.2 (hmiss hkind) fun g hg hgid => ?_)
      refine .bind (leads_write hs (Slot.guild g.id) _ hgid ?_)
      exact leads_putChannel hs hc (h cached g hkind hcached hg)

theorem content_setMessages (t : Tables) (channelId : String) (messages : List Message) :
    Function.update t.content (.channelMessages channelId)
        ⟨none, [], messages.map fun m => (encode m).json⟩
      = (t.setMessages channelId messages).content := by
  refine (content_eq_update (by simp [content, setMessages]) fun k hk => ?_).symm
  cases k <;> simp_all [content, setMessages]

theorem leads_dropMessages {channelId : String} (hc : PlainId channelId)
    (h : Q (.ok ()) (t.setMessages channelId [])) :
    (drop (.channelMessages channelId)).Leads s t Q :=
  .ask hc ⟨fun _ => rfl, fun _ => rfl⟩ (fun _ => content_setMessages t channelId [])
    fun _ _ _ _ => h

theorem leads_removeChannel (hs : s.Allows settings) {payload : Channel}
    (hp : payload.IsWellNamed) (ht : t.Sound)
    (hmiss : s.Finds (t.channel payload.id) none → Q (.error .notFound) t)
    (hprivate : ∀ c, t.channel payload.id = some c → c.isPrivate = true →
      Q (.ok ()) (t.removeChannel payload.id))
    (hguild : ∀ c, t.channel payload.id = some c → c.isPrivate = false →
      s.Finds (t.guild c.guildId) none → Q (.error .notFound) t)
    (h : ∀ c g, t.channel payload.id = some c → c.isPrivate = false →
      t.guild c.guildId = some g →
      Q (.ok ()) ((t.setGuild (g.removeChannel payload.id)).removeChannel payload.id)) :
    (removeChannel settings payload).Leads s t Q := by
  refine .bind (leads_read (Slot.channel payload.id) hp.1 hmiss fun c hc => ?_)
  cases hkind : c.isPrivate with
  | true =>
      simp only [hkind]
      refine .bind (leads_drop (Slot.channel payload.id) hp.1 ?_)
      refine .bind (leads_dropMessages hp.1 ?_)
      exact leads_removeId Index.channels _ trivial (hprivate c hc hkind)
  | false =>
      simp only [hkind]
      have hplain := ht.channel_guild hc
      refine .bind (leads_guild ht hplain (hguild c hc hkind) fun g hg hgid => ?_)
      refine .bind (leads_write hs (Slot.guild g.id) _ hgid ?_)
      refine .bind (leads_drop (Slot.channel payload.id) hp.1 ?_)
      refine .bind (leads_dropMessages hp.1 ?_)
      exact leads_removeId Index.channels _ trivial (h c g hc hkind hg)

theorem leads_updatePins (hs : s.Allows settings) {p : ChannelPins} (hp : PlainId p.channelId)
    (ht : t.Sound) (hmiss : s.Finds (t.channel p.channelId) none → Q (.error .notFound) t)
    (h : ∀ c, t.channel p.channelId = some c →
      Q (.ok ()) (t.setChannel { c with lastPinTimestamp := p.lastPinTimestamp })) :
    (updatePins settings p).Leads s t Q := by
  refine .bind (leads_read (Slot.channel p.channelId) hp hmiss fun c hc => ?_)
  have hplain : PlainId c.id := by
    rw [ht.channel_id hc]
    exact hp
  exact leads_writeChannel hs hplain (h c hc)

/-! ## Messages -/

theorem slice_map {α β : Type} (f : α → β) (start stop : Int) (items : List α) :
    slice start stop (items.map f) = (slice start stop items).map f := by
  simp only [slice, List.length_map, List.map_drop, List.map_take]

theorem leads_pushMessage {m : Message} (hm : PlainId m.channelId)
    (h : Q (.ok ()) (t.setMessages m.channelId (m :: t.messages m.channelId))) :
    (ask (.channelMessages m.channelId) (.pushList [(encode m).json])).Leads s t Q :=
  .ask hm ⟨fun _ => rfl, fun hban => nomatch hban⟩
    (fun _ => content_setMessages t m.channelId (m :: t.messages m.channelId)) fun _ _ _ _ => h

theorem leads_trimMessages {channelId : String} {start stop : Int} (hc : PlainId channelId)
    (h : Q (.ok ()) (t.setMessages channelId (slice start stop (t.messages channelId)))) :
    (ask (.channelMessages channelId) (.trimList start stop)).Leads s t Q := by
  refine .ask hc ⟨fun _ => rfl, fun hban => nomatch hban⟩ (fun _ => ?_) fun _ _ _ _ => h
  rw [← content_setMessages, ← slice_map]
  rfl

theorem leads_addMessage {m : Message} (hm : PlainId m.channelId)
    (hnone : settings.maxChannelMessages = 0 → Q (.ok ()) t)
    (h : settings.maxChannelMessages ≠ 0 → Q (.ok ()) (t.addMessage settings m)) :
    (addMessage settings m).Leads s t Q := by
  unfold Cache.addMessage
  split
  · next hzero => exact .pure (hnone hzero)
  · next hpos =>
    refine .bind (leads_pushMessage hm (leads_trimMessages hm ?_))
    rw [setMessages_setMessages]
    have h := h hpos
    unfold Tables.addMessage at h
    simpa [setMessages] using h

/-! ## Bans -/

theorem leads_userPermissions {userId guildId : String}
    {R : Except CacheError Permissions → Tables → Prop} (hguild : PlainId guildId) (ht : t.Sound)
    (hnoGuild : s.Finds (t.guild guildId) none → R (.error .notFound) t)
    (howner : ∀ g, t.guild guildId = some g → userId = g.ownerId → R (.ok .all) t)
    (hnoMember : ∀ g, t.guild guildId = some g → userId ≠ g.ownerId →
      s.Finds (t.member guildId userId) none → R (.error .notFound) t)
    (h : ∀ g m, t.guild guildId = some g → userId ≠ g.ownerId →
      t.member guildId userId = some m → R (.ok (g.memberPermissions m)) t) :
    (userPermissions userId guildId).Leads s t R := by
  refine .bind (leads_guild ht hguild hnoGuild fun g hg hgid => ?_)
  obtain rfl : g.id = guildId := ht.guild_id hg
  by_cases hown : userId = g.ownerId
  · simp only [if_pos hown]
    exact .pure (howner g hg hown)
  · simp only [if_neg hown]
    refine .bind (leads_read (Slot.member g.id userId) hgid (hnoMember g hg hown) fun m hm => ?_)
    exact .pure (h g m hg hown hm)

/-- Whether a bot may read bans is told without an error and without a change, and from the records
as they are unless one of them may have expired. -/
theorem leads_canReadBans {botId guildId : String} {R : Except CacheError Bool → Tables → Prop}
    (hguild : PlainId guildId) (ht : t.Sound)
    (h : ∀ allowed, (s.fading = false → allowed = t.mayReadBans botId guildId) →
      R (.ok allowed) t) :
    (canReadBans botId guildId).Leads s t R := by
  refine .bind (.found (leads_userPermissions hguild ht (fun hmiss => ?_) (fun g hg hown => ?_)
    (fun g hg hown hmiss => ?_) fun g m hg hown hm => ?_))
  · refine .pure (h false fun hf => ?_)
    rw [mayReadBans, ← hmiss.eq hf]
  · refine .pure (h _ fun _ => ?_)
    rw [mayReadBans, hg]
    exact (if_pos hown).symm
  · refine .pure (h false fun hf => ?_)
    simp only [mayReadBans, hg, if_neg hown]
    rw [← hmiss.eq hf]
    rfl
  · refine .pure (h _ fun _ => ?_)
    simp only [mayReadBans, hg, if_neg hown, hm]
    rfl

theorem leads_addBan {botId guildId userId : String} (hguild : PlainId guildId) (ht : t.Sound)
    (hignored : (s.fading = false → t.mayReadBans botId guildId = false) → Q (.ok ()) t)
    (h : (s.fading = false → t.mayReadBans botId guildId = true) →
      Q (.ok ()) ((Index.guildBanned guildId).put
        (insertAll [userId] (t.guildBannedUserIds guildId)) t)) :
    (addBan botId guildId userId).Leads s t Q := by
  refine .bind (leads_canReadBans hguild ht fun allowed hallowed => ?_)
  cases allowed with
  | true => exact leads_addIds (Index.guildBanned guildId) _ hguild (h fun hf => (hallowed hf).symm)
  | false => exact .pure (hignored fun hf => (hallowed hf).symm)

theorem leads_removeBan {botId guildId userId : String} (hguild : PlainId guildId) (ht : t.Sound)
    (hignored : (s.fading = false → t.mayReadBans botId guildId = false) → Q (.ok ()) t)
    (h : (s.fading = false → t.mayReadBans botId guildId = true) →
      Q (.ok ()) ((Index.guildBanned guildId).put
        ((t.guildBannedUserIds guildId).filter (· != userId)) t)) :
    (removeBan botId guildId userId).Leads s t Q := by
  refine .bind (leads_canReadBans hguild ht fun allowed hallowed => ?_)
  cases allowed with
  | true =>
      exact leads_removeId (Index.guildBanned guildId) _ hguild (h fun hf => (hallowed hf).symm)
  | false => exact .pure (hignored fun hf => (hallowed hf).symm)

end Cache

end GuildRelay
