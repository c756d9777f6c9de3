import GuildRelay.Proofs.Cache.Cuts
import GuildRelay.Proofs.Cache.Halfway
/-!
# Events that are tried again

Whoever is told that the store could not be reached may apply the event again. Every handler has a
rule here that says which tables it passes, so that each may be where it breaks off, and
`Cache.passes_update` finds for every event that these are tables from which it can be tried again.
`World.Reachable.retried_event_completes` is what follows for the store.

Most rules follow the handler from call to call. Snapshots write long lists, and for them it is
enough that every single write is covered by the whole (`Cache.Stamping`).
-/

namespace GuildRelay

namespace Cache

open GuildRelay.Action Tables

variable {s : Surroundings} {settings : CacheSettings} {t : Tables} {P : Tables → Prop}

/-! ## Handlers with one write -/

theorem passes_changeGuild {guildId : String} (change : Guild → Guild) (hguild : PlainId guildId)
    (hP : P t) :
    (guild guildId >>= fun g => write settings (.guild g.id) (change g)).Passes s t P :=
  (onlyReads_read _).step hP (leads_read (Slot.guild guildId) hguild (fun _ => trivial) fun g _ =>
    passes_single (isSingle_write settings (.guild g.id) (change g)) hP)

theorem passes_updatePins {p : ChannelPins} (hp : PlainId p.channelId) (hP : P t) :
    (updatePins settings p).Passes s t P :=
  (onlyReads_read _).step hP (leads_read (Slot.channel p.channelId) hp (fun _ => trivial) fun c _ =>
    passes_single (isSingle_write settings (.channel c.id) _) hP)

theorem passes_addBan {botId guildId userId : String} (hguild : PlainId guildId) (ht : t.Sound)
    (hP : P t) : (addBan botId guildId userId).Passes s t P := by
  refine (onlyReads_canReadBans botId guildId).step hP
    (leads_canReadBans hguild ht fun allowed _ => ?_)
  cases allowed with
  | true => exact passes_single (isSingle_addIds _ [userId]) hP
  | false => exact passes_pure ()

theorem passes_removeBan {botId guildId userId : String} (hguild : PlainId guildId) (ht : t.Sound)
    (hP : P t) : (removeBan botId guildId userId).Passes s t P := by
  refine (onlyReads_canReadBans botId guildId).step hP
    (leads_canReadBans hguild ht fun allowed _ => ?_)
  cases allowed with
  | true => exact passes_single (isSingle_removeId _ userId) hP
  | false => exact passes_pure ()

/-! ## Members -/

theorem passes_writeMember (hs : s.Allows settings) {guildId : String} {m : Member}
    (hg : PlainId guildId) (hP : P t) (hP' : P ((Slot.member guildId m.user.id).put (some m) t)) :
    (writeMember settings guildId m).Passes s t P :=
  (isSingle_write settings _ m).step hP (leads_write hs (Slot.member guildId m.user.id) m hg
    (passes_single (isSingle_write settings _ m.user) hP'))

theorem passes_storeMember (hs : s.Allows settings) {g : Guild} {m : Member} (hg : PlainId g.id)
    (hm : PlainId m.user.id) (hP : ∀ t', Between t (t.storeMember g m) t' → P t') :
    (do
      write settings (.guild g.id) (g.addMember m)
      writeMember settings g.id m
      addIds .allUserIds [m.user.id]
      addIds (.guildUserIds g.id) [m.user.id] : CacheAction Unit).Passes s t P := by
  rw [storeMember_eq] at hP
  -- The writes fill in one part of the tables after the other.
  have hguild : P ((Slot.guild g.id).put (some (g.addMember m)) t) :=
    hP _ { Between.start t _ with guild := .inr rfl }
  have hmember : P ((Slot.member g.id m.user.id).put (some m)
      ((Slot.guild g.id).put (some (g.addMember m)) t)) :=
    hP _ { Between.start t _ with guild := .inr rfl, member := .inr rfl }
  have huser : P (((Slot.member g.id m.user.id).put (some m)
      ((Slot.guild g.id).put (some (g.addMember m)) t)).setUser m.user) :=
    hP _ { Between.start t _ with guild := .inr rfl, member := .inr rfl, user := .inr rfl }
  refine (isSingle_write settings _ _).step (hP t (.start t _))
    (leads_write hs (Slot.guild g.id) _ hg ?_)
  refine (passes_writeMember hs hg hguild hmember).bind (leads_writeMember hs hg hm ?_)
  refine (isSingle_addIds _ _).step huser (leads_addIds Index.users _ trivial ?_)
  refine passes_single (isSingle_addIds _ _) (hP _ { Between.start t _ with
    guild := .inr rfl, member := .inr rfl, user := .inr rfl, userIds := .inr rfl })

theorem passes_addMember (hf : s.fading = false) (hs : s.Allows settings) {m : Member}
    (hm : m.IsWellNamed) (ht : t.Sound) (hP : ∀ t', Between t (t.takeMember m) t' → P t') :
    (addMember settings m).Passes s t P := by
  have hstart : P t := hP t (.start t _)
  refine (onlyReads_read _).step hstart (leads_guild ht hm.1 (fun _ => trivial) fun g hg hgid => ?_)
  refine (onlyReads_read _).found.step hstart
    (leads_found_read (Slot.member m.guildId m.user.id) hm.1 fun cached hcached => ?_)
  have hkept : t.takeMember m = t.storeMember g (m.carryOver cached) := by
    rw [takeMember_eq hg, hcached.eq hf]
    rfl
  refine passes_storeMember hs hgid ?_ (hkept ▸ hP)
  rw [Member.carryOver_user]
  exact hm.2

theorem passes_addMembers (hf : s.fading = false) (hs : s.Allows settings) {guildId : String}
    {members : List Member} (hguild : PlainId guildId) (hms : ∀ m ∈ members, PlainId m.user.id)
    (ht : t.Sound)
    (hP : ∀ before m after t', members = before ++ m :: after →
      Between (before.foldl (fun t m => t.takeMember { m with guildId }) t)
        ((before.foldl (fun t m => t.takeMember { m with guildId }) t).takeMember
          { m with guildId }) t' → P t') :
    (members.forM fun m => addMember settings { m with guildId }).Passes s t P := by
  refine .forM (fun t m => t.takeMember { m with guildId }) fun before m after heq => ?_
  have hbefore : ∀ m ∈ before, PlainId m.user.id := fun m hm =>
    hms m (heq ▸ List.mem_append_left _ hm)
  have hm : { m with guildId }.IsWellNamed :=
    ⟨hguild, hms m (heq ▸ List.mem_append_right _ List.mem_cons_self)⟩
  have hsound : (before.foldl (fun t m => t.takeMember { m with guildId }) t).Sound :=
    .foldl (fun m hm t ht => ht.takeMember ⟨hguild, hbefore m hm⟩) ht
  refine ⟨passes_addMember hf hs hm hsound fun t' h => hP before m after t' heq h, ?_⟩
  refine (leads_addMember_updated hf hs hm hsound).mono ?_
  rintro (e | _) t' ⟨h, -⟩
  · trivial
  · exact h

theorem passes_removeMember {payload : Member} (hp : payload.IsWellNamed) (ht : t.Sound)
    (hstart : P t)
    (hP : ∀ g t', t.guild payload.guildId = some g →
      Between t (t.removeMember g payload.user.id) t' → P t') :
    (removeMember settings payload).Passes s t P := by
  refine (onlyReads_read _).step hstart (leads_guild ht hp.1 (fun _ => trivial) fun g hg hgid => ?_)
  have hP := fun t' => hP g t' hg
  rw [removeMember_eq] at hP
  -- The record of the guild, without which there is no second try, is written last.
  have hmember : P ((Slot.member g.id payload.user.id).put none t) :=
    hP _ { Between.start t _ with member := .inr rfl }
  have hindex : P (t.dropMember g.id payload.user.id) :=
    hP _ { Between.start t _ with member := .inr rfl, guildUserIds := .inr rfl }
  refine (isSingle_drop _).step hstart (leads_drop (Slot.member g.id payload.user.id) hgid ?_)
  refine (isSingle_removeId _ _).step hmember (leads_removeId (Index.guildUsers g.id) _ hgid ?_)
  refine (onlyReads_ids _).step hindex (leads_ids Index.guilds trivial (Bool.and_false _) ?_)
  refine ((onlyReads_isMemberElsewhere _ _ _).passes hindex).bind
    (leads_isMemberElsewhere ht.guildIds (isMemberElsewhere_dropMember t _ _) ?_)
  cases hcase : t.isMemberElsewhere g.id payload.user.id with
  | true => exact passes_single (isSingle_write settings _ _) hindex
  | false =>
      simp only [hcase, true_and, Bool.false_eq_true, if_false] at hP
      have huser : P ((Slot.user payload.user.id).put none (t.dropMember g.id payload.user.id)) :=
        hP _ { Between.start t _ with
          member := .inr rfl, guildUserIds := .inr rfl, user := .inr rfl }
      have hgone : P ((t.dropMember g.id payload.user.id).dropUser payload.user.id) :=
        hP _ { Between.start t _ with
          member := .inr rfl, guildUserIds := .inr rfl, user := .inr rfl, userIds := .inr rfl }
      refine (isSingle_drop _).step hindex (leads_drop (Slot.user payload.user.id) hp.2 ?_)
      refine (isSingle_removeId _ _).step huser (leads_removeId Index.users _ trivial ?_)
      exact passes_single (isSingle_write settings _ _) hgone

theorem passes_addPresence (hf : s.fading = false) (hs : s.Allows settings) {guildId : String}
    {p : Presence} (hguild : PlainId guildId) (hp : PlainId p.user.id) (ht : t.Sound)
    (hstart : P t)
    (hP : ∀ g t', t.guild guildId = some g → p.status ≠ some .offline →
      Between (t.setGuild (g.addPresence p))
        ((t.setGuild (g.addPresence p)).takeMember (t.memberSeen guildId p)) t' → P t') :
    (addPresence settings guildId p).Passes s t P := by
  refine (onlyReads_read _).step hstart
    (leads_guild ht hguild (fun _ => trivial) fun g hg hgid => ?_)
  refine (isSingle_write settings _ _).step hstart (leads_write hs (Slot.guild g.id) _ hgid ?_)
  by_cases hoff : p.status = some .offline
  · simp only [if_pos hoff]
    exact passes_pure ()
  · simp only [if_neg hoff]
    have hP := fun t' => hP g t' hg hoff
    have hpresence : P (t.setGuild (g.addPresence p)) := hP _ (.start _ _)
    have hsound := ht.setPresence hg p
    have hseen := memberSeen_isWellNamed ht hguild hp
    refine (onlyReads_read _).found.step hpresence
      (leads_found_read (Slot.member guildId p.user.id) hguild fun m hm => ?_)
    have hm : m = t.member guildId p.user.id := hm.eq hf
    cases m with
    | some m =>
        rw [memberSeen_of_some hm.symm] at hP hseen
        exact passes_addMember hf hs hseen hsound hP
    | none =>
        refine (onlyReads_read _).found.step hpresence
          (leads_found_read (Slot.user p.user.id) hp fun u hu => ?_)
        have hu : u = t.user p.user.id := hu.eq hf
        rw [memberSeen_of_none hm.symm, ← hu] at hP hseen
        exact passes_addMember hf hs hseen hsound hP

/-! ## Channels -/

theorem passes_addChannel (hf : s.fading = false) (hs : s.Allows settings) {payload : Channel}
    (hp : payload.IsWellNamed) (ht : t.Sound)
    (hP : ∀ t', Between t (t.takeChannel payload) t' → P t') :
    (addChannel settings payload).Passes s t P := by
  have hstart : P t := hP t (.start t _)
  refine (onlyReads_read _).found.step hstart
    (leads_found_read (Slot.channel payload.id) hp.1 fun cached hcached => ?_)
  have hcached : cached = t.channel payload.id := hcached.eq hf
  have hc : PlainId (payload.carryOver cached).id := by
    rw [Channel.carryOver_id]
    exact hp.1
  have hput : ∀ {t' : Tables} {c : Channel}, PlainId c.id → P t' → P (t'.setChannel c) →
      (do writeChannel settings c; addIds .allChannelIds [c.id] : CacheAction Unit).Passes s t' P :=
    fun {t' c} hc hP hP' => (isSingle_write settings _ c).step hP
      (leads_writeChannel hs hc (passes_single (isSingle_addIds _ _) hP'))
  unfold takeChannel at hP
  simp only [Channel.carryOver_isPrivate, Channel.carryOver_guildId, ← hcached] at hP ⊢
  cases hkind : payload.isPrivate with
  | true =>
      simp only [hkind, if_true, putChannels_eq] at hP
      exact hput hc hstart (hP _ { Between.start t _ with channel := .inr rfl })
  | false =>
      refine (onlyReads_read _).step hstart
        (leads_guild ht hp.2 (fun _ => trivial) fun g hg hgid => ?_)
      simp only [hkind, Bool.false_eq_true, if_false, hg, putChannels_eq] at hP
      refine (isSingle_write settings _ _).step hstart (leads_write hs (Slot.guild g.id) _ hgid ?_)
      exact hput hc (hP _ { Between.start t _ with guild := .inr rfl })
        (hP _ { Between.start t _ with guild := .inr rfl, channel := .inr rfl })

theorem passes_removeChannel (hs : s.Allows settings) {payload : Channel}
    (hp : payload.IsWellNamed) (ht : t.Sound) (hstart : P t)
    (hguild : ∀ c g, t.channel payload.id = some c → c.isPrivate = false →
      t.guild c.guildId = some g → P (t.setGuild (g.removeChannel payload.id)))
    (hgone : ∀ c t', t.channel payload.id = some c → LosesChannel payload.id t t' → P t') :
    (removeChannel settings payload).Passes s t P := by
  refine (onlyReads_read _).step hstart
    (leads_read (Slot.channel payload.id) hp.1 (fun _ => trivial) fun c hc => ?_)
  have hgone := fun t' => hgone c t' hc
  -- Once the record is dropped, what is left to do does not depend on it.
  have hrest : ∀ t₁ : Tables, t₁.Sound → P t₁ →
      t₁.removeChannel payload.id = t.loseChannel payload.id →
      (do
        drop (.channel payload.id)
        drop (.channelMessages payload.id)
        removeId .allChannelIds payload.id : CacheAction Unit).Passes s t₁ P := by
    intro t₁ ht₁ hP hsame
    have hrecord := LosesChannel.putChannel ht₁ hsame
    refine (isSingle_drop _).step hP (leads_drop (Slot.channel payload.id) hp.1 ?_)
    refine (isSingle_drop _).step (hgone _ hrecord) (leads_dropMessages hp.1 ?_)
    exact passes_single (isSingle_removeId _ _) (hgone _ hrecord.setMessages)
  have hc : t.channel payload.id = some c := hc
  cases hkind : c.isPrivate with
  | true =>
      simp only [hkind]
      refine hrest t ht hstart ?_
      simp only [loseChannel, hc, if_pos hkind]
  | false =>
      simp only [hkind]
      have hplain := ht.channel_guild hc
      refine (onlyReads_read _).step hstart
        (leads_guild ht hplain (fun _ => trivial) fun g hg hgid => ?_)
      refine (isSingle_write settings _ _).step hstart (leads_write hs (Slot.guild g.id) _ hgid ?_)
      refine hrest (t.setGuild (g.removeChannel payload.id)) ?_ (hguild c g hc hkind hg) ?_
      · refine ht.setGuild fun c' hc' => ?_
        rw [Guild.channelList_removeChannel] at hc'
        exact ht.guild_channel hg c' (List.mem_of_mem_filter hc')
      · simp only [loseChannel, hc, hkind, Bool.false_eq_true, if_false, hg]

/-! ## Guilds -/

theorem passes_removeGuild (hf : s.fading = false) {payload : Guild} (hp : payload.IsWellNamed)
    (ht : t.Sound) (hstart : P t)
    (hgone : ∀ t', LosesGuild payload.id
      (((t.guild payload.id).getD payload).channelList.map (·.id)) t t' → P t') :
    (removeGuild payload).Passes s t P := by
  refine (onlyReads_read _).found.step hstart
    (leads_found_read (Slot.guild payload.id) hp.1 fun cached hcached => ?_)
  have hcached : cached = t.guild payload.id := hcached.eq hf
  have hcs : ∀ c ∈ (cached.getD payload).channelList, PlainId c.id := by
    cases cached with
    | none => exact fun c hc => (hp.2.1 c hc).1
    | some g => exact ht.guild_channel hcached.symm
  rw [← hcached] at hgone
  dsimp only
  generalize (cached.getD payload).channelList = cs at *
  have hrecord : LosesGuild payload.id (cs.map (·.id)) t _ := .putGuild ht
  refine (isSingle_drop _).step hstart (leads_drop (Slot.guild payload.id) hp.1 ?_)
  refine (isSingle_removeId _ _).step (hgone _ hrecord) (leads_removeId Index.guilds _ trivial ?_)
  have hchannels : (cs.forM fun c => dropChannel c.id).Keeps s
      (LosesGuild payload.id (cs.map (·.id)) t) := by
    refine .forM fun c hc => ?_
    have hmem : c.id ∈ cs.map (·.id) := List.mem_map_of_mem hc
    exact .bind (keeps_drop (Slot.channel c.id) (hcs c hc) fun _ h => h.putChannel hmem) fun _ =>
      keeps_removeId Index.channels c.id trivial fun _ h => h.putChannelIds hmem
  obtain ⟨hpasses, hleads⟩ := hchannels _ hrecord.putGuildIds
  refine (hpasses.mono hgone).bind (hleads.mono ?_)
  rintro (e | _) t₁ h₁
  · trivial
  refine (onlyReads_ids _).step (hgone _ h₁)
    (leads_ids (Index.guildUsers payload.id) hp.1 (Bool.and_false _) ?_)
  -- The index is read once, so the loop knows its members also when some are dropped.
  have hmembers : (((Index.guildUsers payload.id).get t₁).forM fun u =>
      drop (.member payload.id u)).Passes s t₁ P := by
    refine .forM (fun t u => (Slot.member payload.id u).put none t) fun before next after heq => ?_
    rw [foldl_dropMemberRecord]
    refine ⟨passes_single (isSingle_drop _) (hgone _ (h₁.dropMembers fun u hu => ?_)),
      leads_drop (Slot.member payload.id next) hp.1 rfl⟩
    have hmem : u ∈ before ++ next :: after := List.mem_append_left _ hu
    rwa [← heq] at hmem
  refine hmembers.bind (.forM (fun u _ _ _ hR => leads_drop (Slot.member payload.id u) hp.1 hR) ?_)
  rw [foldl_dropMemberRecord]
  have h₂ := h₁.dropMembers fun u hu => hu
  have h₃ := h₂.putGuildUsers fun u hu => if_pos ⟨rfl, hu⟩
  refine (isSingle_drop _).step (hgone _ h₂) (leads_dropIndex (Index.guildUsers payload.id) hp.1 ?_)
  refine (isSingle_drop _).step (hgone _ h₃) (leads_dropIndex (Index.guildBots payload.id) hp.1 ?_)
  refine (isSingle_drop _).step (hgone _ h₃.putGuildBots)
    (leads_dropIndex (Index.guildBanned payload.id) hp.1 ?_)
  exact passes_single (isSingle_removeId _ _) (hgone _ h₃.putGuildBots.putGuildBanned)

/-! ## Handlers that stamp -/

/-- The action stamps the tables with `F`, in several writes. In between the tables stay sound, the
guilds are some of which `J` holds, and what covers `F` does not tell how much has been written. -/
structure Stamping (s : Surroundings) (J : (String → Option Guild) → Prop) (F : Tables → Tables)
    (a : CacheAction Unit) : Prop where
  stamps : Stamps F
  keeps : ∀ G x, Stamps G → Covers G F →
    a.Keeps s fun t => t.Sound ∧ J t.guild ∧ (G t).content = x

namespace Stamping

variable {J : (String → Option Guild) → Prop} {F F' : Tables → Tables} {a b : CacheAction Unit}

theorem write {α : Type} [Encode α] (hs : s.Allows settings) (slot : Slot α) (x : α)
    (hk : slot.key.IsPlain) (hsound : ∀ t, t.Sound → (slot.put (some x) t).Sound)
    (hJ : ∀ t, J t.guild → J (slot.put (some x) t).guild) :
    Stamping s J (slot.put (some x)) (Cache.write settings slot.key x) where
  stamps := .put slot x
  keeps _ _ _ hcovers := keeps_write hs slot x hk fun t ⟨ht, hguilds, hsame⟩ =>
    ⟨hsound t ht, hJ t hguilds, (hcovers t).trans hsame⟩

theorem addIds (ix : Index) (ids : List String) (hk : ix.key.IsPlain)
    (hsound : ∀ t, t.Sound → (ix.put (insertAll ids (ix.get t)) t).Sound)
    (hguild : ∀ t ids, (ix.put ids t).guild = t.guild) :
    Stamping s J (fun t => ix.put (insertAll ids (ix.get t)) t) (Cache.addIds ix.key ids) where
  stamps := .addIds ix ids
  keeps _ _ _ hcovers := keeps_addIds ix ids hk fun t ⟨ht, hguilds, hsame⟩ =>
    ⟨hsound t ht, hguild t _ ▸ hguilds, (hcovers t).trans hsame⟩

theorem pure : Stamping s J (fun t => t) (Pure.pure () : CacheAction Unit) where
  stamps := .id
  keeps _ _ _ _ := .pure ()

/-- What covers two stamps covers each of them. -/
theorem bind (ha : Stamping s J F a) (hb : Stamping s J F' b) :
    Stamping s J (fun t => F' (F t)) (a >>= fun _ => b) where
  stamps := hb.stamps.comp ha.stamps
  keeps G x hG hcovers := by
    have hfirst := hcovers.trans (.first ha.stamps hb.stamps) hG
    have hsecond := hcovers.trans (.second ha.stamps hb.stamps) hG
    exact .bind (ha.keeps G x hG hfirst) fun _ => hb.keeps G x hG hsecond

theorem forM {β : Type} {f : β → CacheAction Unit} (step : Tables → β → Tables) {bs : List β}
    (hf : ∀ b ∈ bs, Stamping s J (fun t => step t b) (f b)) :
    Stamping s J (fun t => bs.foldl step t) (bs.forM f) := by
  induction bs with
  | nil => exact pure
  | cons b bs ih =>
      exact (hf b List.mem_cons_self).bind (ih fun b' hb' => hf b' (List.mem_cons_of_mem b hb'))

theorem writeChannels (hs : s.Allows settings) {cs : List Channel} (hcs : ∀ c ∈ cs, c.IsWellNamed) :
    Stamping s J (fun t => t.setChannels cs) (cs.forM (writeChannel settings)) := by
  simp only [← foldl_setChannel]
  refine forM _ fun c hc => ?_
  exact write hs (Slot.channel c.id) c (hcs c hc).1 (fun _ ht => ht.setChannel (hcs c hc).2)
    fun _ h => h

theorem indexChannels {cs : List Channel} (hcs : ∀ c ∈ cs, c.IsWellNamed) :
    Stamping s J (fun t => Index.channels.put (insertAll (cs.map (·.id)) t.channelIds) t)
      (Cache.addIds .allChannelIds (cs.map (·.id))) :=
  addIds Index.channels _ trivial (fun _ ht => ht.indexChannels hcs) fun _ _ => rfl

theorem writeMembers (hs : s.Allows settings) {guildId : String} {ms : List Member}
    (hguild : PlainId guildId) (hms : ∀ m ∈ ms, m.IsWellNamed) :
    Stamping s J (fun t => t.setMembers guildId ms) (ms.forM (writeMember settings guildId)) := by
  simp only [← foldl_setMember]
  refine forM _ fun m hm => ?_
  have hmember := write (J := J) hs (Slot.member guildId m.user.id) m hguild
    (fun _ ht => ht.putMember guildId (hms m hm)) fun _ h => h
  have huser := write (J := J) hs (Slot.user m.user.id) m.user (hms m hm).2
    (fun _ ht => ht.setUser m.user) fun _ h => h
  exact hmember.bind huser

theorem writeChildren (hs : s.Allows settings) {g : Guild} (hg : g.IsWellNamed) :
    Stamping s J (fun t => (t.putChannels g.channelList).putMembers g.id g.memberList)
      (Cache.writeChildren settings g) := by
  obtain ⟨hid, hcs, hms⟩ := hg
  have husers := addIds (s := s) (J := J) Index.users (g.memberList.map (·.user.id)) trivial
    (fun _ ht => ht.indexUsers hms) fun _ _ => rfl
  have hmembers := addIds (s := s) (J := J) (Index.guildUsers g.id)
    (g.memberList.map (·.user.id)) hid (fun _ ht => { ht with }) fun _ _ => rfl
  exact (writeChannels hs hcs).bind ((indexChannels hcs).bind ((writeMembers hs hid hms).bind
    (husers.bind hmembers)))

theorem writeGuild (hs : s.Allows settings) {g : Guild} (hg : PlainId g.id)
    (hcs : ∀ c ∈ g.channelList, PlainId c.id)
    (hJ : ∀ f, J f → J fun id => if id = g.id then some g else f id) :
    Stamping s J (fun t => t.putGuild g) (Cache.writeGuild settings g) := by
  have hrecord := write hs (Slot.guild g.id) g hg (fun _ ht => ht.setGuild hcs) fun _ => hJ _
  exact hrecord.bind (addIds Index.guilds [g.id] trivial (fun _ ht => ht.indexGuild hg)
    fun _ _ => rfl)

theorem addBot (botId : String) {guildId : String} (hg : PlainId guildId) :
    Stamping s J (fun t => t.addBot guildId botId) (Cache.addBot guildId botId) := by
  unfold Cache.addBot Tables.addBot
  cases hbot : botId.isEmpty with
  | true =>
      simp only [Bool.true_eq_false, false_and, if_false, if_true]
      exact pure
  | false =>
      simp only [true_and, Bool.false_eq_true, if_false]
      exact addIds (Index.guildBots guildId) [botId] hg (fun _ ht => { ht with }) fun _ _ => rfl

theorem resetGuild (hs : s.Allows settings) (botId : String) {payload : Guild}
    (hp : payload.IsWellNamed) (hJ : ∀ f, J f) :
    Stamping s J (fun t => t.takeGuild botId payload none)
      (Cache.resetGuild settings botId payload) := by
  have hnamed := hp.fillIds
  have hguild := writeGuild (J := J) hs hnamed.1 (fun c hc => (hnamed.2.1 c hc).1) fun f _ => hJ _
  exact hguild.bind ((writeChildren hs hnamed).bind (addBot botId hnamed.1))

theorem applyReady (hs : s.Allows settings) (botId : String) {r : Ready}
    (hr : (Event.ready r).IsWellNamed) (hJ : ∀ f, J f) :
    Stamping s J (fun t => t.takeReady botId r) (Cache.applyReady settings botId r) := by
  obtain ⟨huser, hguilds, hcs⟩ := hr
  have hbot := write (J := J) hs (Slot.user r.user.id) r.user huser
    (fun _ ht => ht.setUser r.user) fun _ h => h
  have hrest := forM (s := s) (J := J) (fun t g => t.takeGuild botId g none) fun g hg =>
    resetGuild hs botId (hguilds g hg) hJ
  exact hbot.bind (hrest.bind ((writeChannels hs hcs).bind (indexChannels hcs)))

end Stamping

theorem passes_applyReady (hs : s.Allows settings) {botId : String} {r : Ready}
    (hr : (Event.ready r).IsWellNamed) (ht : t.Sound)
    (hP : ∀ t', t'.Sound → (t'.takeReady botId r).content = (t.takeReady botId r).content → P t') :
    (applyReady settings botId r).Passes s t P := by
  have hstamping := Stamping.applyReady (J := fun _ => True) hs botId hr fun _ => trivial
  have hkeeps := hstamping.keeps _ (t.takeReady botId r).content hstamping.stamps
    (.self hstamping.stamps)
  exact (hkeeps t ⟨ht, trivial, rfl⟩).1.mono fun t' ⟨ht', _, hsame⟩ => hP t' ht' hsame

theorem passes_addGuild (hf : s.fading = false) (hs : s.Allows settings) {botId : String}
    {payload : Guild} (hp : payload.IsWellNamed) (ht : t.Sound)
    (hP : ∀ t', t'.Sound → (t'.takeGuild botId payload (t'.guild payload.id)).content
      = (t.takeGuild botId payload (t.guild payload.id)).content → P t') :
    (addGuild settings botId payload).Passes s t P := by
  set cached := t.guild payload.id with hcached
  have hnamed := hp.fillIds
  have hid : PlainId payload.fillIds.id := hnamed.1
  have hstamps := Stamps.takeGuild botId payload cached
  -- What is kept of the guild is the same whether it was written already or not.
  have hdone : ∀ t', t'.Sound → t'.guild payload.id = cached
      ∨ t'.guild payload.id = some (payload.fillIds.carryOver cached) →
      (t'.takeGuild botId payload cached).content = (t.takeGuild botId payload cached).content →
      P t' := by
    intro t' ht' hguild hsame
    refine hP t' ht' ?_
    rcases hguild with hg | hg <;> rw [hg]
    · exact hsame
    · rw [takeGuild_carryOver, hsame]
  have hcarry := ht.isPlain_of_mem_carryOver hp fun old hold => hcached.symm.trans hold
  have hchildren := Stamping.writeChildren (J := fun f => f payload.id = cached) hs hnamed
  have hguild := Stamping.writeGuild (J := fun f => f payload.id = cached
      ∨ f payload.id = some (payload.fillIds.carryOver cached)) hs
    (by rwa [Guild.carryOver_id]) hcarry fun f _ =>
      .inr (if_pos (Guild.carryOver_id payload.fillIds cached).symm)
  have hrest := hguild.bind (.addBot botId hid)
  have hfirst : Covers (fun t => t.takeGuild botId payload cached)
      fun t => (t.putChannels payload.fillIds.channelList).putMembers payload.id
        payload.fillIds.memberList := .first hchildren.stamps hrest.stamps
  have hsecond : Covers (fun t => t.takeGuild botId payload cached) _ :=
    .second hchildren.stamps hrest.stamps
  obtain ⟨hpasses, hleads⟩ := hchildren.keeps _ (t.takeGuild botId payload cached).content hstamps
    hfirst t ⟨ht, rfl, rfl⟩
  refine (hpasses.mono fun t' h => hdone t' h.1 (.inl h.2.1) h.2.2).bind (hleads.mono ?_)
  rintro (e | _) t₁ ⟨ht₁, hg, hsame⟩
  · trivial
  refine (onlyReads_read _).found.step (hdone t₁ ht₁ (.inl hg) hsame)
    (leads_found_read (Slot.guild payload.id) hp.1 fun old hold => ?_)
  have hold : old = cached := (hold.eq hf).trans hg
  subst hold
  obtain ⟨hpasses, -⟩ := hrest.keeps _ _ hstamps hsecond t₁ ⟨ht₁, .inl hg, hsame⟩
  exact hpasses.mono fun t' h => hdone t' h.1 h.2.1 h.2.2

/-! ## Events -/

theorem passes_addEmojis (hf : s.fading = false) (hs : s.Allows settings) {guildId : String}
    {emojis : List Emoji} (hguild : PlainId guildId) (ht : t.Sound)
    (hP : ∀ before after, emojis = before ++ after →
      P (before.foldl (fun t e => t.changeGuild guildId (·.addEmoji e)) t)) :
    (emojis.forM (addEmoji settings guildId)).Passes s t P := by
  refine .forM (fun t e => t.changeGuild guildId (·.addEmoji e)) fun before e after heq => ?_
  have hsound : (before.foldl (fun t e => t.changeGuild guildId (·.addEmoji e)) t).Sound :=
    .foldl (fun _ _ _ ht => ht.changeGuild fun _ => rfl) ht
  refine ⟨passes_changeGuild (·.addEmoji e) hguild (hP before _ heq), ?_⟩
  refine (leads_changeGuild_updated hf hs (·.addEmoji e) (fun _ => rfl) hguild hsound).mono ?_
  rintro (e | _) t' ⟨h, -⟩
  · trivial
  · exact h

/-- Wherever an event breaks off, it leaves tables from which it can be tried again, but for the
two cases in which a record is gone. -/
theorem passes_update (hf : s.fading = false) (hs : s.Allows settings) {botId : String}
    {e : Event} (he : e.IsWellNamed) (hmessage : ∀ m, e ≠ .messageCreate m) (ht : t.Sound) :
    (update settings botId e).Passes s t (t.Interrupted settings botId e) := by
  have hstart : ∀ e, t.Interrupted settings botId e t := fun _ => .whole ht rfl
  have hmember : ∀ {e : Event} {m : Member}, m.IsWellNamed →
      (∀ t : Tables, t.updated settings botId e = t.takeMember m) →
      (addMember settings m).Passes s t (t.Interrupted settings botId e) := by
    intro e m hm hupdated
    refine passes_addMember hf hs hm ht fun t' h => .whole (h.sound ht (ht.takeMember hm)) ?_
    rw [hupdated, hupdated, takeMember_between_self ht h]
  have hchannel : ∀ {e : Event} {c : Channel}, c.IsWellNamed →
      (∀ t : Tables, t.updated settings botId e = t.takeChannel c) →
      (addChannel settings c).Passes s t (t.Interrupted settings botId e) := by
    intro e c hc hupdated
    refine passes_addChannel hf hs hc ht fun t' h => .whole (h.sound ht (ht.takeChannel hc)) ?_
    rw [hupdated, hupdated, takeChannel_between ht h]
  cases e with
  | ready r => exact passes_applyReady hs he ht fun t' ht' hsame => .whole ht' hsame
  | guildCreate g => exact passes_addGuild hf hs he ht fun t' ht' hsame => .whole ht' hsame
  | guildUpdate g => exact passes_addGuild hf hs he ht fun t' ht' hsame => .whole ht' hsame
  | guildDelete g =>
      refine passes_removeGuild hf he ht (hstart _) fun t' h => ?_
      cases hg : t.guild g.id with
      | some cached =>
          rw [hg] at h
          exact .guildGone hg h
      | none =>
          rw [hg] at h
          refine .whole h.sound ?_
          simp only [updated, h.gone, hg]
          exact congrArg content h.same
  | guildMemberAdd m => exact hmember he fun _ => rfl
  | guildMemberUpdate m => exact hmember he fun _ => rfl
  | guildMemberRemove m =>
      refine passes_removeMember he ht (hstart _) fun g t' hg h => ?_
      have hmove : Move (.guildMemberRemove m) t (t.removeMember g m.user.id) :=
        .memberGone _ (ht.guild_self hg)
      refine .whole (h.sound ht (hmove.sound ht)) ?_
      obtain ⟨g', hg', hsame⟩ := exists_removeMember_between ht hg h
      simp only [updated, hg, hg', hsame]
  | guildMembersChunk guildId members =>
      refine passes_addMembers hf hs he.1 he.2 ht fun before m after t' heq h => ?_
      have hbefore : ∀ m ∈ before, PlainId m.user.id := fun m hm =>
        he.2 m (heq ▸ List.mem_append_left _ hm)
      have hm : PlainId m.user.id := he.2 m (heq ▸ List.mem_append_right _ List.mem_cons_self)
      have hsound : (before.foldl (fun t m => t.takeMember { m with guildId }) t).Sound :=
        .foldl (fun m hm t ht => ht.takeMember ⟨he.1, hbefore m hm⟩) ht
      refine .whole (h.sound hsound (hsound.takeMember ⟨he.1, hm⟩)) ?_
      rw [heq]
      exact congrArg content (takeMembers_between_self ht he.1 hbefore h)
  | guildRoleCreate guildId r => exact passes_changeGuild (·.addRole r) he (hstart _)
  | guildRoleUpdate guildId r => exact passes_changeGuild (·.addRole r) he (hstart _)
  | guildRoleDelete guildId roleId =>
      exact passes_changeGuild (·.removeRole roleId) he (hstart _)
  | guildEmojisUpdate guildId emojis =>
      refine passes_addEmojis hf hs he ht fun before after heq => .whole ?_ ?_
      · exact .foldl (fun _ _ _ ht => ht.changeGuild fun _ => rfl) ht
      · simp only [updated, heq, List.foldl_append, addEmojis_addEmojis ht]
  | guildBanAdd guildId u => exact passes_addBan he ht (hstart _)
  | guildBanRemove guildId u => exact passes_removeBan he ht (hstart _)
  | channelCreate c => exact hchannel he fun _ => rfl
  | channelUpdate c => exact hchannel he fun _ => rfl
  | channelDelete c =>
      refine passes_removeChannel hs he ht (hstart _) (fun old g hold hkind hg => ?_)
        fun old t' hold h => .channelGone hold h
      refine .whole (ht.setGuild fun c' hc' => ?_) ?_
      · rw [Guild.channelList_removeChannel] at hc'
        exact ht.guild_channel hg c' (List.mem_of_mem_filter hc')
      · exact congrArg content (loseChannel_setGuild ht hold hkind hg)
  | channelPinsUpdate p => exact passes_updatePins he (hstart _)
  | presenceUpdate guildId p =>
      refine passes_addPresence hf hs he.1 he.2 ht (hstart _) fun g t' hg hoff h => ?_
      have hpresence := ht.setPresence hg p
      have hseen := memberSeen_isWellNamed ht he.1 he.2
      exact .whole (h.sound hpresence (hpresence.takeMember hseen))
        (congrArg content (takePresence_between ht hg hoff h))
  | messageCreate m => exact absurd rfl (hmessage m)
  | _ => exact passes_pure ()

theorem passes_apply (hf : s.fading = false) (hs : s.Allows settings) {botId : String}
    {e : Event} (he : e.IsWellNamed) (hmessage : ∀ m, e ≠ .messageCreate m) (ht : t.Sound) :
    (apply settings botId e).Passes s t (t.Interrupted settings botId e) := by
  refine (passes_update hf hs he hmessage ht).bind ((leads_update_updated hf hs he ht).mono ?_)
  rintro (_ | _) t' -
  · trivial
  · exact passes_pure _

end Cache

namespace World

open Tables

/-- The world when one call will fail, after some that pass. -/
def failing (w : World) (after : Nat) (error : CacheError) : World :=
  { w with host := w.host.failing after 1 error }

/-- The world when nothing fails any more. -/
def recovered (w : World) : World :=
  { w with host := w.host.recovered }

/-- An event that broke off because the store could not be reached is completed when it is applied
again, whatever call it was: what is under every key then is what there would have been without the
failure. But the end of a guild or of a channel must find the record that it drops first. When the
failure came after that, the channels of the guild, or the messages of the channel, and the entries
in the index stay where they are. -/
theorem Reachable.retried_event_completes {ns : String} {settings : CacheSettings} {w : World}
    (h : Reachable ns settings Event.IsWellNamed w) (hexpiry : settings.expiry = none)
    (botId : String) {e : Event} (he : e.IsWellNamed) (hmessage : ∀ m, e ≠ .messageCreate m)
    {n : Nat} {error : CacheError} (herror : error.isTransient = true)
    (hfails : (w.failing n error).result ns settings botId e = .error error) :
    let cut := ((w.failing n error).after ns settings botId e).recovered
    (∀ name,
      ((∀ k, e.root = some k → (cut.host.value ns k).isSome = (w.host.value ns k).isSome)
        ∨ ∀ k, k.IsPlain → e.needsRootFor k = true → k.text ns ≠ name) →
      (cut.after ns settings botId e).host.content name
        = (w.after ns settings botId e).host.content name)
    ∧ ∀ root, e.root = some root → cut.host.value ns root = none →
      (∀ g, e = .guildDelete g → g.channelList = []) →
      ∀ k, k.IsPlain → e.needsRootFor k = true →
        (cut.after ns settings botId e).host.content (k.text ns)
          = cut.host.content (k.text ns) := by
  intro cut
  obtain ⟨t, ht, -, hw⟩ := h.exists_tables (I := fun _ => True) settings.surroundings_allows rfl
    (fun _ he => he) trivial fun _ _ _ _ _ _ _ => trivial
  have hf : settings.surroundings.quiet.fading = false := CacheSettings.not_fading hexpiry
  have hs : settings.surroundings.quiet.Allows settings := settings.surroundings_allows
  have hstill := hw.host.withBansOf
  have ht₀ : (t.withBansOf ns w.host).Sound := { ht with }
  generalize t.withBansOf ns w.host = t₀ at *
  have hfirst := shows_after hstill hf hs ht₀ botId he
  have hleads : (Cache.apply settings botId e).Leads settings.surroundings.quiet t₀
      fun _ t' => t' = t₀.updated settings botId e :=
    Cache.leads_apply (Cache.leads_update_updated hf hs he ht₀)
  obtain ⟨t', hinterrupted, hcut⟩ : ∃ t', t₀.Interrupted settings botId e t'
      ∧ cut.host.Shows ns settings.surroundings.quiet t'.content := by
    obtain ⟨_, ⟨t', rfl, ht'⟩, hcut⟩ := Program.Passes.run_failing herror n
      (Cache.scripted_apply settings botId e).stops (Cache.passes_apply hf hs he hmessage ht₀)
      hleads hstill hfails
    exact ⟨t', ht', hcut⟩
  have hretried := shows_after hcut hf hs hinterrupted.sound botId he
  have hvalue : ∀ {h : Host} {t : Tables} {root : Key}, e.root = some root →
      h.Shows ns settings.surroundings.quiet t.content →
      h.value ns root = (t.content root).value := fun hroot hv =>
    congrArg Host.Content.value (hv.content_eq (he.isPlain_root hroot) rfl hf)
  refine ⟨fun name hname => ?_, fun root hroot hgone hdelete k hk hneeds => ?_⟩
  · refine hfirst.content_congr hretried hf (fun k hk => nomatch hk) fun k hk htext => ?_
    rcases hname with hkept | hother
    · refine congrFun (hinterrupted.content_updated_of_root fun root hroot => ?_) k
      rw [← hvalue hroot hcut, ← hvalue hroot hstill]
      exact hkept root hroot
    · refine hinterrupted.content_updated (Bool.eq_false_iff.mpr fun hneeds => ?_)
      exact hother k hk hneeds htext
  · rw [hvalue hroot hcut] at hgone
    rw [hretried.content_eq hk rfl hf, hcut.content_eq hk rfl hf]
    exact content_updated_of_no_root hroot hgone hdelete hneeds

/-- The world after a user has written to the bot. -/
def sampleDirect : World :=
  { host := {} : World }.after "relay" {} "3" (.channelCreate { id := "2", kind := .directMessage })

/-- The end of the conversation. -/
def sampleClose : Event :=
  .channelDelete { id := "2" }

/-- The world when the conversation has ended, but for the last two calls. -/
def sampleCut : World :=
  ((sampleDirect.failing 2 (.unavailable "down")).after "relay" {} "3" sampleClose).recovered

theorem sampleCut_retried :
    (sampleDirect.after "relay" {} "3" sampleClose).host.members "relay" .allChannelIds = []
    ∧ (sampleCut.after "relay" {} "3" sampleClose).host.members "relay" .allChannelIds = ["2"]
    ∧ ∀ name, name ≠ Key.text "relay" .allChannelIds →
      name ≠ Key.text "relay" (.channelMessages "2") →
      (sampleCut.after "relay" {} "3" sampleClose).host.content name
        = (sampleDirect.after "relay" {} "3" sampleClose).host.content name := by
  have hreachable : Reachable "relay" {} Event.IsWellNamed sampleDirect :=
    (Reachable.start rfl fun _ => rfl).after "3" ⟨by decide, by decide⟩
  have hfails : (sampleDirect.failing 2 (.unavailable "down")).result "relay" {} "3" sampleClose
      = .error (.unavailable "down") := by decide +kernel
  obtain ⟨hsame, hleft⟩ := hreachable.retried_event_completes rfl "3" (e := sampleClose)
    ⟨by decide, by decide⟩ (fun _ h => nomatch h) rfl hfails
  have hgone : sampleCut.host.value "relay" (.channel "2") = none
      ∧ sampleCut.host.members "relay" .allChannelIds = ["2"] := by decide +kernel
  refine ⟨by decide +kernel, ?_, fun name hindex hmessages => hsame name (.inr fun k _ hk => ?_)⟩
  · have hindex := hleft _ rfl hgone.1 (fun _ h => nomatch h) .allChannelIds trivial rfl
    exact (congrArg Host.Content.members hindex).trans hgone.2
  · cases k with
    | allChannelIds => exact hindex.symm
    | channelMessages channelId =>
        obtain rfl : channelId = "2" := of_decide_eq_true hk
        exact hmessages.symm
    | _ => cases hk

end World

end GuildRelay
