import GuildRelay.Proofs.Cache.Errors
import GuildRelay.Proofs.Cache.Places
import GuildRelay.Proofs.Store.Order
/-!
# Events of different guilds

Two events of different guilds that name no user and no channel in common may be applied in either
order. What one of them does is local to its guild and to the users and channels that it names
(`Tables.local_updated`), and the scopes of the two are apart. The one handler that looks at other
guilds is that of members who leave, which asks where else they are members; but other events of
other guilds tell of other users.

A presence and the end of a channel follow what is cached, the guild of a member and of a channel.
Both stay in the event's own guild if what they find belongs to it (`Tables.FindsOwn`).
-/

namespace GuildRelay

namespace Event

/-- The guild of an event that concerns no other. -/
def home? : Event → Option String
  | guildMemberAdd m => some m.guildId
  | guildMemberUpdate m => some m.guildId
  | guildMemberRemove m => some m.guildId
  | guildMembersChunk guildId _ => some guildId
  | guildRoleCreate guildId _ => some guildId
  | guildRoleUpdate guildId _ => some guildId
  | guildRoleDelete guildId _ => some guildId
  | guildEmojisUpdate guildId _ => some guildId
  | guildBanAdd guildId _ => some guildId
  | guildBanRemove guildId _ => some guildId
  | channelCreate c => if c.isPrivate then none else some c.guildId
  | channelUpdate c => if c.isPrivate then none else some c.guildId
  | channelDelete c => some c.guildId
  | presenceUpdate guildId _ => some guildId
  | _ => none

theorem home?_channel {c : Channel} {guildId : String}
    (h : (if c.isPrivate then none else some c.guildId) = some guildId) :
    c.isPrivate = false ∧ c.guildId = guildId := by
  split at h
  · cases h
  · next hkind => exact ⟨Bool.eq_false_iff.mpr hkind, Option.some.inj h⟩

theorem guilds_of_home {e : Event} {guildId : String} (h : e.home? = some guildId) :
    e.guilds = [] := by
  cases e <;> first | rfl | cases h

/-- The users whom the event is about. -/
def userIds : Event → List String
  | guildMemberAdd m => [m.user.id]
  | guildMemberUpdate m => [m.user.id]
  | guildMemberRemove m => [m.user.id]
  | guildMembersChunk _ members => members.map (·.user.id)
  | guildBanAdd _ u => [u.id]
  | guildBanRemove _ u => [u.id]
  | presenceUpdate _ p => [p.user.id]
  | _ => []

/-- The channels that the event is about. -/
def channelIds : Event → List String
  | channelCreate c => [c.id]
  | channelUpdate c => [c.id]
  | channelDelete c => [c.id]
  | _ => []

/-- The scope of an event of a guild. -/
def scope (e : Event) (guildId : String) : Scope :=
  ⟨guildId, e.userIds, e.channelIds⟩

end Event

namespace Tables

variable {sc : Scope}

/-! ## Handlers are local -/

/-- The guild of the scope is kept under its own id. -/
def HasOwnId (sc : Scope) (t : Tables) : Prop :=
  ∀ g, t.guild sc.guildId = some g → g.id = sc.guildId

theorem hasOwnId_setGuild {t : Tables} {g : Guild} (hg : g.id = sc.guildId) :
    (t.setGuild g).HasOwnId sc := by
  intro r hr
  rcases guild_setGuild hr with ⟨-, rfl⟩ | ⟨hne, -⟩
  · exact hg
  · exact absurd hg.symm hne

theorem local_changeGuild {guildId : String} (hg : guildId = sc.guildId)
    (change : Guild → Guild) (hid : ∀ g, (change g).id = g.id) :
    Local sc (HasOwnId sc) fun t => t.changeGuild guildId change := by
  subst hg
  refine .choose fun t ht => ?_
  cases hr : t.guild sc.guildId with
  | none => exact ⟨_, .idle, fun t' h => by simp only [changeGuild, ← h.guild, hr]⟩
  | some g =>
      exact ⟨_, .setGuild ((hid g).trans (ht g hr)), fun t' h => by
        simp only [changeGuild, ← h.guild, hr]⟩

theorem hasOwnId_changeGuild {t : Tables} {guildId : String} {change : Guild → Guild}
    (hid : ∀ g, (change g).id = g.id) (hg : guildId = sc.guildId) (ht : t.HasOwnId sc) :
    (t.changeGuild guildId change).HasOwnId sc := by
  subst hg
  unfold changeGuild
  cases hr : t.guild sc.guildId with
  | none => exact ht
  | some g => exact hasOwnId_setGuild ((hid g).trans (ht g hr))

theorem local_takeMember {m : Member} (hg : m.guildId = sc.guildId) (hu : m.user.id ∈ sc.users) :
    Local sc (HasOwnId sc) fun t => t.takeMember m := by
  refine .choose fun t ht => ?_
  cases hr : t.guild sc.guildId with
  | none => exact ⟨_, .idle, fun t' h => by simp only [takeMember, hg, ← h.guild, hr]⟩
  | some g =>
      refine ⟨_, .storeMember (m := m.carryOver (t.member sc.guildId m.user.id)) (ht g hr) ?_,
        fun t' h => ?_⟩
      · rwa [Member.carryOver_user]
      · simp only [takeMember, hg, ← h.guild, ← h.member, hr]

theorem hasOwnId_takeMember {t : Tables} {m : Member} (hg : m.guildId = sc.guildId)
    (ht : t.HasOwnId sc) : (t.takeMember m).HasOwnId sc := by
  unfold takeMember
  rw [hg]
  cases hr : t.guild sc.guildId with
  | none => exact ht
  | some g => exact hasOwnId_setGuild (g := g.addMember _) (ht g hr)

/-- The member that a presence tells of is the user's, in the guild where the cached member is at
home. -/
theorem memberSeen_own {t : Tables} (ht : t.Sound) {guildId : String} {p : Presence}
    (hhome : ∀ m, t.member guildId p.user.id = some m → m.guildId = guildId) :
    (t.memberSeen guildId p).guildId = guildId ∧ (t.memberSeen guildId p).user.id = p.user.id := by
  cases hm : t.member guildId p.user.id with
  | some m =>
      rw [memberSeen_of_some hm]
      have huser : m.user.id = p.user.id := ht.member_user hm
      exact ⟨hhome m hm, huser⟩
  | none =>
      rw [memberSeen_of_none hm]
      exact ⟨rfl, ht.newMember_user p guildId⟩

theorem local_takePresence {guildId : String} (hg : guildId = sc.guildId) {p : Presence}
    (hu : p.user.id ∈ sc.users) :
    Local sc (fun t => t.Sound ∧ ∀ m, t.member guildId p.user.id = some m → m.guildId = guildId)
      fun t => t.takePresence guildId p := by
  subst hg
  refine .choose fun t ⟨ht, hhome⟩ => ?_
  cases hr : t.guild sc.guildId with
  | none => exact ⟨_, .idle, fun t' h => by simp only [takePresence, ← h.guild, hr]⟩
  | some g =>
      have hid : (g.addPresence p).id = sc.guildId := by
        rw [← ht.guild_id hr]
        rfl
      have hwrite : Local sc (fun t => t.Sound ∧ ∀ m, t.member sc.guildId p.user.id = some m →
          m.guildId = sc.guildId) fun t' => t'.setGuild (g.addPresence p) := .setGuild hid
      by_cases hoff : p.status = some .offline
      · exact ⟨_, hwrite, fun t' h => by simp only [takePresence, ← h.guild, hr, if_pos hoff]⟩
      · obtain ⟨hguild, huser⟩ := memberSeen_own ht hhome
        refine ⟨_, (local_takeMember hguild (huser ▸ hu)).comp hwrite fun t' _ => ?_,
          fun t' h => ?_⟩
        · exact hasOwnId_setGuild hid
        · have hseen : t.memberSeen sc.guildId p = t'.memberSeen sc.guildId p := by
            unfold memberSeen
            rw [h.member, h.user hu]
          simp only [takePresence, ← h.guild, hr, if_neg hoff, hseen]

theorem local_removeMember {guildId userId : String} (hg : guildId = sc.guildId)
    (hu : userId ∈ sc.users) :
    Local sc (HasOwnId sc) fun t =>
      match t.guild guildId with
      | some g => t.removeMember g userId
      | none => t := by
  subst hg
  refine .choose fun t ht => ?_
  cases hr : t.guild sc.guildId with
  | none => exact ⟨_, .idle, fun t' h => by simp only [← h.guild, hr]⟩
  | some g => exact ⟨_, .removeMember (ht g hr) hu, fun t' h => by simp only [← h.guild, hr]⟩

theorem local_takeChannel {payload : Channel} (hkind : payload.isPrivate = false)
    (hg : payload.guildId = sc.guildId) (hc : payload.id ∈ sc.channels) :
    Local sc (HasOwnId sc) fun t => t.takeChannel payload := by
  refine .choose fun t ht => ?_
  have hkind' : ¬payload.isPrivate = true := Bool.eq_false_iff.mp hkind
  cases hr : t.guild sc.guildId with
  | none =>
      exact ⟨_, .idle, fun t' h => by simp only [takeChannel, if_neg hkind', hg, ← h.guild, hr]⟩
  | some g =>
      set c := payload.carryOver (t.channel payload.id) with hcarry
      have hcid : c.id ∈ sc.channels := by
        rwa [hcarry, Channel.carryOver_id]
      have hwrite : Local sc (HasOwnId sc) fun t' => t'.setGuild (g.addChannel c) :=
        .setGuild (ht g hr)
      refine ⟨_, (Local.putChannels hcid).after hwrite, fun t' h => ?_⟩
      simp only [takeChannel, if_neg hkind', hg, ← h.guild, hr, ← h.channel hc, ← hcarry]

theorem local_loseChannel {guildId channelId : String} (hg : guildId = sc.guildId)
    (hc : channelId ∈ sc.channels) :
    Local sc (fun t => t.HasOwnId sc ∧ ∀ c, t.channel channelId = some c →
      c.isPrivate = false ∧ c.guildId = guildId) fun t => t.loseChannel channelId := by
  subst hg
  refine .choose fun t ⟨ht, hown⟩ => ?_
  cases hr : t.channel channelId with
  | none => exact ⟨_, .idle, fun t' h => by simp only [loseChannel, ← h.channel hc, hr]⟩
  | some c =>
      obtain ⟨hkind, hguild⟩ := hown c hr
      have hkind' : ¬c.isPrivate = true := Bool.eq_false_iff.mp hkind
      cases hr' : t.guild sc.guildId with
      | none =>
          exact ⟨_, .idle, fun t' h => by
            simp only [loseChannel, ← h.channel hc, hr, if_neg hkind', hguild, ← h.guild, hr']⟩
      | some g =>
          have hwrite : Local sc (fun t => t.HasOwnId sc ∧ ∀ c, t.channel channelId = some c →
              c.isPrivate = false ∧ c.guildId = sc.guildId)
              fun t' => t'.setGuild (g.removeChannel channelId) := .setGuild (ht g hr')
          refine ⟨_, (Local.removeChannel hc).after hwrite, fun t' h => ?_⟩
          simp only [loseChannel, ← h.channel hc, hr, if_neg hkind', hguild, ← h.guild, hr']

theorem local_changeBans (botId : String) {guildId : String} (hg : guildId = sc.guildId)
    {I : Tables → Prop} (change : List String → List String) :
    Local sc I fun t =>
      if t.mayReadBans botId guildId then
        (Index.guildBanned guildId).put (change (t.guildBannedUserIds guildId)) t
      else t := by
  subst hg
  refine .choose fun t _ => ?_
  have hsame : ∀ t', sc.Agrees t t' →
      t'.mayReadBans botId sc.guildId = t.mayReadBans botId sc.guildId := by
    intro t' h
    unfold mayReadBans
    rw [h.guild]
    simp only [h.member]
  cases hmay : t.mayReadBans botId sc.guildId with
  | true => exact ⟨_, .putBanned rfl change, fun t' h => if_pos ((hsame t' h).trans hmay)⟩
  | false =>
      refine ⟨_, .idle, fun t' h => if_neg ?_⟩
      rw [hsame t' h, hmay]
      exact Bool.false_ne_true

/-! ## Events are local -/

/-- The cached member and the cached channel that the event follows belong to the guild. -/
def FindsOwn (t : Tables) (guildId : String) : Event → Prop
  | .presenceUpdate _ p => ∀ m, t.member guildId p.user.id = some m → m.guildId = guildId
  | .channelDelete c => ∀ r, t.channel c.id = some r → r.isPrivate = false ∧ r.guildId = guildId
  | _ => True

/-- What an event of a guild finds is in its scope. -/
theorem FindsOwn.congr {t t' : Tables} {guildId : String} {e : Event} (h : t.FindsOwn guildId e)
    (hsame : (e.scope guildId).Agrees t t') : t'.FindsOwn guildId e := by
  cases e with
  | presenceUpdate _ p =>
      intro m hm
      exact h m ((hsame.member p.user.id).trans hm)
  | channelDelete c =>
      intro r hr
      exact h r ((hsame.channel List.mem_cons_self).trans hr)
  | _ => trivial

/-- What an event of a guild does is local to the guild and to what the event names. -/
theorem local_updated (settings : CacheSettings) (botId : String) {e : Event} {guildId : String}
    (hhome : e.home? = some guildId) :
    Local (e.scope guildId) (fun t => t.Sound ∧ t.FindsOwn guildId e)
      fun t => t.updated settings botId e := by
  have hown : ∀ t : Tables, t.Sound ∧ t.FindsOwn guildId e → t.HasOwnId (e.scope guildId) :=
    fun t ht g hg => ht.1.guild_id hg
  cases e with
  | guildMemberAdd m =>
      cases hhome
      exact (local_takeMember rfl List.mem_cons_self).mono hown
  | guildMemberUpdate m =>
      cases hhome
      exact (local_takeMember rfl List.mem_cons_self).mono hown
  | guildMemberRemove m =>
      cases hhome
      exact (local_removeMember rfl List.mem_cons_self).mono hown
  | guildMembersChunk _ members =>
      cases hhome
      refine Local.mono (.foldl (fun m hm => local_takeMember rfl ?_) fun m _ t ht =>
        hasOwnId_takeMember rfl ht) hown
      have hu : m.user.id ∈ members.map (·.user.id) := List.mem_map_of_mem hm
      exact hu
  | guildRoleCreate _ r =>
      cases hhome
      exact (local_changeGuild rfl (·.addRole r) fun _ => rfl).mono hown
  | guildRoleUpdate _ r =>
      cases hhome
      exact (local_changeGuild rfl (·.addRole r) fun _ => rfl).mono hown
  | guildRoleDelete _ roleId =>
      cases hhome
      exact (local_changeGuild rfl (·.removeRole roleId) fun _ => rfl).mono hown
  | guildEmojisUpdate _ emojis =>
      cases hhome
      refine Local.mono (.foldl (fun e _ => local_changeGuild rfl (·.addEmoji e) fun _ => rfl)
        fun e _ t ht => ?_) hown
      exact hasOwnId_changeGuild (fun _ => rfl) rfl ht
  | guildBanAdd _ u =>
      cases hhome
      exact local_changeBans botId rfl (insertAll [u.id])
  | guildBanRemove _ u =>
      cases hhome
      exact local_changeBans botId rfl (List.filter (· != u.id))
  | channelCreate c =>
      obtain ⟨hkind, rfl⟩ := Event.home?_channel hhome
      exact (local_takeChannel hkind rfl List.mem_cons_self).mono hown
  | channelUpdate c =>
      obtain ⟨hkind, rfl⟩ := Event.home?_channel hhome
      exact (local_takeChannel hkind rfl List.mem_cons_self).mono hown
  | channelDelete c =>
      cases hhome
      exact (local_loseChannel rfl List.mem_cons_self).mono fun t ht => ⟨hown t ht, ht.2⟩
  | presenceUpdate _ p =>
      cases hhome
      exact local_takePresence rfl List.mem_cons_self
  | _ => cases hhome

theorem guildNeeded_home {e : Event} {guildId other : String} (hhome : e.home? = some guildId)
    (hneeded : e.guildNeeded = some other) : other = guildId := by
  have hlist : ∀ {α : Type} {items : List α} {g : String},
      (if items.isEmpty then none else some g) = some other → g = other := by
    intro α items g h
    split at h
    · cases h
    · exact Option.some.inj h
  cases e with
  | guildMembersChunk g members => exact (hlist hneeded).symm.trans (Option.some.inj hhome)
  | guildEmojisUpdate g emojis => exact (hlist hneeded).symm.trans (Option.some.inj hhome)
  | _ => first
    | exact Option.some.inj (hneeded.symm.trans hhome)
    | cases hneeded

/-- Whether something is missing for an event of a guild is found out in its scope. -/
theorem Misses.agrees {t t' : Tables} {e : Event} {guildId : String}
    (hhome : e.home? = some guildId) (hown : t.FindsOwn guildId e)
    (hsame : (e.scope guildId).Agrees t t') (h : t.Misses e) : t'.Misses e := by
  cases h with
  | guild hneeded hnone =>
      refine .guild hneeded ?_
      obtain rfl := guildNeeded_home hhome hneeded
      exact hsame.guild.symm.trans hnone
  | channel hneeded hnone =>
      cases e with
      | channelDelete c =>
          cases hneeded
          exact .channel rfl ((hsame.channel List.mem_cons_self).symm.trans hnone)
      | channelPinsUpdate p => cases hhome
      | _ => cases hneeded
  | guildOfChannel hc hkind hnone =>
      cases hhome
      refine .guildOfChannel ((hsame.channel List.mem_cons_self).symm.trans hc) hkind ?_
      rw [(hown _ hc).2] at hnone ⊢
      exact hsame.guild.symm.trans hnone

theorem misses_congr {t t' : Tables} {e : Event} {guildId : String}
    (hhome : e.home? = some guildId) (hown : t.FindsOwn guildId e)
    (hsame : (e.scope guildId).Agrees t t') : t.Misses e ↔ t'.Misses e :=
  ⟨.agrees hhome hown hsame, .agrees hhome (hown.congr hsame) hsame.symm⟩

section Order

variable {t : Tables} {settings : CacheSettings} {botId botId' : String} {e e' : Event}
  {guildId guildId' : String} (ht : t.Sound) (he' : e'.IsWellNamed)
  (hhome : e.home? = some guildId) (hhome' : e'.home? = some guildId')
  (hapart : (e.scope guildId).Apart (e'.scope guildId'))
  (hown : t.FindsOwn guildId e) (hown' : t.FindsOwn guildId' e')

include ht hhome' hapart hown'

theorem agrees_updated : (e.scope guildId).Agrees t (t.updated settings botId' e') :=
  (local_updated settings botId' hhome').agrees_of_apart hapart ⟨ht, hown'⟩

include he' hhome hown

/-- Events that are apart may be applied in either order. -/
theorem look_updated_comm (he : e.IsWellNamed) (p : Spot) :
    ((t.updated settings botId e).updated settings botId' e').look p
      = ((t.updated settings botId' e').updated settings botId e).look p := by
  have hkept : (e.scope guildId).Agrees t (t.updated settings botId' e') :=
    agrees_updated ht hhome' hapart hown'
  have hkept' : (e'.scope guildId').Agrees t (t.updated settings botId e) :=
    agrees_updated ht hhome hapart.symm hown
  exact (local_updated settings botId hhome).comm (local_updated settings botId' hhome') hapart
    ⟨ht, hown⟩ ⟨ht.updated settings botId' he', hown.congr hkept⟩
    ⟨ht, hown'⟩ ⟨ht.updated settings botId he, hown'.congr hkept'⟩ p

end Order

end Tables

/-! ## Worlds -/

theorem Host.Shows.congr {ns : String} {s : Surroundings} {h : Host} {v v' : View}
    (hv : h.Shows ns s v) (hsame : ∀ k : Key, k.IsPlain → v k = v' k) : h.Shows ns s v' where
  faultless := hv.faultless
  plain k hk := hsame k hk ▸ hv.plain k hk
  other := hv.other

/-- Tables with the same at all places are kept the same way, if their sets are in order. -/
theorem Tables.content_eq_of_look {t t' : Tables} (hlook : ∀ p, t.look p = t'.look p) {k : Key}
    (hk : (t.content k).members.Pairwise (· < ·)) (hk' : (t'.content k).members.Pairwise (· < ·)) :
    t.content k = t'.content k := by
  have hset : ∀ {ids ids' : List String}, ids.Pairwise (· < ·) → ids'.Pairwise (· < ·) →
      (∀ id, (id ∈ ids) = (id ∈ ids')) → Host.Content.index ids = Host.Content.index ids' :=
    fun hids hids' hmem => congrArg Host.Content.index
      (List.Pairwise.eq_of_mem_iff hids hids' fun id => iff_of_eq (hmem id))
  cases k with
  | guild guildId => exact congrArg Host.Content.record (hlook (.guild guildId))
  | member guildId userId => exact congrArg Host.Content.record (hlook (.member guildId userId))
  | channel channelId => exact congrArg Host.Content.record (hlook (.channel channelId))
  | user userId => exact congrArg Host.Content.record (hlook (.user userId))
  | channelMessages channelId =>
      have hsame : t.messages channelId = t'.messages channelId := hlook (.messages channelId)
      simp only [content, hsame]
  | allGuildIds => exact congrArg Host.Content.index (hlook .guildIds)
  | allUserIds => exact hset hk hk' fun u => hlook (.userId u)
  | allChannelIds => exact hset hk hk' fun c => hlook (.channelId c)
  | guildUserIds guildId => exact hset hk hk' fun u => hlook (.guildUserId guildId u)
  | guildBotIds guildId => exact congrArg Host.Content.index (hlook (.guildBotIds guildId))
  | guildBannedUserIds guildId =>
      exact congrArg Host.Content.index (hlook (.guildBannedUserIds guildId))
  | banInitializedGuildIds => exact congrArg Host.Content.index (hlook .banInitializedGuildIds)
  | claim => rfl

/-- Hosts that show tables with the same at all places keep the same under every name. -/
theorem Host.Shows.content_eq_of_look {ns : String} {s : Surroundings} {h h' : Host}
    {t t' : Tables} (hv : h.Shows ns s.quiet t.content) (hv' : h'.Shows ns s.quiet t'.content)
    (hf : s.quiet.fading = false) (ho : h.InOrder) (ho' : h'.InOrder)
    (hlook : ∀ p, t.look p = t'.look p) (name : String) : h.content name = h'.content name := by
  have horder : ∀ {h : Host} {t : Tables} {k : Key}, h.Shows ns s.quiet t.content → h.InOrder →
      k.IsPlain → (t.content k).members.Pairwise (· < ·) := by
    intro h t k hv ho hk
    rw [← hv.content_eq hk rfl hf]
    exact ho (k.text ns)
  have hsame : h.Shows ns s.quiet t'.content := hv.congr fun k hk =>
    Tables.content_eq_of_look hlook (horder hv ho hk) (horder hv' ho' hk)
  exact hv'.content_unique hsame hf fun k hk => nomatch hk

/-- The channel that an event deletes belongs to the event's guild where it is cached. -/
def Host.HoldsOwn (h : Host) (ns : String) : Event → Prop
  | .channelDelete c => ∀ text (cached : Channel), h.value ns (.channel c.id) = some text →
    Cache.readText text = .ok cached → cached.isPrivate = false ∧ cached.guildId = c.guildId
  | _ => True

/-- A host that holds its own shows tables in which an event finds its own. -/
theorem Host.Shows.findsOwn {ns : String} {s : Surroundings} {h : Host} {t : Tables}
    (hv : h.Shows ns s t.content) (hf : s.fading = false) (hmembers : t.MembersAtHome)
    {e : Event} {guildId : String} (he : e.IsWellNamed) (hhome : e.home? = some guildId)
    (hown : h.HoldsOwn ns e) : t.FindsOwn guildId e := by
  cases e with
  | presenceUpdate _ p =>
      cases hhome
      exact hmembers guildId p.user.id
  | channelDelete c =>
      cases hhome
      intro cached hcached
      have hvalue := hv.value_eq (Tables.Slot.channel c.id) he.1 hf
      rw [show (Tables.Slot.channel c.id).get t = some cached from hcached] at hvalue
      exact hown _ cached hvalue (Cache.readText_json cached)
  | _ => trivial

namespace World

open Tables

variable {ns : String} {settings : CacheSettings} {allowed : Event → Prop} {w w' : World}

/-! ### Sets are in order -/

theorem Shifts.inOrder (h : Shifts ns w w') (hw : w.host.InOrder) : w'.host.InOrder := by
  cases h with
  | wait _ => exact hw
  | start _ _ _ => exact hw
  | call _ => exact hw.call _ _
  | fetch _ => exact hw

theorem Runs.inOrder {α : Type} {p : Program Key α} {a : α} (h : Runs ns p w a w')
    (hw : w.host.InOrder) : w'.host.InOrder := by
  induction h with
  | done => exact hw
  | call _ ih => exact ih (hw.call _ _)
  | fetch _ ih => exact ih hw
  | shift hshift _ ih => exact ih (hshift.inOrder hw)

theorem Reachable.inOrder (h : Reachable ns settings allowed w) : w.host.InOrder := by
  induction h with
  | start hstore _ => exact Host.inOrder_of_empty hstore
  | shift _ hshift ih => exact hshift.inOrder ih
  | event _ _ _ hruns ih => exact hruns.inOrder ih

/-! ### Two events -/

/-- When nothing goes on beside it, a world of events whose guilds own their members shows tables
with the ban data that it has. -/
theorem Reachable.exists_still
    (h : Reachable ns settings (fun e => e.IsWellNamed ∧ ∀ g ∈ e.guilds, g.OwnsMembers) w) :
    ∃ t : Tables, t.Sound ∧ t.MembersAtHome
      ∧ w.host.Shows ns settings.surroundings.quiet t.content := by
  obtain ⟨t, ht, hhome, hw⟩ := h.exists_tables settings.surroundings_allows rfl
    (fun _ he => he.1) membersAtHome_empty fun _ _ _ he _ hI hmove => hmove.membersAtHome he.2 hI
  exact ⟨t.withBansOf ns w.host, { ht with }, hhome, hw.host.withBansOf⟩

/-- Where nothing expires, the result of an event is an error just if something is missing. -/
theorem Reachable.result_eq
    (h : Reachable ns settings (fun e => e.IsWellNamed ∧ ∀ g ∈ e.guilds, g.OwnsMembers) w)
    (hexpiry : settings.expiry = none) (botId : String) {e : Event} (he : e.IsWellNamed) :
    (w.host.Misses ns e ∧ w.result ns settings botId e = .error .notFound)
      ∨ (¬w.host.Misses ns e ∧ w.result ns settings botId e = .ok (Cache.bansToCheck e)) := by
  obtain ⟨t, ht, hhome, hw⟩ := h.exists_still
  have hf : settings.surroundings.quiet.fading = false := CacheSettings.not_fading hexpiry
  have hs : settings.surroundings.quiet.Allows settings := settings.surroundings_allows
  have hleads : (Cache.apply settings botId e).Leads settings.surroundings.quiet t fun r _ =>
      (t.Misses e ∧ r = .error .notFound) ∨ (¬t.Misses e ∧ r = .ok (Cache.bansToCheck e)) := by
    refine Cache.leads_apply ((Cache.leads_update_settles hf hs he ht hhome).mono ?_)
    rintro r t' hend
    cases hend with
    | ok hthere => exact .inr ⟨hthere, rfl⟩
    | error hmiss => exact .inl ⟨hmiss, rfl⟩
  obtain ⟨_, ⟨t', rfl, hend⟩, -⟩ := Program.Ensures.run hleads hw
  rw [hw.misses_iff hf ht he]
  exact hend

/-- Results are the same where the same is missing. -/
theorem Reachable.result_congr
    (h : Reachable ns settings (fun e => e.IsWellNamed ∧ ∀ g ∈ e.guilds, g.OwnsMembers) w)
    (h' : Reachable ns settings (fun e => e.IsWellNamed ∧ ∀ g ∈ e.guilds, g.OwnsMembers) w')
    (hexpiry : settings.expiry = none) (botId : String) {e : Event} (he : e.IsWellNamed)
    (hsame : w'.host.Misses ns e ↔ w.host.Misses ns e) :
    w'.result ns settings botId e = w.result ns settings botId e := by
  rcases h.result_eq hexpiry botId he with ⟨hmiss, hresult⟩ | ⟨hthere, hresult⟩ <;>
    rcases h'.result_eq hexpiry botId he with ⟨hmiss', hresult'⟩ | ⟨hthere', hresult'⟩
  · rw [hresult, hresult']
  · exact absurd (hsame.mpr hmiss) hthere'
  · exact absurd (hsame.mp hmiss') hthere
  · rw [hresult, hresult']

/-- Where nothing expires, two events of different guilds that name no user and no channel in common
may be applied in either order: their results are the same, and so is what is under every key. -/
theorem Reachable.events_of_different_guilds_commute
    (h : Reachable ns settings (fun e => e.IsWellNamed ∧ ∀ g ∈ e.guilds, g.OwnsMembers) w)
    (hexpiry : settings.expiry = none) (botId botId' : String) {e e' : Event}
    {guildId guildId' : String} (he : e.IsWellNamed) (he' : e'.IsWellNamed)
    (hhome : e.home? = some guildId) (hhome' : e'.home? = some guildId')
    (hguild : guildId ≠ guildId') (husers : ∀ u ∈ e.userIds, u ∉ e'.userIds)
    (hchannels : ∀ c ∈ e.channelIds, c ∉ e'.channelIds) (hown : w.host.HoldsOwn ns e)
    (hown' : w.host.HoldsOwn ns e') :
    (w.after ns settings botId' e').result ns settings botId e = w.result ns settings botId e
    ∧ (w.after ns settings botId e).result ns settings botId' e' = w.result ns settings botId' e'
    ∧ ∀ name,
      ((w.after ns settings botId e).after ns settings botId' e').host.content name
        = ((w.after ns settings botId' e').after ns settings botId e).host.content name := by
  have hapart : (e.scope guildId).Apart (e'.scope guildId') := ⟨hguild, husers, hchannels⟩
  have hallowed : ∀ {e : Event} {guildId : String}, e.IsWellNamed → e.home? = some guildId →
      e.IsWellNamed ∧ ∀ g ∈ e.guilds, g.OwnsMembers := by
    intro e guildId he hhome
    refine ⟨he, fun g hg => ?_⟩
    rw [Event.guilds_of_home hhome] at hg
    cases hg
  have hf : settings.surroundings.quiet.fading = false := CacheSettings.not_fading hexpiry
  have hs : settings.surroundings.quiet.Allows settings := settings.surroundings_allows
  obtain ⟨t, ht, hmembers, hw⟩ := h.exists_still
  have hfinds : t.FindsOwn guildId e := hw.findsOwn hf hmembers he hhome hown
  have hfinds' : t.FindsOwn guildId' e' := hw.findsOwn hf hmembers he' hhome' hown'
  -- What either event leaves behind is what the other needs, as it was.
  have hafter := shows_after hw hf hs ht botId he
  have hafter' := shows_after hw hf hs ht botId' he'
  have hreach := h.after botId (hallowed he hhome)
  have hreach' := h.after botId' (hallowed he' hhome')
  have hsound := ht.updated settings botId he
  have hsound' := ht.updated settings botId' he'
  refine ⟨h.result_congr hreach' hexpiry botId he ?_, h.result_congr hreach hexpiry botId' he' ?_,
    fun name => ?_⟩
  · rw [hafter'.misses_iff hf hsound' he, hw.misses_iff hf ht he]
    exact (misses_congr hhome hfinds (agrees_updated ht hhome' hapart hfinds')).symm
  · rw [hafter.misses_iff hf hsound he', hw.misses_iff hf ht he']
    exact (misses_congr hhome' hfinds' (agrees_updated ht hhome hapart.symm hfinds)).symm
  · have hboth := shows_after hafter hf hs hsound botId' he'
    have hboth' := shows_after hafter' hf hs hsound' botId he
    have horder := (hreach.after botId' (hallowed he' hhome')).inOrder
    have horder' := (hreach'.after botId (hallowed he hhome)).inOrder
    exact hboth.content_eq_of_look hboth' hf horder horder'
      (look_updated_comm ht he' hhome hhome' hapart hfinds hfinds' he) name

/-- The bot connects and finds itself in two guilds. -/
def samplePair : World :=
  { host := {} : World }.after "relay" {} "3" sampleReady

/-- The bot leaves the first guild. -/
def sampleLeave : Event :=
  .guildMemberRemove sampleMember

/-- A user joins the second guild. -/
def sampleJoin : Event :=
  .guildMemberAdd { guildId := "5", user := { id := "8" } }

theorem samplePair_reachable :
    Reachable "relay" {} (fun e => e.IsWellNamed ∧ ∀ g ∈ e.guilds, g.OwnsMembers) samplePair := by
  have hsecond : Guild.IsWellNamed { id := "5" } := ⟨by decide, by decide, by decide⟩
  have hsecond' : Guild.OwnsMembers { id := "5" } := fun m hm => nomatch hm
  refine (Reachable.start rfl fun _ => rfl).after "3" ⟨⟨by decide, ?_, by decide⟩, ?_⟩
  · exact List.forall_mem_cons.mpr
      ⟨sampleGuild_isWellNamed, List.forall_mem_singleton.mpr hsecond⟩
  · exact List.forall_mem_cons.mpr
      ⟨sampleGuild_ownsMembers, List.forall_mem_singleton.mpr hsecond'⟩

theorem samplePair_events_commute :
    samplePair.host.members "relay" .allGuildIds = ["1", "5"]
    ∧ (samplePair.after "relay" {} "3" sampleJoin).result "relay" {} "3" sampleLeave
      = samplePair.result "relay" {} "3" sampleLeave
    ∧ ∀ name, ((samplePair.after "relay" {} "3" sampleLeave).after "relay" {} "3"
        sampleJoin).host.content name
      = ((samplePair.after "relay" {} "3" sampleJoin).after "relay" {} "3"
        sampleLeave).host.content name := by
  have hleave : sampleLeave.IsWellNamed := by constructor <;> decide
  have hjoin : sampleJoin.IsWellNamed := by constructor <;> decide
  obtain ⟨hresult, -, hsame⟩ := samplePair_reachable.events_of_different_guilds_commute rfl "3" "3"
    hleave hjoin rfl rfl (by decide) (by decide) (by decide) trivial trivial
  exact ⟨by decide +kernel, hresult, hsame⟩

end World

end GuildRelay
