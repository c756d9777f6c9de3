import GuildRelay.Cache.Service
import GuildRelay.Proofs.Cache.Moves
/-!
# Events that fail

An event fails when a record that it changes is not cached, and then it leaves no trace.
`Tables.Misses` lists these cases, and `leads_update_settles` follows every event through its
handler to one of two ends: something was missing, and the tables are those before, or nothing was,
and the event goes through (`Tables.Settles`).

Most handlers look first and write later, so that there is little to show. Three of them write and
then look again: lists of members and of emojis are taken in one by one, and a presence is written
before the handler of members looks for the guild once more. The guild is then there, because the
first of the writes has put it there; for a presence this takes an invariant,
`Tables.MembersAtHome`, since the guild that is looked for is the one that the cached member names.

A host shows the tables and not what goes on in the background. Beside ban runs, the statement is
about everything but ban data; without them it is about all keys, for which `Host.Shows.withBansOf`
fixes the ban data that the host has.
-/

namespace GuildRelay

/-! ## What is missing -/

namespace Event

/-- The guild that has to be cached. -/
def guildNeeded : Event → Option String
  | guildMemberAdd m => some m.guildId
  | guildMemberUpdate m => some m.guildId
  | guildMemberRemove m => some m.guildId
  | guildMembersChunk guildId members => if members.isEmpty then none else some guildId
  | guildRoleCreate guildId _ => some guildId
  | guildRoleUpdate guildId _ => some guildId
  | guildRoleDelete guildId _ => some guildId
  | guildEmojisUpdate guildId emojis => if emojis.isEmpty then none else some guildId
  | channelCreate c => if c.isPrivate then none else some c.guildId
  | channelUpdate c => if c.isPrivate then none else some c.guildId
  | presenceUpdate guildId _ => some guildId
  | _ => none

/-- The channel that has to be cached. -/
def channelNeeded : Event → Option String
  | channelDelete c => some c.id
  | channelPinsUpdate p => some p.channelId
  | _ => none

end Event

/-- A record that the event needs is not live on the host. -/
inductive Host.Misses (h : Host) (ns : String) : Event → Prop
  | guild {e : Event} {guildId : String} : e.guildNeeded = some guildId →
      h.value ns (.guild guildId) = none → h.Misses ns e
  | channel {e : Event} {channelId : String} : e.channelNeeded = some channelId →
      h.value ns (.channel channelId) = none → h.Misses ns e
  | guildOfChannel {payload c : Channel} {text : String} :
      h.value ns (.channel payload.id) = some text → Cache.readText text = .ok c →
      c.isPrivate = false → h.value ns (.guild c.guildId) = none →
      h.Misses ns (.channelDelete payload)

namespace Tables

/-- A record that the event needs is not in the tables. -/
inductive Misses (t : Tables) : Event → Prop
  | guild {e : Event} {guildId : String} : e.guildNeeded = some guildId →
      t.guild guildId = none → t.Misses e
  | channel {e : Event} {channelId : String} : e.channelNeeded = some channelId →
      t.channel channelId = none → t.Misses e
  | guildOfChannel {payload c : Channel} : t.channel payload.id = some c → c.isPrivate = false →
      t.guild c.guildId = none → t.Misses (.channelDelete payload)

variable {t t' : Tables} {e : Event}

theorem misses_iff_guild {guildId : String} (hg : e.guildNeeded = some guildId)
    (hc : e.channelNeeded = none) : t.Misses e ↔ t.guild guildId = none := by
  refine ⟨fun h => ?_, .guild hg⟩
  cases h with
  | guild hg' hmiss =>
      rw [hg] at hg'
      rwa [Option.some.inj hg']
  | channel hc' => exact nomatch hc.symm.trans hc'
  | guildOfChannel => exact nomatch hc

theorem not_misses (hg : e.guildNeeded = none) (hc : e.channelNeeded = none) : ¬t.Misses e := by
  intro h
  cases h with
  | guild hg' => exact nomatch hg.symm.trans hg'
  | channel hc' => exact nomatch hc.symm.trans hc'
  | guildOfChannel => exact nomatch hc

theorem misses_iff_of_not_private {c : Channel}
    (hg : e.guildNeeded = if c.isPrivate then none else some c.guildId)
    (hc : e.channelNeeded = none) :
    t.Misses e ↔ c.isPrivate = false ∧ t.guild c.guildId = none := by
  cases hkind : c.isPrivate with
  | true =>
      rw [hkind, if_pos rfl] at hg
      exact iff_of_false (not_misses hg hc) fun h => nomatch h.1
  | false =>
      rw [hkind, if_neg Bool.false_ne_true] at hg
      rw [misses_iff_guild hg hc]
      exact (and_iff_right rfl).symm

/-- When a cached channel is deleted, only its guild can be missing. -/
theorem misses_channelDelete {payload c : Channel} (hc : t.channel payload.id = some c) :
    t.Misses (.channelDelete payload) ↔ c.isPrivate = false ∧ t.guild c.guildId = none := by
  refine ⟨fun h => ?_, fun h => .guildOfChannel hc h.1 h.2⟩
  cases h with
  | guild hg => exact nomatch hg
  | channel hc' hnone =>
      cases hc'
      exact nomatch hc.symm.trans hnone
  | guildOfChannel hc' hkind hnone =>
      cases hc.symm.trans hc'
      exact ⟨hkind, hnone⟩

theorem misses_channelPinsUpdate {p : ChannelPins} :
    t.Misses (.channelPinsUpdate p) ↔ t.channel p.channelId = none := by
  refine ⟨fun h => ?_, .channel rfl⟩
  cases h with
  | guild hg => exact nomatch hg
  | channel hc hnone =>
      cases hc
      exact hnone

/-- An action ends without an error, or something was missing and nothing has changed. -/
inductive Settles (t : Tables) (missing : Prop) {α : Type} : Except CacheError α → Tables → Prop
  | ok {x : α} {t' : Tables} : ¬missing → t.Settles missing (.ok x) t'
  | error : missing → t.Settles missing (.error .notFound) t

theorem Settles.map {α β : Type} {missing : Prop} {r : Except CacheError α}
    (h : t.Settles missing r t') (f : α → β) : t.Settles missing (r.map f) t' := by
  cases h with
  | ok hthere => exact .ok hthere
  | error hmiss => exact .error hmiss

/-- Cached members name the guild that they are kept for. -/
def MembersAtHome (t : Tables) : Prop :=
  ∀ g u m, t.member g u = some m → m.guildId = g

end Tables

/-- The members that the guild embeds name it or no guild. -/
def Guild.OwnsMembers (g : Guild) : Prop :=
  ∀ m ∈ g.memberList, m.guildId = "" ∨ m.guildId = g.id

theorem Event.IsWellNamed.guildNeeded {e : Event} (he : e.IsWellNamed) {guildId : String}
    (hg : e.guildNeeded = some guildId) : PlainId guildId := by
  cases e with
  | guildMemberAdd m => exact Option.some.inj hg ▸ he.1
  | guildMemberUpdate m => exact Option.some.inj hg ▸ he.1
  | guildMemberRemove m => exact Option.some.inj hg ▸ he.1
  | guildMembersChunk => exact Option.some.inj (Option.ite_none_left_eq_some.mp hg).2 ▸ he.1
  | guildRoleCreate => exact Option.some.inj hg ▸ he
  | guildRoleUpdate => exact Option.some.inj hg ▸ he
  | guildRoleDelete => exact Option.some.inj hg ▸ he
  | guildEmojisUpdate => exact Option.some.inj (Option.ite_none_left_eq_some.mp hg).2 ▸ he
  | channelCreate => exact Option.some.inj (Option.ite_none_left_eq_some.mp hg).2 ▸ he.2
  | channelUpdate => exact Option.some.inj (Option.ite_none_left_eq_some.mp hg).2 ▸ he.2
  | presenceUpdate => exact Option.some.inj hg ▸ he.1
  | _ => cases hg

theorem Event.IsWellNamed.channelNeeded {e : Event} (he : e.IsWellNamed) {channelId : String}
    (hc : e.channelNeeded = some channelId) : PlainId channelId := by
  cases e with
  | channelDelete c => exact Option.some.inj hc ▸ he.1
  | channelPinsUpdate p => exact Option.some.inj hc ▸ he
  | _ => cases hc

/-- Where nothing expires, what is missing on a host is missing in the tables that it shows. -/
theorem Host.Shows.misses_iff {ns : String} {s : Surroundings} {h : Host} {t : Tables}
    (hv : h.Shows ns s t.content) (hf : s.fading = false) (ht : t.Sound) {e : Event}
    (he : e.IsWellNamed) : h.Misses ns e ↔ t.Misses e := by
  have hguild : ∀ g, PlainId g → (h.value ns (.guild g) = none ↔ t.guild g = none) :=
    fun g hg => hv.value_eq_none_iff (Tables.Slot.guild g) hg hf
  have hchannel : ∀ c, PlainId c → (h.value ns (.channel c) = none ↔ t.channel c = none) :=
    fun c hc => hv.value_eq_none_iff (Tables.Slot.channel c) hc hf
  constructor
  · intro hmiss
    cases hmiss with
    | guild hg hnone => exact .guild hg ((hguild _ (he.guildNeeded hg)).mp hnone)
    | channel hc hnone => exact .channel hc ((hchannel _ (he.channelNeeded hc)).mp hnone)
    | guildOfChannel hlive hread hkind hnone =>
        obtain ⟨c, hc, hread'⟩ := hv.record_of_value (Tables.Slot.channel _) he.1 hlive
        cases hread.symm.trans hread'
        exact .guildOfChannel hc hkind ((hguild _ (ht.channel_guild hc)).mp hnone)
  · intro hmiss
    cases hmiss with
    | guild hg hnone => exact .guild hg ((hguild _ (he.guildNeeded hg)).mpr hnone)
    | channel hc hnone => exact .channel hc ((hchannel _ (he.channelNeeded hc)).mpr hnone)
    | @guildOfChannel payload c hc hkind hnone =>
        have hlive := hv.value_eq (Tables.Slot.channel payload.id) he.1 hf
        rw [show (Tables.Slot.channel payload.id).get t = some c from hc] at hlive
        exact .guildOfChannel hlive (Cache.readText_json c) hkind
          ((hguild _ (ht.channel_guild hc)).mpr hnone)

/-! ## Members at home -/

namespace Tables

variable {e : Event} {t t' : Tables}

theorem membersAtHome_empty : ({} : Tables).MembersAtHome :=
  fun _ _ _ h => nomatch h

theorem MembersAtHome.takeGuild (ht : t.MembersAtHome) (botId : String) {payload : Guild}
    (hp : payload.OwnsMembers) (cached : Option Guild) :
    (t.takeGuild botId payload cached).MembersAtHome := by
  intro g u m h
  have h : (t.setMembers payload.id payload.fillIds.memberList).member g u = some m := h
  rcases member_setMembers h with ⟨rfl, hm, -⟩ | h
  · rw [Guild.memberList_fillIds] at hm
    obtain ⟨m', hm', rfl⟩ := List.mem_map.mp hm
    rcases hp m' hm' with hblank | hown
    · simp [unlessBlank, hblank]
    · simp [unlessBlank, hown]
  · exact ht g u m h

theorem MembersAtHome.storeMember (ht : t.MembersAtHome) {g : Guild} {m : Member}
    (hm : m.guildId = g.id) : (t.storeMember g m).MembersAtHome := by
  intro id u m' h
  have h : (t.setMembers g.id [m]).member id u = some m' := h
  rcases member_setMembers h with ⟨rfl, hm', -⟩ | h
  · rwa [List.mem_singleton.mp hm']
  · exact ht id u m' h

/-- Moves keep members at home. -/
theorem Move.membersAtHome (h : Move e t t') (hguilds : ∀ g ∈ e.guilds, g.OwnsMembers)
    (ht : t.MembersAtHome) : t'.MembersAtHome := by
  cases h with
  | guild botId hp _ _ => exact ht.takeGuild botId (hguilds _ hp) _
  | guildGone guildId channelIds =>
      exact fun g u m h => ht g u m (Option.ite_none_left_eq_some.mp h).2
  | member _ _ hm => exact ht.storeMember hm
  | @memberGone g userId hg =>
      intro id u m h
      unfold Tables.removeMember at h
      split at h <;> exact ht id u m (Option.ite_none_left_eq_some.mp h).2
  | _ => exact ht

end Tables

/-! ## What handlers end with -/

namespace Cache

open GuildRelay.Action Tables

variable {s : Surroundings} {settings : CacheSettings} {t : Tables} {missing : Prop}

section Ends

variable {α : Type} {kept : Option α} (hmissing : missing ↔ kept = none)

include hmissing

theorem settles_of_not_found (hf : s.fading = false) (h : s.Finds kept none) :
    t.Settles missing (.error .notFound : Except CacheError Unit) t :=
  .error (hmissing.mpr (h.eq hf).symm)

theorem settles_of_found {a : α} (h : kept = some a) {t' : Tables} :
    t.Settles missing (.ok ()) t' :=
  .ok fun hm => nomatch h.symm.trans (hmissing.mp hm)

end Ends

theorem leads_addMember_settles (hf : s.fading = false) (hs : s.Allows settings) {m : Member}
    (hm : m.IsWellNamed) (ht : t.Sound) (hmissing : missing ↔ t.guild m.guildId = none) :
    (addMember settings m).Leads s t (t.Settles missing) :=
  leads_addMember hs hm ht (settles_of_not_found hmissing hf) fun _ _ hg _ =>
    settles_of_found hmissing hg

theorem leads_changeGuild_settles (hf : s.fading = false) (hs : s.Allows settings)
    {guildId : String} (change : Guild → Guild) (hid : ∀ g, (change g).id = g.id)
    (hguild : PlainId guildId) (ht : t.Sound) (hmissing : missing ↔ t.guild guildId = none) :
    (guild guildId >>= fun g => write settings (.guild g.id) (change g)).Leads s t
      (t.Settles missing) :=
  leads_changeGuild hs hid hguild ht (settles_of_not_found hmissing hf) fun _ hg =>
    settles_of_found hmissing hg

/-- A handler that is called for several items can fail at the first of them only, for that one
leaves the guild behind for the others. -/
theorem leads_forM_settles {β : Type} {f : β → CacheAction Unit} {guildId : String} {b : β}
    {bs : List β} (ht : t.Sound) (hmissing : missing ↔ t.guild guildId = none)
    (hf : ∀ b' ∈ b :: bs, ∀ t' : Tables, t'.Sound → ∀ R : Except CacheError Unit → Tables → Prop,
      (t'.guild guildId = none → R (.error .notFound) t') →
      (∀ t'' : Tables, (t'.guild guildId).isSome → t''.Sound → (t''.guild guildId).isSome →
        R (.ok ()) t'') →
      (f b').Leads s t' R) :
    ((b :: bs).forM f).Leads s t (t.Settles missing) := by
  refine .bind (hf b List.mem_cons_self t ht _ (fun hnone => .error (hmissing.mpr hnone)) ?_)
  intro t' hsome ht' hg'
  have hthere : ¬missing := fun hm => Option.not_isSome_iff_eq_none.mpr (hmissing.mp hm) hsome
  refine .forM_of_invariant (I := fun t' => t'.Sound ∧ (t'.guild guildId).isSome)
    (fun _ _ => .ok hthere) ⟨ht', hg'⟩ fun b' hb' t' ⟨ht', hg'⟩ => ?_
  refine hf b' (List.mem_cons_of_mem b hb') t' ht' _ (fun hnone => ?_) fun t'' _ ht'' hg'' =>
    ⟨ht'', hg''⟩
  exact absurd hg' (Option.not_isSome_iff_eq_none.mpr hnone)

theorem leads_addMembers_settles (hf : s.fading = false) (hs : s.Allows settings)
    {guildId : String} {m : Member} {ms : List Member} (hguild : PlainId guildId)
    (hms : ∀ m' ∈ m :: ms, PlainId m'.user.id) (ht : t.Sound)
    (hmissing : missing ↔ t.guild guildId = none) :
    ((m :: ms).forM fun m' => addMember settings { m' with guildId }).Leads s t
      (t.Settles missing) := by
  refine leads_forM_settles ht hmissing fun m' hm' t' ht' R hmiss h => ?_
  have hnamed : { m' with guildId }.IsWellNamed := ⟨hguild, hms m' hm'⟩
  refine leads_addMember hs hnamed ht' (fun hnone => hmiss (hnone.eq hf).symm)
    fun g cached hg _ => ?_
  refine h _ (Option.isSome_of_eq_some hg) ?_ ?_
  · exact (move_addMember (.guildMemberAdd m') hnamed ht' hg cached).sound ht'
  · exact Option.isSome_of_eq_some (ht'.guild_setGuild_self hg rfl)

theorem leads_addEmojis_settles (hf : s.fading = false) (hs : s.Allows settings)
    {guildId : String} {e : Emoji} {es : List Emoji} (hguild : PlainId guildId) (ht : t.Sound)
    (hmissing : missing ↔ t.guild guildId = none) :
    ((e :: es).forM (addEmoji settings guildId)).Leads s t (t.Settles missing) := by
  refine leads_forM_settles ht hmissing fun e' _ t' ht' R hmiss h => ?_
  refine leads_changeGuild hs (fun _ => rfl) hguild ht' (fun hnone => hmiss (hnone.eq hf).symm)
    fun g hg => ?_
  refine h _ (Option.isSome_of_eq_some hg) (ht'.setGuild fun c hc => ht'.guild_channel hg c hc) ?_
  exact Option.isSome_of_eq_some (ht'.guild_setGuild_self hg rfl)

/-- A presence cannot fail after its write: the guild is there, and it is the guild of the member.
-/
theorem leads_addPresence_settles (hf : s.fading = false) (hs : s.Allows settings)
    {guildId : String} {p : Presence} (hguild : PlainId guildId) (hp : PlainId p.user.id)
    (ht : t.Sound) (hhome : t.MembersAtHome) (hmissing : missing ↔ t.guild guildId = none) :
    (addPresence settings guildId p).Leads s t (t.Settles missing) := by
  refine leads_addPresence hs hguild hp ht (settles_of_not_found hmissing hf)
    (fun g hg _ => settles_of_found hmissing hg) fun g m hg _ hm => ?_
  have hown : m.guildId = guildId := by
    cases hm with
    | @cached m hcached =>
        have hm := hhome guildId p.user.id m hcached
        exact hm
    | fresh _ _ => rfl
  have hsound := ht.setPresence hg p
  -- The guild is looked for again after the write, in tables that have it for certain.
  have hthere : (t.setGuild (g.addPresence p)).guild m.guildId = some (g.addPresence p) := by
    rw [hown]
    exact ht.guild_setGuild_self hg rfl
  refine leads_addMember hs (hm.isWellNamed ht hguild hp) hsound (fun hnone => ?_)
    fun _ _ _ _ => settles_of_found hmissing hg
  exact nomatch hthere.symm.trans (hnone.eq hf).symm

theorem leads_addChannel_settles (hf : s.fading = false) (hs : s.Allows settings) {c : Channel}
    (hc : c.IsWellNamed) (ht : t.Sound)
    (hmissing : missing ↔ c.isPrivate = false ∧ t.guild c.guildId = none) :
    (addChannel settings c).Leads s t (t.Settles missing) := by
  refine leads_addChannel hs hc ht (fun _ hkind _ => .ok fun hm => ?_) (fun hkind hnone => ?_)
    fun _ g _ _ hg => .ok fun hm => nomatch hg.symm.trans (hmissing.mp hm).2
  · exact nomatch hkind.symm.trans (hmissing.mp hm).1
  · exact .error (hmissing.mpr ⟨hkind, (hnone.eq hf).symm⟩)

theorem leads_removeChannel_settles (hf : s.fading = false) (hs : s.Allows settings) {c : Channel}
    (hc : c.IsWellNamed) (ht : t.Sound) :
    (removeChannel settings c).Leads s t (t.Settles (t.Misses (.channelDelete c))) := by
  refine leads_removeChannel hs hc ht (fun hnone => ?_) (fun old hold hkind => .ok fun hm => ?_)
    (fun old hold hkind hnone => ?_) fun old g hold _ hg => .ok fun hm => ?_
  · exact .error (.channel rfl (hnone.eq hf).symm)
  · exact nomatch hkind.symm.trans ((misses_channelDelete hold).mp hm).1
  · exact .error (.guildOfChannel hold hkind (hnone.eq hf).symm)
  · exact nomatch hg.symm.trans ((misses_channelDelete hold).mp hm).2

/-- Where nothing expires, an event fails exactly if something is missing, and then changes nothing.
-/
theorem leads_update_settles (hf : s.fading = false) (hs : s.Allows settings) {botId : String}
    {e : Event} (he : e.IsWellNamed) (ht : t.Sound) (hhome : t.MembersAtHome) :
    (update settings botId e).Leads s t (t.Settles (t.Misses e)) := by
  cases e with
  | ready r =>
      refine (leads_applyReady hs he).mono ?_
      rintro _ _ ⟨rfl, -⟩
      exact .ok (not_misses rfl rfl)
  | guildCreate g => exact leads_addGuild hs he fun _ _ => .ok (not_misses rfl rfl)
  | guildUpdate g => exact leads_addGuild hs he fun _ _ => .ok (not_misses rfl rfl)
  | guildDelete g => exact leads_removeGuild he ht fun _ _ => .ok (not_misses rfl rfl)
  | guildMemberAdd m => exact leads_addMember_settles hf hs he ht (misses_iff_guild rfl rfl)
  | guildMemberUpdate m => exact leads_addMember_settles hf hs he ht (misses_iff_guild rfl rfl)
  | guildMemberRemove m =>
      have hmissing : t.Misses (.guildMemberRemove m) ↔ t.guild m.guildId = none :=
        misses_iff_guild rfl rfl
      exact leads_removeMember hs he ht (settles_of_not_found hmissing hf) fun _ hg =>
        settles_of_found hmissing hg
  | guildMembersChunk guildId members =>
      cases members with
      | nil => exact .pure (.ok (not_misses rfl rfl))
      | cons m ms =>
          exact leads_addMembers_settles hf hs he.1 he.2 ht (misses_iff_guild rfl rfl)
  | guildRoleCreate guildId r =>
      exact leads_changeGuild_settles hf hs (·.addRole r) (fun _ => rfl) he ht
        (misses_iff_guild rfl rfl)
  | guildRoleUpdate guildId r =>
      exact leads_changeGuild_settles hf hs (·.addRole r) (fun _ => rfl) he ht
        (misses_iff_guild rfl rfl)
  | guildRoleDelete guildId roleId =>
      exact leads_changeGuild_settles hf hs (·.removeRole roleId) (fun _ => rfl) he ht
        (misses_iff_guild rfl rfl)
  | guildEmojisUpdate guildId emojis =>
      cases emojis with
      | nil => exact .pure (.ok (not_misses rfl rfl))
      | cons e es => exact leads_addEmojis_settles hf hs he ht (misses_iff_guild rfl rfl)
  | guildBanAdd guildId u =>
      exact leads_addBan he ht (fun _ => .ok (not_misses rfl rfl)) fun _ =>
        .ok (not_misses rfl rfl)
  | guildBanRemove guildId u =>
      exact leads_removeBan he ht (fun _ => .ok (not_misses rfl rfl)) fun _ =>
        .ok (not_misses rfl rfl)
  | channelCreate c =>
      exact leads_addChannel_settles hf hs he ht (misses_iff_of_not_private rfl rfl)
  | channelUpdate c =>
      exact leads_addChannel_settles hf hs he ht (misses_iff_of_not_private rfl rfl)
  | channelDelete c => exact leads_removeChannel_settles hf hs he ht
  | channelPinsUpdate p =>
      exact leads_updatePins hs he ht (settles_of_not_found misses_channelPinsUpdate hf)
        fun _ hc => settles_of_found misses_channelPinsUpdate hc
  | presenceUpdate guildId p =>
      exact leads_addPresence_settles hf hs he.1 he.2 ht hhome (misses_iff_guild rfl rfl)
  | messageCreate m =>
      exact leads_addMessage he (fun _ => .ok (not_misses rfl rfl)) fun _ =>
        .ok (not_misses rfl rfl)
  | _ => exact .pure (.ok (not_misses rfl rfl))

theorem leads_apply_settles (hf : s.fading = false) (hs : s.Allows settings) {botId : String}
    {e : Event} (he : e.IsWellNamed) (ht : t.Sound) (hhome : t.MembersAtHome) :
    (apply settings botId e).Leads s t (t.Settles (t.Misses e)) :=
  leads_apply ((leads_update_settles hf hs he ht hhome).mono fun _ _ h => h.map _)

/-- Handling that fails has failed in applying the event, and nothing was run after that. -/
theorem run_handle_error {σ : Type} {backend : Backend σ} {rename : Key → String}
    {hasBanSource : Bool} {botId : String} {e : Event} {error : CacheError} {st st' : σ}
    (h : ((handle settings hasBanSource botId e).mapKeys rename).run backend st
      = (.error error, st')) :
    ((apply settings botId e).mapKeys rename).runOn backend st = (.error error, st') := by
  unfold handle at h
  rw [Program.mapKeys_andThen, Program.run_andThen] at h
  show ((ExceptT.run (apply settings botId e)).mapKeys rename).run backend st = _
  rcases hrun : ((ExceptT.run (apply settings botId e)).mapKeys rename).run backend st
    with ⟨error | asked, st''⟩
  · rw [hrun] at h
    cases h
    rfl
  · rw [hrun] at h
    simp only [Program.mapKeys_andThen, Program.run_andThen] at h
    cases h

end Cache

open Tables

/-- Where nothing expires, an event fails exactly if a record that it needs is not cached, whatever
goes on beside it. The error says so, and nothing but ban data is different afterwards. Of an event
that is handled alone and fails no trace is left at all, and no ban run has followed it. -/
theorem World.Reachable.errors_change_nothing {ns : String} {settings : CacheSettings} {w : World}
    (h : Reachable ns settings (fun e => e.IsWellNamed ∧ ∀ g ∈ e.guilds, g.OwnsMembers) w)
    (hexpiry : settings.expiry = none) (botId : String) {e : Event} (he : e.IsWellNamed) :
    (∀ result w', Runs ns (ExceptT.run (Cache.apply settings botId e)) w result w' →
      ((∃ error, result = .error error) ↔ w.host.Misses ns e)
      ∧ ∀ error, result = .error error → error = .notFound
        ∧ ∀ name, (∀ k : Key, k.isBan = true → k.text ns ≠ name) →
          w'.host.content name = w.host.content name)
    ∧ ∀ hasBanSource error host,
      ((Cache.handle settings hasBanSource botId e).mapKeys (Key.text ns)).run Host.backend w.host
        = (.error error, host) →
      error = .notFound ∧ (∀ name, host.content name = w.host.content name)
        ∧ ((Cache.apply settings botId e).mapKeys (Key.text ns)).runOn Host.backend w.host
          = (.error error, host) := by
  obtain ⟨t, ht, hhome, hw⟩ := h.exists_tables settings.surroundings_allows rfl
    (fun _ he => he.1) membersAtHome_empty fun _ _ _ he _ hI hmove => hmove.membersAtHome he.2 hI
  have hf := CacheSettings.not_fading hexpiry
  have hmisses := hw.host.misses_iff hf ht he
  refine ⟨fun result w' hruns => ?_, fun hasBanSource error host hrun => ?_⟩
  · have hleads : (Cache.apply settings botId e).Leads settings.surroundings t _ :=
      Cache.leads_apply_settles hf settings.surroundings_allows he ht hhome
    obtain ⟨t', hend, hw'⟩ := hruns.leads rfl hleads hw
    cases hend with
    | ok hthere =>
        refine ⟨iff_of_false (fun ⟨_, h⟩ => nomatch h) (mt hmisses.mp hthere), fun _ h => ?_⟩
        exact nomatch h
    | error hmiss =>
        refine ⟨iff_of_true ⟨_, rfl⟩ (hmisses.mpr hmiss), ?_⟩
        rintro _ ⟨⟩
        exact ⟨rfl, fun name hname => hw.host.content_unique hw'.host hf hname⟩
  · -- Alone, the event is followed from tables that have the ban data of the host as well.
    have hrun := Cache.run_handle_error hrun
    have hstill := hw.host.withBansOf
    have ht' : (t.withBansOf ns w.host).Sound := { ht with }
    have hf' : settings.surroundings.quiet.fading = false := hf
    have hs : settings.surroundings.quiet.Allows settings := settings.surroundings_allows
    obtain ⟨_, ⟨t', rfl, hend⟩, hafter⟩ := Program.Ensures.run
      (Cache.leads_apply_settles hf' hs he ht' hhome) hstill
    have hresult : (((ExceptT.run (Cache.apply settings botId e)).mapKeys (Key.text ns)).run
      Host.backend w.host) = (.error error, host) := hrun
    rw [hresult] at hend hafter
    cases hend with
    | error hmiss =>
        refine ⟨rfl, fun name => ?_, hrun⟩
        exact hstill.content_unique hafter hf fun k hk => nomatch hk

theorem World.sampleGuild_ownsMembers : sampleGuild.OwnsMembers :=
  fun m hm => .inr (by rw [List.mem_singleton.mp hm]; rfl)

theorem World.sample_errors_change_nothing :
    ∃ w', Runs "relay" (ExceptT.run (Cache.apply {} "3"
        (.guildMemberAdd { sampleMember with guildId := "9" }))) sample (.error .notFound) w'
      ∧ ∀ name, (∀ k : Key, k.isBan = true → k.text "relay" ≠ name) →
        w'.host.content name = sample.host.content name := by
  have h : Reachable "relay" {} (fun e => e.IsWellNamed ∧ ∀ g ∈ e.guilds, g.OwnsMembers) sample :=
    sample_reachable
      ⟨sampleGuild_isWellNamed, List.forall_mem_singleton.mpr sampleGuild_ownsMembers⟩
  have he : (Event.guildMemberAdd { sampleMember with guildId := "9" }).IsWellNamed := by
    constructor <;> decide
  obtain ⟨hruns, -⟩ := h.errors_change_nothing rfl "3" he
  have hrun : Runs "relay" (ExceptT.run (Cache.apply {} "3"
    (.guildMemberAdd { sampleMember with guildId := "9" }))) sample _ _ := runs_of_run _ sample
  obtain ⟨hfails, herror⟩ := hruns _ _ hrun
  obtain ⟨error, hresult⟩ := hfails.mpr (.guild rfl (by decide +kernel))
  obtain ⟨rfl, hsame⟩ := herror error hresult
  rw [hresult] at hrun
  exact ⟨_, hrun, hsame⟩

end GuildRelay
