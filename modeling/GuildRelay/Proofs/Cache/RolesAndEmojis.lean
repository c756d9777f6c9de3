import GuildRelay.Proofs.Cache.Errors
import GuildRelay.Proofs.Cache.GuildFields
import GuildRelay.Proofs.Cache.History
import GuildRelay.Proofs.Cache.Repeats
/-!
# Roles and emojis are as last told

A guild record embeds its roles and emojis as lists, and every event of the guild writes these lists
again with the rest of the record. Looked up by their ids, they are nevertheless no more than maps
in which the last writer wins: `Catalog.latest` reads the value off the log, and
`World.Follows.roles_and_emojis_as_last_told` says that the lookup finds it.

Both lists are a `Catalog`. Whole guilds come with a list or without one, and are taken the same way
for both (`Catalog.told`); only the events that edit a list are its own (`Catalog.edited`). All
other events spare the items, by `Tables.sameField_updated`.
-/

namespace GuildRelay

/-- What an event that is about roles or emojis makes of its guild. -/
def Event.edit? : Event → Option (Guild → Guild)
  | .guildRoleCreate _ r => some (·.addRole r)
  | .guildRoleUpdate _ r => some (·.addRole r)
  | .guildRoleDelete _ roleId => some (·.removeRole roleId)
  | .guildEmojisUpdate _ emojis =>
    if emojis.isEmpty then none else some fun g => emojis.foldl (·.addEmoji ·) g
  | _ => none

theorem Event.id_of_edit {e : Event} {change : Guild → Guild} (h : e.edit? = some change)
    (g : Guild) : (change g).id = g.id := by
  cases e with
  | guildRoleCreate guildId r => cases h; rfl
  | guildRoleUpdate guildId r => cases h; rfl
  | guildRoleDelete guildId roleId => cases h; rfl
  | guildEmojisUpdate guildId es =>
      obtain ⟨-, h⟩ := Option.ite_none_left_eq_some.mp h
      cases h
      exact List.foldlRecOn es _ (motive := fun g' : Guild => g'.id = g.id) rfl fun _ h _ _ => h
  | _ => cases h

/-- A list that guilds embed, whose items have ids. -/
structure Catalog (α : Type) where
  items : Guild → Option (List α)
  idOf : α → String
  /-- What an event that edits the list tells of the item with an id. -/
  edited : String → Event → Option (Option α)

namespace Catalog

variable {α : Type} (c : Catalog α)

/-- The item with an id, the first if there are several. -/
def find (id : String) (g : Guild) : Option α :=
  ((c.items g).getD []).find? fun a => c.idOf a == id

/-- What a guild that comes along tells of the item with an id: nothing, if it has no list. -/
def given (guildId id : String) (g : Guild) : Option (Option α) :=
  if g.id = guildId then (c.items g).map fun _ => c.find id g else none

/-- What an event tells of the item with an id in a guild: nothing, that there is none, or the
item. -/
def told (guildId id : String) : Event → Option (Option α)
  | .ready r => (lastWith (·.id) guildId r.guilds).map (c.find id)
  | .guildCreate g => c.given guildId id g
  | .guildUpdate g => c.given guildId id g
  | .guildDelete g => if g.id = guildId then some none else none
  | e => if e.guildIdField = guildId then c.edited id e else none

/-- The item with an id in a guild by the latest event that went through and tells of it. -/
def latest (guildId id : String) (log : List Applied) : Option α :=
  (log.findSome? fun a => if a.succeeded then c.told guildId id a.event else none).join

/-- The roles of guilds. -/
def roles : Catalog Role where
  items := (·.roles)
  idOf := (·.id)
  edited id
    | .guildRoleCreate _ r => if r.id = id then some (some r) else none
    | .guildRoleUpdate _ r => if r.id = id then some (some r) else none
    | .guildRoleDelete _ roleId => if roleId = id then some none else none
    | _ => none

/-- The emojis of guilds. An update of several puts in one after the other. -/
def emojis : Catalog Emoji where
  items := (·.emojis)
  idOf := (·.id)
  edited id
    | .guildEmojisUpdate _ es => (lastWith (·.id) id es).map some
    | _ => none

theorem told_eq {e : Event} (hwhole : e.replacesGuilds = false) (guildId id : String) :
    c.told guildId id e = if e.guildIdField = guildId then c.edited id e else none := by
  cases e <;> first | rfl | exact nomatch hwhole

/-! ## Laws of a catalog -/

/-- The list is carried over from a cached guild like all lists, handlers of other lists leave it
alone, and edits do to its items what they tell. -/
structure Lawful (c : Catalog α) : Prop where
  fillIds : ∀ g, c.items g.fillIds = c.items g
  carryOver : ∀ g cached, c.items (g.carryOver (some cached)) = (c.items g).or (c.items cached)
  addMember : ∀ g m, c.items (g.addMember m) = c.items g
  removeMember : ∀ g userId, c.items (g.removeMember userId) = c.items g
  addPresence : ∀ g p, c.items (g.addPresence p) = c.items g
  addChannel : ∀ g channel, c.items (g.addChannel channel) = c.items g
  removeChannel : ∀ g channelId, c.items (g.removeChannel channelId) = c.items g
  edit : ∀ e change, e.edit? = some change →
    ∀ g id, c.find id (change g) = (c.edited id e).getD (c.find id g)
  not_edited : ∀ e id, e.edit? = none → c.edited id e = none

theorem roles_find_addRole (id : String) (r : Role) (g : Guild) :
    roles.find id (g.addRole r) = if r.id = id then some r else roles.find id g :=
  @find?_replaceOrAdd Role (·.id) r id _

theorem roles_find_removeRole (id roleId : String) (g : Guild) :
    roles.find id (g.removeRole roleId) = if roleId = id then none else roles.find id g := by
  show (g.removeRole roleId).roleList.find? _ = if _ then none else g.roleList.find? _
  rw [Guild.roleList_removeRole, List.find?_filter]
  split
  · next hid =>
    refine List.find?_eq_none.mpr fun r _ => ?_
    simp [roles, hid]
  · next hid =>
    congr 1
    funext r
    by_cases hr : r.id = id <;> simp [roles, hr, Ne.symm hid]

theorem roles_find_addEmojis (id : String) (es : List Emoji) (g : Guild) :
    roles.find id (es.foldl (·.addEmoji ·) g) = roles.find id g := by
  induction es generalizing g with
  | nil => rfl
  | cons e es ih => exact ih (g.addEmoji e)

theorem emojis_find_addEmojis (id : String) (es : List Emoji) (g : Guild) :
    emojis.find id (es.foldl (·.addEmoji ·) g)
      = ((lastWith (·.id) id es).map some).getD (emojis.find id g) := by
  induction es generalizing g with
  | nil => rfl
  | cons e es ih =>
      have hone : emojis.find id (g.addEmoji e) = if e.id = id then some e else emojis.find id g :=
        @find?_replaceOrAdd Emoji (·.id) e id _
      rw [List.foldl_cons, ih, hone, lastWith_cons]
      cases lastWith (·.id) id es with
      | some last => rfl
      | none => by_cases hid : e.id = id <;> simp [hid]

theorem lawful_roles : roles.Lawful where
  fillIds _ := rfl
  carryOver _ _ := rfl
  addMember _ _ := rfl
  removeMember _ _ := rfl
  addPresence _ _ := rfl
  addChannel _ _ := rfl
  removeChannel _ _ := rfl
  edit e change he g id := by
    cases e with
    | guildRoleCreate guildId r | guildRoleUpdate guildId r =>
        cases he
        rw [roles_find_addRole]
        by_cases hid : r.id = id <;> simp [roles, hid]
    | guildRoleDelete guildId roleId =>
        cases he
        rw [roles_find_removeRole]
        by_cases hid : roleId = id <;> simp [roles, hid]
    | guildEmojisUpdate guildId es =>
        obtain ⟨-, he⟩ := Option.ite_none_left_eq_some.mp he
        cases he
        exact roles_find_addEmojis id es g
    | _ => cases he
  not_edited e id he := by
    cases e <;> first | rfl | cases he

theorem lawful_emojis : emojis.Lawful where
  fillIds _ := rfl
  carryOver _ _ := rfl
  addMember _ _ := rfl
  removeMember _ _ := rfl
  addPresence _ _ := rfl
  addChannel _ _ := rfl
  removeChannel _ _ := rfl
  edit e change he g id := by
    cases e with
    | guildEmojisUpdate guildId es =>
        obtain ⟨-, he⟩ := Option.ite_none_left_eq_some.mp he
        cases he
        exact emojis_find_addEmojis id es g
    | guildRoleCreate | guildRoleUpdate | guildRoleDelete =>
        cases he
        rfl
    | _ => cases he
  not_edited e id he := by
    cases e with
    | guildEmojisUpdate guildId es =>
        cases es with
        | nil => rfl
        | cons => cases he
    | _ => rfl

namespace Lawful

variable {c : Catalog α} (hc : c.Lawful)

include hc

theorem find_fillIds (id : String) (g : Guild) : c.find id g.fillIds = c.find id g := by
  unfold find
  rw [hc.fillIds]

/-- A guild that comes without the list takes over the cached items. -/
theorem find_carryOver (id : String) (g : Guild) (cached : Option Guild) :
    c.find id (g.fillIds.carryOver cached)
      = ((c.items g).map fun _ => c.find id g).getD (cached.bind (c.find id)) := by
  cases cached with
  | none =>
      rw [show g.fillIds.carryOver none = g.fillIds from rfl, hc.find_fillIds]
      unfold find
      cases c.items g <;> rfl
  | some old =>
      unfold find
      rw [hc.carryOver, hc.fillIds]
      cases c.items g <;> rfl

/-- Events that are about something else in a guild spare its items. -/
theorem spares (id : String) {e : Event} (hedit : e.edit? = none)
    (hwhole : e.replacesGuilds = false) : e.Spares (c.find id) := by
  have hsame : ∀ {g g' : Guild}, c.items g' = c.items g → c.find id g' = c.find id g := by
    intro g g' h
    unfold find
    rw [h]
  cases e with
  | ready | guildCreate | guildUpdate | guildDelete => cases hwhole
  | guildMemberAdd | guildMemberUpdate | guildMembersChunk =>
      exact fun g m => hsame (hc.addMember g m)
  | guildMemberRemove m => exact fun g => hsame (hc.removeMember g m.user.id)
  | presenceUpdate guildId p =>
      exact ⟨fun g => hsame (hc.addPresence g p), fun g m => hsame (hc.addMember g m)⟩
  | channelCreate | channelUpdate => exact fun g channel => hsame (hc.addChannel g channel)
  | channelDelete channel => exact fun g => hsame (hc.removeChannel g channel.id)
  | guildEmojisUpdate guildId es =>
      cases es with
      | nil => exact fun _ h => nomatch h
      | cons => cases hedit
  | guildRoleCreate | guildRoleUpdate | guildRoleDelete => cases hedit
  | _ => trivial

end Lawful

end Catalog

namespace Tables

/-! ## Items in the tables -/

section Items

variable {α : Type} {c : Catalog α} {t t' : Tables}

/-- The item with an id in a cached guild. -/
def item (t : Tables) (c : Catalog α) (guildId id : String) : Option α :=
  (t.guild guildId).bind (c.find id)

theorem item_of_sameField {id : String} (h : t.SameField (c.find id) t') (guildId : String) :
    t'.item c guildId id = t.item c guildId id := by
  have hjoin : ∀ o : Option Guild, o.bind (c.find id) = (o.map (c.find id)).join :=
    fun o => by cases o <;> rfl
  unfold item
  rw [hjoin, hjoin, h guildId]

theorem item_setGuild (g : Guild) (guildId id : String) :
    (t.setGuild g).item c guildId id
      = if g.id = guildId then c.find id g else t.item c guildId id := by
  unfold item setGuild
  by_cases hg : g.id = guildId
  · simp [Slot.guild, hg]
  · simp [Slot.guild, hg, Ne.symm hg]

theorem item_takeGuild (hc : c.Lawful) (botId : String) (g : Guild) (guildId id : String) :
    (t.takeGuild botId g (t.guild g.id)).item c guildId id
      = (c.given guildId id g).getD (t.item c guildId id) := by
  show (t.setGuild (g.fillIds.carryOver (t.guild g.id))).item c guildId id = _
  rw [item_setGuild, Guild.carryOver_id, hc.find_carryOver]
  unfold Catalog.given item
  by_cases hid : g.id = guildId
  · rw [if_pos hid, ← hid]
    exact if_pos rfl
  · rw [if_neg hid]
    exact if_neg hid

/-- Of several snapshots of a guild the last one counts. -/
theorem item_takeReady (hc : c.Lawful) (botId : String) (r : Ready) (guildId id : String) :
    (t.takeReady botId r).item c guildId id
      = (c.told guildId id (.ready r)).getD (t.item c guildId id) := by
  have hguilds : ∀ (gs : List Guild) (t : Tables),
      (gs.foldl (fun t g => t.takeGuild botId g none) t).item c guildId id
        = ((lastWith (·.id) guildId gs).map (c.find id)).getD (t.item c guildId id) := by
    intro gs
    induction gs with
    | nil => intro t; rfl
    | cons g gs ih =>
        intro t
        have hone : (t.takeGuild botId g none).item c guildId id
            = if g.id = guildId then c.find id g else t.item c guildId id := by
          rw [← hc.find_fillIds id g]
          exact item_setGuild g.fillIds guildId id
        rw [List.foldl_cons, ih, hone, lastWith_cons]
        cases lastWith (·.id) guildId gs with
        | some last => rfl
        | none => by_cases hid : g.id = guildId <;> simp [hid]
  exact hguilds r.guilds (t.setUser r.user)

theorem item_removeGuild (g : Guild) (channelIds : List String) (guildId id : String) :
    (t.removeGuild g.id channelIds).item c guildId id
      = (c.told guildId id (.guildDelete g)).getD (t.item c guildId id) := by
  show ((if guildId = g.id then none else t.guild guildId).bind _)
    = (if g.id = guildId then some none else none).getD (t.item c guildId id)
  by_cases hid : g.id = guildId
  · simp [hid]
  · simp [item, hid, Ne.symm hid]

theorem item_changeGuild (ht : t.Sound) {change : Guild → Guild} (hid : ∀ g, (change g).id = g.id)
    {guildId : String} {g : Guild} (hg : t.guild guildId = some g) (guildId' id : String) :
    (t.changeGuild guildId change).item c guildId' id
      = if guildId = guildId' then c.find id (change g) else t.item c guildId' id := by
  rw [changeGuild_eq hg, item_setGuild, hid, ht.guild_id hg]

end Items

/-! ## Edits -/

variable {t : Tables}

theorem foldl_addEmoji (ht : t.Sound) (guildId : String) (es : List Emoji) :
    es.foldl (fun t e => t.changeGuild guildId (·.addEmoji e)) t
      = t.changeGuild guildId fun g => es.foldl (·.addEmoji ·) g := by
  cases hg : t.guild guildId with
  | none =>
      rw [changeGuild_of_none hg, foldl_idle fun e _ => changeGuild_of_none hg _]
  | some g =>
      have hset : ∀ (es : List Emoji) (g : Guild), g.id = guildId →
          es.foldl (fun t e => t.changeGuild guildId (·.addEmoji e)) (t.setGuild g)
            = t.setGuild (es.foldl (·.addEmoji ·) g) := by
        intro es
        induction es with
        | nil => intro g _; rfl
        | cons e es ih =>
            intro g hid
            have hone : (t.setGuild g).changeGuild guildId (·.addEmoji e)
                = t.setGuild (g.addEmoji e) := changeGuild_setGuild hid fun _ => rfl
            rw [List.foldl_cons, hone]
            exact ih (g.addEmoji e) hid
      rw [changeGuild_eq hg, ← hset es g (ht.guild_id hg), setGuild_self (ht.guild_self hg)]

end Tables

namespace Cache

open GuildRelay.Action Tables

variable {s : Surroundings} {settings : CacheSettings} {t : Tables}

/-- An event that edits the lists of a guild goes through if the guild is cached. -/
theorem leads_update_edit (hf : s.fading = false) (hs : s.Allows settings) {botId : String}
    {e : Event} {change : Guild → Guild} (hedit : e.edit? = some change) (he : e.IsWellNamed)
    (ht : t.Sound) :
    (update settings botId e).Leads s t fun r t' =>
      t' = t.changeGuild e.guildIdField change ∧ r.isOk = (t.guild e.guildIdField).isSome := by
  have hone : ∀ {guildId : String} (change : Guild → Guild), (∀ g, (change g).id = g.id) →
      PlainId guildId →
      (guild guildId >>= fun g => write settings (.guild g.id) (change g)).Leads s t
        fun r t' => t' = t.changeGuild guildId change
          ∧ r.isOk = (t.guild guildId).isSome := by
    intro guildId change hid hguild
    refine leads_changeGuild hs hid hguild ht (fun hmiss => ?_) fun g hg => ?_
    · have hnone := (hmiss.eq hf).symm
      rw [changeGuild_of_none hnone, hnone]
      exact ⟨rfl, rfl⟩
    · rw [changeGuild_eq hg, hg]
      exact ⟨rfl, rfl⟩
  cases e with
  | guildRoleCreate guildId r | guildRoleUpdate guildId r =>
      cases hedit
      exact hone (·.addRole r) (fun _ => rfl) he
  | guildRoleDelete guildId roleId =>
      cases hedit
      exact hone (·.removeRole roleId) (fun _ => rfl) he
  | guildEmojisUpdate guildId es =>
      cases es with
      | nil => cases hedit
      | cons e es =>
          cases hedit
          refine ((leads_addEmojis_updated hf hs he ht).and
            (leads_addEmojis_settles hf hs he ht Iff.rfl)).mono ?_
          rintro r t' ⟨ht', hend⟩
          refine ⟨ht'.trans (foldl_addEmoji ht guildId _), ?_⟩
          show r.isOk = (t.guild guildId).isSome
          cases hend with
          | ok hthere => exact (Option.isSome_iff_ne_none.mpr hthere).symm
          | error hmiss => rw [hmiss]; rfl
  | _ => cases hedit

/-- An event that brings guilds or takes one away goes through. -/
theorem leads_update_whole (hf : s.fading = false) (hs : s.Allows settings) {botId : String}
    {e : Event} (hwhole : e.replacesGuilds = true) (he : e.IsWellNamed) (ht : t.Sound) :
    (update settings botId e).Leads s t fun r t' =>
      r = .ok () ∧ t' = t.updated settings botId e := by
  refine Leads.and ?_ (leads_update_updated hf hs he ht)
  cases e with
  | ready r => exact (leads_applyReady hs he).mono fun _ _ h => h.1
  | guildCreate g | guildUpdate g => exact leads_addGuild hs he fun _ _ => rfl
  | guildDelete g => exact leads_removeGuild he ht fun _ _ => rfl
  | _ => cases hwhole

theorem leads_apply_item {α : Type} {c : Catalog α} (hc : c.Lawful) (hf : s.fading = false)
    (hs : s.Allows settings) {botId : String} {e : Event} (he : e.IsWellNamed) (ht : t.Sound) :
    (apply settings botId e).Leads s t fun r t' => ∀ guildId id,
      t'.item c guildId id = (if r.isOk then c.told guildId id e else none).getD
        (t.item c guildId id) := by
  refine leads_apply ?_
  simp only [isOk_map]
  cases hwhole : e.replacesGuilds with
  | true =>
      refine (leads_update_whole hf hs hwhole he ht).mono ?_
      rintro _ _ ⟨rfl, rfl⟩ guildId id
      cases e with
      | ready r => exact item_takeReady hc botId r guildId id
      | guildCreate g | guildUpdate g => exact item_takeGuild hc botId g guildId id
      | guildDelete g => exact item_removeGuild g _ guildId id
      | _ => cases hwhole
  | false =>
      simp only [c.told_eq hwhole]
      cases hedit : e.edit? with
      | none =>
          -- Nothing is told, and the items are spared.
          refine (leads_update_updated hf hs he ht).mono ?_
          rintro r _ rfl guildId id
          have hsame := sameField_updated ht settings botId he (hc.spares id hedit hwhole)
          rw [item_of_sameField hsame, hc.not_edited e id hedit, ite_self, ite_self]
          rfl
      | some change =>
          refine (leads_update_edit hf hs hedit he ht).mono ?_
          rintro r _ ⟨rfl, hr⟩ guildId id
          rw [hr]
          cases hg : t.guild e.guildIdField with
          | none =>
              rw [changeGuild_of_none hg]
              rfl
          | some g =>
              rw [item_changeGuild ht (Event.id_of_edit hedit) hg, Option.isSome_some, if_pos rfl]
              split
              · next hid =>
                rw [hc.edit e change hedit, item, ← hid, hg]
                rfl
              · rfl

/-- Looking something up in a guild. -/
theorem leads_findInGuild {α : Type} (find : Guild → Option α) (hf : s.fading = false)
    {guildId : String} (hguild : PlainId guildId) (ht : t.Sound) :
    (guild guildId >>= fun g => ofOption (find g)).Leads s t
      fun r _ => r = ((t.guild guildId).bind find).elim (.error .notFound) .ok := by
  refine .bind (leads_guild ht hguild (fun hmiss => ?_) fun g hg _ => ?_)
  · rw [← hmiss.eq hf]
    rfl
  · rw [hg]
    show (ofOption (find g)).Leads s t fun r _ => r = (find g).elim (.error .notFound) .ok
    cases find g with
    | none => exact ⟨t, rfl, rfl⟩
    | some a => exact .pure rfl

theorem leads_find {α : Type} (c : Catalog α) (hf : s.fading = false) {guildId : String}
    (hguild : PlainId guildId) (ht : t.Sound) (id : String) :
    (guild guildId >>= fun g => ofOption (c.find id g)).Leads s t
      fun r _ => r = (t.item c guildId id).elim (.error .notFound) .ok :=
  leads_findInGuild (c.find id) hf hguild ht

end Cache

/-! ## Histories -/

namespace Catalog

variable {α : Type} (c : Catalog α) {guildId id : String} {a : Applied} (log : List Applied)

theorem latest_cons :
    c.latest guildId id (a :: log)
      = (if a.succeeded then c.told guildId id a.event else none).getD
        (c.latest guildId id log) := by
  unfold latest
  rw [List.findSome?_cons]
  split
  · next heq => rw [heq]; rfl
  · next heq => rw [heq]; rfl

theorem latest_of_told {v : Option α} (hok : a.succeeded = true)
    (htold : c.told guildId id a.event = some v) : c.latest guildId id (a :: log) = v := by
  rw [latest_cons, if_pos hok, htold, Option.getD_some]

theorem latest_of_silent (htold : c.told guildId id a.event = none) :
    c.latest guildId id (a :: log) = c.latest guildId id log := by
  rw [latest_cons, htold, ite_self, Option.getD_none]

end Catalog

namespace World

open Tables

variable {ns : String} {settings : CacheSettings} {log : List Applied} {w : World}

/-- Of every item the tables have what was last told of it. -/
theorem Follows.exists_items (h : Follows ns settings Event.IsWellNamed log w)
    (hexpiry : settings.expiry = none) {α : Type} {c : Catalog α} (hc : c.Lawful) :
    ∃ t : Tables, t.Sound ∧ (∀ guildId id, t.item c guildId id = c.latest guildId id log)
      ∧ w.Shows ns settings.surroundings t.content := by
  refine h.exists_tables
    (I := fun log t => ∀ guildId id, t.item c guildId id = c.latest guildId id log)
    settings.surroundings_allows rfl (fun _ he => he) (fun _ _ => rfl)
    fun e botId log t he ht hI => ?_
  refine (Cache.leads_apply_item hc (CacheSettings.not_fading hexpiry)
    settings.surroundings_allows he ht).mono fun r t' htold guildId id => ?_
  rw [htold, hI, Catalog.latest_cons]
  rfl

/-- Where nothing expires, a role is found as the latest event has it that went through and tells of
it, and an emoji likewise. All other events leave it alone, although they may write its guild. -/
theorem Follows.roles_and_emojis_as_last_told (h : Follows ns settings Event.IsWellNamed log w)
    (hexpiry : settings.expiry = none) {guildId : String} (hguild : PlainId guildId)
    (id : String) :
    w.answer ns (.role guildId id)
      = (Catalog.roles.latest guildId id log).elim (.error .notFound) .ok
    ∧ w.answer ns (.emoji guildId id)
      = (Catalog.emojis.latest guildId id log).elim (.error .notFound) .ok := by
  have hf := CacheSettings.not_fading hexpiry
  constructor
  · obtain ⟨t, ht, hitem, hw⟩ := h.exists_items hexpiry Catalog.lawful_roles
    rw [← hitem]
    exact answer_eq hw.host (q := .role guildId id) (Cache.leads_find Catalog.roles hf hguild ht id)
  · obtain ⟨t, ht, hitem, hw⟩ := h.exists_items hexpiry Catalog.lawful_emojis
    rw [← hitem]
    exact answer_eq hw.host (q := .emoji guildId id)
      (Cache.leads_find Catalog.emojis hf hguild ht id)

/-- A role of the small guild. -/
def sampleRole : Role where
  id := "7"
  name := "keepers"

/-- The small world after the role was made. -/
def sampleWithRole : World :=
  sample.after "relay" {} "3" (.guildRoleCreate "1" sampleRole)

/-- The small guild with another name, and without a list of roles. -/
def sampleRename : Event :=
  .guildUpdate { id := "1", name := "harbour" }

/-- What the bot has received by then. -/
def sampleRoleLog : List Applied :=
  ⟨sampleRename, sampleWithRole.result "relay" {} "3" sampleRename⟩
    :: ⟨.guildRoleCreate "1" sampleRole,
      sample.result "relay" {} "3" (.guildRoleCreate "1" sampleRole)⟩
    :: sampleLog

theorem sample_roles_as_last_told :
    Catalog.roles.latest "1" "7" sampleRoleLog = some sampleRole
    ∧ (sampleWithRole.after "relay" {} "3" sampleRename).answer "relay" (.role "1" "7")
      = .ok sampleRole := by
  have hguild : PlainId "1" := by decide
  have hcreate : (Event.guildRoleCreate "1" sampleRole).IsWellNamed := hguild
  have hrename : sampleRename.IsWellNamed := ⟨hguild, by decide, by decide⟩
  have h : Follows "relay" {} Event.IsWellNamed sampleRoleLog _ :=
    ((sample_follows sampleGuild_isWellNamed).after "3" hcreate).after "3" hrename
  -- The event that makes the role goes through, since the guild is cached.
  obtain ⟨t, hkeeps, hcached⟩ : ∃ t : Tables, sample.KeepsTables "relay" {} t
      ∧ (t.guild "1").isSome := ⟨_, sample_keepsTables, by decide⟩
  have hleads : (Cache.apply {} "3" (.guildRoleCreate "1" sampleRole)).Leads
      (CacheSettings.surroundings {}) t fun r _ => r.isOk = true := by
    refine Cache.leads_apply ((Cache.leads_update_edit (CacheSettings.not_fading rfl)
      (CacheSettings.surroundings_allows {}) rfl hcreate hkeeps.sound).mono ?_)
    rintro (_ | _) _ ⟨-, hok⟩
    · exact hok.trans hcached
    · rfl
  obtain ⟨_, hok⟩ := exists_result hkeeps.shows hleads
  have hsilent : Catalog.roles.told "1" "7" sampleRename = none := rfl
  have htold : Catalog.roles.told "1" "7" (.guildRoleCreate "1" sampleRole)
      = some (some sampleRole) := rfl
  have hlatest : Catalog.roles.latest "1" "7" sampleRoleLog = some sampleRole := by
    rw [sampleRoleLog, Catalog.latest_of_silent _ _ hsilent, Catalog.latest_of_told _ _ ?_ htold]
    rw [Applied.succeeded_mk]
    exact hok
  obtain ⟨hrole, -⟩ := h.roles_and_emojis_as_last_told rfl hguild "7"
  rw [hlatest] at hrole
  exact ⟨hlatest, hrole⟩

end World

end GuildRelay
