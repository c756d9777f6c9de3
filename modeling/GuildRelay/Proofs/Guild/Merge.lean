import GuildRelay.Guild.Merge
/-!
# What merging keeps

The ids of records after a merge, the lists of a guild that are filled in, and what a merge leaves
to do for a second one: a record that has taken an update in is not changed by it again. An upsert
takes the place of an earlier one with the same id, and upserts with different ids may change
places once both ids are there.
-/

namespace GuildRelay

theorem mem_of_mem_replaceOrAdd {α : Type} {fits : α → Bool} {new a : α} :
    ∀ {items : List α}, a ∈ replaceOrAdd fits new items → a = new ∨ a ∈ items
  | [], h => .inl (List.mem_singleton.mp h)
  | b :: rest, h => by
      simp only [replaceOrAdd, changeOrAdd] at h
      split at h
      · rcases List.mem_cons.mp h with rfl | h
        · exact .inl rfl
        · exact .inr (List.mem_cons_of_mem b h)
      · rcases List.mem_cons.mp h with rfl | h
        · exact .inr List.mem_cons_self
        · exact (mem_of_mem_replaceOrAdd h).imp_right (List.mem_cons_of_mem b)

section ById

variable {α : Type} {idOf : α → String} {new : α}

/-- Replacing an item by its id keeps the ids, and a new item comes last. -/
theorem map_replaceOrAdd : ∀ {items : List α},
    (replaceOrAdd (fun old => idOf old == idOf new) new items).map idOf
      = if idOf new ∈ items.map idOf then items.map idOf else items.map idOf ++ [idOf new]
  | [] => rfl
  | a :: rest => by
      by_cases ha : idOf a = idOf new
      · simp [replaceOrAdd, changeOrAdd, ha]
      · have ih : (replaceOrAdd (fun old => idOf old == idOf new) new rest).map idOf = _ :=
          map_replaceOrAdd
        simp only [replaceOrAdd] at ih
        simp only [replaceOrAdd, changeOrAdd, beq_iff_eq, if_neg ha, List.map_cons, ih,
          List.mem_cons, Ne.symm ha, false_or]
        split <;> rfl

theorem nodup_replaceOrAdd {items : List α} (h : (items.map idOf).Nodup) :
    ((replaceOrAdd (fun old => idOf old == idOf new) new items).map idOf).Nodup := by
  rw [map_replaceOrAdd]
  split
  · exact h
  · next hnew =>
    have hone : [idOf new].Nodup := List.pairwise_singleton _ _
    refine List.nodup_append.mpr ⟨h, hone, fun id hid id' hid' heq => hnew ?_⟩
    rw [List.mem_singleton] at hid'
    rwa [← hid', ← heq]

/-- After a change its id finds the changed item or the fresh one, and other ids find what they
found before. -/
theorem find?_changeOrAdd {change : α → α} (id : String)
    (hchange : ∀ a, idOf a = idOf new → idOf (change a) = idOf new) : ∀ items : List α,
    (changeOrAdd (fun old => idOf old == idOf new) change new items).find? (fun a => idOf a == id)
      = if idOf new = id then some ((items.find? fun a => idOf a == id).elim new change)
        else items.find? fun a => idOf a == id
  | [] => by simp [changeOrAdd, List.find?_singleton]
  | a :: rest => by
      by_cases ha : idOf a = idOf new
      · by_cases hid : idOf new = id <;> simp [changeOrAdd, ha, hid, hchange a ha]
      · simp only [changeOrAdd, beq_iff_eq, if_neg ha, List.find?_cons,
          find?_changeOrAdd id hchange rest]
        by_cases hid : idOf a = id
        · have hnew : idOf new ≠ id := fun h => ha (hid.trans h.symm)
          simp [hid, hnew]
        · rw [beq_eq_false_iff_ne.mpr hid]

/-- After a replacement its id finds the new item, and other ids find what they found before. -/
theorem find?_replaceOrAdd (id : String) (items : List α) :
    (replaceOrAdd (fun old => idOf old == idOf new) new items).find? (fun a => idOf a == id)
      = if idOf new = id then some new else items.find? fun a => idOf a == id := by
  rw [replaceOrAdd, find?_changeOrAdd id fun _ _ => rfl]
  cases items.find? fun a => idOf a == id <;> rfl

/-- Where ids are distinct, a replacement leaves the new item and those with other ids. -/
theorem eq_or_of_mem_replaceOrAdd {a : α} : ∀ {items : List α}, (items.map idOf).Nodup →
    a ∈ replaceOrAdd (fun old => idOf old == idOf new) new items →
      a = new ∨ (a ∈ items ∧ idOf a ≠ idOf new)
  | [], _, h => .inl (List.mem_singleton.mp h)
  | b :: rest, hnodup, h => by
      obtain ⟨hb, hrest⟩ := List.nodup_cons.mp hnodup
      simp only [replaceOrAdd, changeOrAdd, beq_iff_eq] at h
      split at h
      · next hid =>
        rcases List.mem_cons.mp h with rfl | h
        · exact .inl rfl
        · refine .inr ⟨List.mem_cons_of_mem b h, fun heq => hb ?_⟩
          rw [hid, ← heq]
          exact List.mem_map_of_mem h
      · next hid =>
        rcases List.mem_cons.mp h with rfl | h
        · exact .inr ⟨List.mem_cons_self, hid⟩
        · exact (eq_or_of_mem_replaceOrAdd hrest h).imp_right
            (And.imp_left (List.mem_cons_of_mem b))

/-- An item takes the place of another with its id. -/
theorem replaceOrAdd_replaceOrAdd (idOf : α → String) {old : α} (hid : idOf old = idOf new)
    (items : List α) :
    replaceOrAdd (fun a => idOf a == idOf new) new
        (replaceOrAdd (fun a => idOf a == idOf old) old items)
      = replaceOrAdd (fun a => idOf a == idOf new) new items := by
  rw [hid]
  induction items with
  | nil => simp [replaceOrAdd, changeOrAdd, hid]
  | cons a rest ih =>
      simp only [replaceOrAdd] at ih
      by_cases ha : idOf a = idOf new
      · simp [replaceOrAdd, changeOrAdd, ha, hid]
      · simp [replaceOrAdd, changeOrAdd, ha, ih]

/-- Two items may change places if one of them is a replacement, for then only the other can be
added at the end. -/
theorem replaceOrAdd_comm (idOf : α → String) {other : α} (hne : idOf new ≠ idOf other)
    {items : List α}
    (hthere : idOf other ∈ items.map idOf) :
    replaceOrAdd (fun a => idOf a == idOf other) other
        (replaceOrAdd (fun a => idOf a == idOf new) new items)
      = replaceOrAdd (fun a => idOf a == idOf new) new
        (replaceOrAdd (fun a => idOf a == idOf other) other items) := by
  induction items with
  | nil => cases hthere
  | cons a rest ih =>
      simp only [replaceOrAdd] at ih
      rw [List.map_cons, List.mem_cons] at hthere
      by_cases hnew : idOf a = idOf new
      · have hother : idOf a ≠ idOf other := fun h => hne (hnew.symm.trans h)
        simp [replaceOrAdd, changeOrAdd, hnew, hne]
      · by_cases hother : idOf a = idOf other
        · simp [replaceOrAdd, changeOrAdd, hother, Ne.symm hne]
        · have hrest := hthere.resolve_left (Ne.symm hother)
          simp [replaceOrAdd, changeOrAdd, hnew, hother, ih hrest]

end ById

/-- Where an item has been changed or added, the same change finds it and does nothing more. -/
theorem changeOrAdd_changeOrAdd {α : Type} (fits : α → Bool) (change : α → α) (fresh : α)
    (items : List α) (hfits : ∀ a, fits (change a) = fits a)
    (hchange : ∀ a, change (change a) = change a) (hfresh : fits fresh = true)
    (hsame : change fresh = fresh) :
    changeOrAdd fits change fresh (changeOrAdd fits change fresh items)
      = changeOrAdd fits change fresh items := by
  induction items with
  | nil => simp [changeOrAdd, hfresh, hsame]
  | cons a rest ih =>
      by_cases ha : fits a = true
      · simp [changeOrAdd, ha, hfits, hchange]
      · simp [changeOrAdd, ha, ih]

/-! ## Merging twice -/

theorem unlessBlank_self (text : String) : unlessBlank text text = text := by
  unfold unlessBlank
  split <;> rfl

theorem unlessBlank_unlessBlank (new cached : String) :
    unlessBlank new (unlessBlank new cached) = unlessBlank new cached := by
  unfold unlessBlank
  split <;> rfl

theorem User.updated_self (u : User) : u.updated u = u := by
  simp [User.updated, unlessBlank_self]

theorem User.updated_updated (cached update : User) :
    (cached.updated update).updated update = cached.updated update := by
  simp [User.updated, unlessBlank_unlessBlank]

namespace Presence

theorem updated_self (p : Presence) : p.updated p = p := by
  simp [updated, User.updated_self, unlessBlank_self]

theorem updated_updated (cached update : Presence) :
    (cached.updated update).updated update = cached.updated update := by
  simp [updated, User.updated_updated, unlessBlank_unlessBlank, ← Option.or_assoc]

end Presence

namespace Member

theorem seen_seen (m : Member) (p : Presence) : (m.seen p).seen p = m.seen p := by
  simp [seen, unlessBlank_unlessBlank]

/-- A member that a presence has told of looks as the presence has it. -/
theorem seen_newMember (p : Presence) (guildId : String) (cachedUser : Option User) :
    (p.newMember guildId cachedUser).seen p = p.newMember guildId cachedUser := by
  simp [seen, Presence.newMember, User.updated, unlessBlank_self, unlessBlank_unlessBlank]

theorem carryOver_user (m : Member) (cached : Option Member) :
    (m.carryOver cached).user = m.user := by
  cases cached <;> rfl

theorem carryOver_seen (m : Member) (p : Presence) :
    (m.seen p).carryOver (some m) = m.seen p := by
  simp [carryOver, seen]

theorem carryOver_carryOver (m : Member) (cached : Option Member) :
    m.carryOver (some (m.carryOver cached)) = m.carryOver cached := by
  cases cached <;> simp [carryOver, ← Option.or_assoc]

/-- What a member has carried over through another one does not depend on whether it was there
before. -/
theorem carryOver_between (m other : Member) (cached : Option Member) :
    m.carryOver (some (other.carryOver (some (m.carryOver cached))))
      = m.carryOver (some (other.carryOver cached)) := by
  cases cached <;> cases hm : m.joinedAt <;> simp [carryOver, hm]

end Member

theorem Channel.carryOver_carryOver (c : Channel) (cached : Option Channel) :
    c.carryOver (some (c.carryOver cached)) = c.carryOver cached := by
  cases cached <;> simp [carryOver, ← Option.or_assoc]

namespace Guild

theorem channelList_fillIds (g : Guild) : g.fillIds.channelList
    = g.channelList.map fun c => { c with guildId := unlessBlank c.guildId g.id } := by
  unfold channelList fillIds
  cases g.channels <;> rfl

theorem map_id_channelList_fillIds (g : Guild) :
    g.fillIds.channelList.map (·.id) = g.channelList.map (·.id) := by
  rw [channelList_fillIds, List.map_map]
  rfl

theorem memberList_fillIds (g : Guild) : g.fillIds.memberList
    = g.memberList.map fun m => { m with guildId := unlessBlank m.guildId g.id } := by
  unfold memberList fillIds
  cases g.members <;> rfl

theorem carryOver_id (g : Guild) (cached : Option Guild) : (g.carryOver cached).id = g.id := by
  cases cached <;> rfl

theorem channelList_removeChannel (g : Guild) (channelId : String) :
    (g.removeChannel channelId).channelList = g.channelList.filter fun c => c.id != channelId := by
  unfold channelList removeChannel
  cases g.channels <;> rfl

theorem roleList_removeRole (g : Guild) (roleId : String) :
    (g.removeRole roleId).roleList = g.roleList.filter fun r => r.id != roleId := by
  unfold roleList removeRole
  cases g.roles <;> rfl

/-- A guild takes over the cached channels only if it lists none. -/
theorem channelList_carryOver_eq (g : Guild) (cached : Option Guild) :
    (g.carryOver cached).channelList = g.channelList
      ∨ (g.channelList = [] ∧ ∃ old, cached = some old
        ∧ (g.carryOver cached).channelList = old.channelList) := by
  cases cached with
  | none => exact .inl rfl
  | some old =>
      simp only [carryOver, channelList]
      cases g.channels with
      | none => exact .inr ⟨rfl, old, rfl, by rw [Option.none_or]⟩
      | some cs => exact .inl (by rw [Option.some_or])

theorem channelList_carryOver {g : Guild} {cached : Option Guild} {c : Channel}
    (h : c ∈ (g.carryOver cached).channelList) :
    c ∈ g.channelList ∨ ∃ old, cached = some old ∧ c ∈ old.channelList := by
  rcases channelList_carryOver_eq g cached with hlist | ⟨-, old, hold, hlist⟩
  · exact .inl (hlist ▸ h)
  · exact .inr ⟨old, hold, hlist ▸ h⟩

theorem carryOver_carryOver (g : Guild) (cached : Option Guild) :
    g.carryOver (some (g.carryOver cached)) = g.carryOver cached := by
  cases cached with
  | none =>
      obtain ⟨_, _, _, _, _, _, _, _, members, _, _⟩ := g
      cases members <;> simp [carryOver]
  | some old => cases hms : g.members <;> simp [carryOver, hms, ← Option.or_assoc]

theorem addMember_addMember {m old : Member} (h : old.user.id = m.user.id) (g : Guild) :
    (g.addMember old).addMember m = g.addMember m := by
  unfold addMember
  exact congrArg g.withMembers
    (replaceOrAdd_replaceOrAdd (fun m : Member => m.user.id) h g.memberList)

theorem addMember_comm {m other : Member} (hne : m.user.id ≠ other.user.id) {g : Guild}
    (hthere : other.user.id ∈ g.memberList.map (·.user.id)) :
    (g.addMember m).addMember other = (g.addMember other).addMember m := by
  unfold addMember
  exact congrArg g.withMembers (replaceOrAdd_comm (fun m : Member => m.user.id) hne hthere)

theorem addEmoji_addEmoji {e old : Emoji} (h : old.id = e.id) (g : Guild) :
    (g.addEmoji old).addEmoji e = g.addEmoji e := by
  unfold addEmoji
  exact congrArg (fun es => { g with emojis := some es })
    (replaceOrAdd_replaceOrAdd (·.id) h g.emojiList)

theorem addEmoji_comm {e other : Emoji} (hne : e.id ≠ other.id) {g : Guild}
    (hthere : other.id ∈ g.emojiList.map (·.id)) :
    (g.addEmoji e).addEmoji other = (g.addEmoji other).addEmoji e := by
  unfold addEmoji
  exact congrArg (fun es => { g with emojis := some es })
    (replaceOrAdd_comm (·.id) hne hthere)

theorem addRole_addRole (g : Guild) (r : Role) : (g.addRole r).addRole r = g.addRole r := by
  unfold addRole
  exact congrArg (fun rs => { g with roles := some rs })
    (replaceOrAdd_replaceOrAdd (·.id) rfl g.roleList)

theorem removeRole_removeRole (g : Guild) (roleId : String) :
    (g.removeRole roleId).removeRole roleId = g.removeRole roleId := by
  cases hrs : g.roles <;> simp [removeRole, hrs, List.filter_filter]

theorem addChannel_addChannel (g : Guild) (c : Channel) :
    (g.addChannel c).addChannel c = g.addChannel c := by
  unfold addChannel
  exact congrArg (fun cs => { g with channels := some cs })
    (replaceOrAdd_replaceOrAdd (·.id) rfl g.channelList)

theorem removeChannel_removeChannel (g : Guild) (channelId : String) :
    (g.removeChannel channelId).removeChannel channelId = g.removeChannel channelId := by
  cases hcs : g.channels <;> simp [removeChannel, hcs, List.filter_filter]

theorem addPresence_addPresence (g : Guild) (p : Presence) :
    (g.addPresence p).addPresence p = g.addPresence p := by
  unfold addPresence
  exact congrArg (fun ps => { g with presences := some ps })
    (changeOrAdd_changeOrAdd (fun old => old.user.id == p.user.id) (·.updated p) p g.presenceList
      (fun _ => rfl) (fun a => a.updated_updated p) (beq_self_eq_true _) p.updated_self)

/-- A guild with the presences of one that has taken a presence in has taken it in. -/
theorem addPresence_of_presences {g g' : Guild} {p : Presence}
    (h : g'.presences = (g.addPresence p).presences) : g'.addPresence p = g' := by
  have hlist : g'.presenceList = (g.addPresence p).presenceList := by
    unfold presenceList
    rw [h]
  calc g'.addPresence p
      = { g' with presences := ((g.addPresence p).addPresence p).presences } := by
        simp only [addPresence, hlist]
    _ = g' := by rw [addPresence_addPresence, ← h]

theorem removeMember_removeMember (g : Guild) (userId : String) :
    (g.removeMember userId).removeMember userId = g.removeMember userId := by
  simp [removeMember, withMembers, memberList, List.filter_filter]

end Guild

namespace Channel

theorem carryOver_id (c : Channel) (cached : Option Channel) :
    (c.carryOver cached).id = c.id := by
  cases cached <;> rfl

theorem carryOver_guildId (c : Channel) (cached : Option Channel) :
    (c.carryOver cached).guildId = c.guildId := by
  cases cached <;> rfl

theorem carryOver_isPrivate (c : Channel) (cached : Option Channel) :
    (c.carryOver cached).isPrivate = c.isPrivate := by
  cases cached <;> rfl

end Channel

end GuildRelay
