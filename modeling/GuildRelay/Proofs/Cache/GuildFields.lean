import GuildRelay.Proofs.Cache.MemberCopies
import GuildRelay.Proofs.Cache.Outcome
/-!
# Fields of guilds that events leave alone

Almost every event writes the record of its guild again, as a whole, for the sake of one list in it.
`Event.Spares` asks of a field that the list which the event changes does not matter to it, and
`Tables.sameField_updated` says that the field is then the same in all guilds, and that no guild has
come or gone. The exceptions are the events that bring a guild or take it away, which spare no
field.
-/

namespace GuildRelay

/-- The event brings guilds or takes one away. -/
def Event.replacesGuilds : Event → Bool
  | .ready _ => true
  | .guildCreate _ => true
  | .guildUpdate _ => true
  | .guildDelete _ => true
  | _ => false

/-- What the event changes about guilds does not matter to the field. -/
def Event.Spares {β : Type} (field : Guild → β) : Event → Prop
  | .ready _ => False
  | .guildCreate _ => False
  | .guildUpdate _ => False
  | .guildDelete _ => False
  | .guildMemberAdd _ => ∀ g m, field (g.addMember m) = field g
  | .guildMemberUpdate _ => ∀ g m, field (g.addMember m) = field g
  | .guildMembersChunk _ _ => ∀ g m, field (g.addMember m) = field g
  | .guildMemberRemove m => ∀ g, field (g.removeMember m.user.id) = field g
  | .guildRoleCreate _ r => ∀ g, field (g.addRole r) = field g
  | .guildRoleUpdate _ r => ∀ g, field (g.addRole r) = field g
  | .guildRoleDelete _ roleId => ∀ g, field (g.removeRole roleId) = field g
  | .guildEmojisUpdate _ emojis => ∀ e ∈ emojis, ∀ g, field (g.addEmoji e) = field g
  | .channelCreate _ => ∀ g c, field (g.addChannel c) = field g
  | .channelUpdate _ => ∀ g c, field (g.addChannel c) = field g
  | .channelDelete c => ∀ g, field (g.removeChannel c.id) = field g
  | .presenceUpdate _ p =>
    (∀ g, field (g.addPresence p) = field g) ∧ ∀ g m, field (g.addMember m) = field g
  | _ => True

namespace Tables

variable {β : Type} {field : Guild → β} {t t' t'' : Tables}

/-- The same guilds are cached, with the same field. -/
def SameField (t : Tables) (field : Guild → β) (t' : Tables) : Prop :=
  ∀ g, (t'.guild g).map field = (t.guild g).map field

theorem SameField.of_guild (h : t'.guild = t.guild) : t.SameField field t' := by
  intro g
  rw [h]

theorem SameField.trans (h : t.SameField field t') (h' : t'.SameField field t'') :
    t.SameField field t'' :=
  fun g => (h' g).trans (h g)

theorem sameField_setGuild (ht : t.Sound) {guildId : String} {g g' : Guild}
    (hg : t.guild guildId = some g) (hid : g'.id = g.id) (hfield : field g' = field g) :
    t.SameField field (t.setGuild g') := by
  intro id
  by_cases hown : id = guildId
  · rw [hown, ht.guild_setGuild_self hg hid, hg]
    exact congrArg some hfield
  · have hother : id ≠ g'.id := by
      rwa [hid, ht.guild_id hg]
    exact congrArg (Option.map field) (if_neg hother)

theorem sameField_changeGuild (ht : t.Sound) (guildId : String) {change : Guild → Guild}
    (hid : ∀ g, (change g).id = g.id) (hfield : ∀ g, field (change g) = field g) :
    t.SameField field (t.changeGuild guildId change) := by
  unfold changeGuild
  split
  · next g hg => exact sameField_setGuild ht hg (hid g) (hfield g)
  · exact .of_guild rfl

theorem sameField_takeMember (ht : t.Sound) (hfield : ∀ g m, field (g.addMember m) = field g)
    (m : Member) : t.SameField field (t.takeMember m) := by
  unfold takeMember
  split
  · next g hg => exact sameField_setGuild ht hg rfl (hfield g _)
  · exact .of_guild rfl

/-- To a field of which members are no part a presence is a change of its guild. -/
theorem sameField_changeGuild_takePresence (ht : t.Sound)
    (hmember : ∀ g m, field (g.addMember m) = field g) (guildId : String) (p : Presence) :
    (t.changeGuild guildId (·.addPresence p)).SameField field (t.takePresence guildId p) := by
  unfold changeGuild takePresence
  split
  · next g hg =>
    split
    · exact .of_guild rfl
    · have hsound := ht.setPresence hg p
      exact sameField_takeMember hsound hmember _
  · exact .of_guild rfl

theorem sameField_takePresence (ht : t.Sound) (guildId : String) {p : Presence}
    (hpresence : ∀ g, field (g.addPresence p) = field g)
    (hmember : ∀ g m, field (g.addMember m) = field g) :
    t.SameField field (t.takePresence guildId p) := by
  have hfirst : t.SameField field (t.changeGuild guildId (·.addPresence p)) :=
    sameField_changeGuild ht guildId (fun _ => rfl) hpresence
  exact hfirst.trans (sameField_changeGuild_takePresence ht hmember guildId p)

theorem sameField_takeChannel (ht : t.Sound) (hfield : ∀ g c, field (g.addChannel c) = field g)
    (c : Channel) : t.SameField field (t.takeChannel c) := by
  unfold takeChannel
  dsimp only
  split
  · exact .of_guild rfl
  · split
    · next g hg => exact sameField_setGuild ht hg rfl (hfield g _)
    · exact .of_guild rfl

theorem sameField_loseChannel (ht : t.Sound) {channelId : String}
    (hfield : ∀ g, field (g.removeChannel channelId) = field g) :
    t.SameField field (t.loseChannel channelId) := by
  unfold loseChannel
  split
  · split
    · exact .of_guild rfl
    · split
      · next g hg => exact sameField_setGuild ht hg rfl (hfield g)
      · exact .of_guild rfl
  · exact .of_guild rfl

/-- A field that an event spares is what it was. -/
theorem sameField_updated (ht : t.Sound) (settings : CacheSettings) (botId : String) {e : Event}
    (he : e.IsWellNamed) (hspares : e.Spares field) :
    t.SameField field (t.updated settings botId e) := by
  cases e with
  | ready | guildCreate | guildUpdate | guildDelete => exact hspares.elim
  | guildMemberAdd m | guildMemberUpdate m => exact sameField_takeMember ht hspares m
  | guildMemberRemove m =>
      simp only [updated]
      split
      · next g hg =>
        have hset : t.SameField field (t.setGuild (g.removeMember m.user.id)) :=
          sameField_setGuild ht hg rfl (hspares g)
        intro id
        rw [guild_removeMember]
        exact hset id
      · exact .of_guild rfl
  | guildMembersChunk guildId members =>
      refine (List.foldlRecOn members _
        (motive := fun t' : Tables => t'.Sound ∧ t.SameField field t') ⟨ht, .of_guild rfl⟩ ?_).2
      rintro t' ⟨ht', hsame⟩ m hm
      exact ⟨ht'.takeMember ⟨he.1, he.2 m hm⟩,
        hsame.trans (sameField_takeMember ht' hspares { m with guildId })⟩
  | guildRoleCreate guildId | guildRoleUpdate guildId | guildRoleDelete guildId =>
      exact sameField_changeGuild ht guildId (fun _ => rfl) hspares
  | guildEmojisUpdate guildId emojis =>
      refine (List.foldlRecOn emojis _
        (motive := fun t' : Tables => t'.Sound ∧ t.SameField field t') ⟨ht, .of_guild rfl⟩ ?_).2
      rintro t' ⟨ht', hsame⟩ e he
      exact ⟨ht'.changeGuild fun _ => rfl,
        hsame.trans (sameField_changeGuild ht' guildId (fun _ => rfl) (hspares e he))⟩
  | guildBanAdd | guildBanRemove | messageCreate =>
      simp only [updated]
      split <;> exact .of_guild rfl
  | channelCreate c | channelUpdate c => exact sameField_takeChannel ht hspares c
  | channelDelete c => exact sameField_loseChannel ht hspares
  | channelPinsUpdate p =>
      simp only [updated, takePins]
      split <;> exact .of_guild rfl
  | presenceUpdate guildId p => exact sameField_takePresence ht guildId hspares.1 hspares.2
  | _ => exact .of_guild rfl

end Tables

end GuildRelay
