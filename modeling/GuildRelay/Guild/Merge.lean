import GuildRelay.Guild.Basic
/-!
# Merging updates into records

Updates are partial: what is absent or blank in them is unchanged. Where the incoming record wins,
`orElse` fills its absent fields from the cached one; where the cached record wins, `unlessBlank`
takes over the fields that the update fills in.
-/

namespace GuildRelay

/-- The new text unless it is blank. -/
def unlessBlank (new cached : String) : String :=
  if new.isEmpty then cached else new

/-- The list with its first fitting item changed, or with a fresh item at the end if none fits. -/
def changeOrAdd {α : Type} (fits : α → Bool) (change : α → α) (fresh : α) : List α → List α
  | [] => [fresh]
  | a :: rest => if fits a then change a :: rest else a :: changeOrAdd fits change fresh rest

/-- The list with its first fitting item replaced, or with the new one at the end if none fits. -/
def replaceOrAdd {α : Type} (fits : α → Bool) (new : α) (items : List α) : List α :=
  changeOrAdd fits (fun _ => new) new items

theorem mem_replaceOrAdd_self {α : Type} (fits : α → Bool) (new : α) (items : List α) :
    new ∈ replaceOrAdd fits new items := by
  induction items with
  | nil => simp [replaceOrAdd, changeOrAdd]
  | cons a rest ih =>
    by_cases h : fits a = true
    · simp [replaceOrAdd, changeOrAdd, h]
    · simpa [replaceOrAdd, changeOrAdd, h] using .inr ih

/-! ## Users and presences -/

/-- The cached user with the names and the avatar that an update fills in. -/
def User.updated (cached update : User) : User :=
  { cached with
    username := unlessBlank update.username cached.username
    discriminator := unlessBlank update.discriminator cached.discriminator
    avatar := unlessBlank update.avatar cached.avatar }

/-- The cached presence after an update: roles and activity are always those of the update. -/
def Presence.updated (cached update : Presence) : Presence where
  user := cached.user.updated update.user
  status := update.status.or cached.status
  nick := unlessBlank update.nick cached.nick
  roles := update.roles
  game := update.game

/-! ## Members -/

/-- The cached member after a presence, which tells all roles. -/
def Member.seen (m : Member) (p : Presence) : Member :=
  { m with
    nick := unlessBlank p.nick m.nick
    user := { m.user with username := unlessBlank p.user.username m.user.username }
    roles := p.roles }

/-- The member that a presence tells of when none is cached. -/
def Presence.newMember (p : Presence) (guildId : String) (cachedUser : Option User) : Member where
  guildId := guildId
  user := (cachedUser.getD p.user).updated p.user
  nick := p.nick
  roles := p.roles

/-- The incoming member, who joined when the cached one did unless told otherwise. -/
def Member.carryOver (m : Member) : Option Member → Member
  | some cached => { m with joinedAt := m.joinedAt.or cached.joinedAt }
  | none => m

/-! ## Channels -/

/-- The incoming channel with what it leaves out taken from the cached one. -/
def Channel.carryOver (c : Channel) : Option Channel → Channel
  | some cached =>
    { c with
      messages := c.messages.or cached.messages
      permissionOverwrites := c.permissionOverwrites.or cached.permissionOverwrites
      lastPinTimestamp := c.lastPinTimestamp.or cached.lastPinTimestamp }
  | none => c

/-! ## Guilds -/

namespace Guild

/-- The guild with its id on the channels and members that have none. -/
def fillIds (g : Guild) : Guild :=
  { g with
    channels := g.channels.map fun cs =>
      cs.map fun c => { c with guildId := unlessBlank c.guildId g.id }
    members := g.members.map fun ms =>
      ms.map fun m => { m with guildId := unlessBlank m.guildId g.id } }

/-- The incoming guild with the lists that it leaves out taken from the cached one. Without a list
of members it has no say in their number either. -/
def carryOver (g : Guild) : Option Guild → Guild
  | some cached =>
    { g with
      roles := g.roles.or cached.roles
      emojis := g.emojis.or cached.emojis
      members := g.members.or cached.members
      presences := g.presences.or cached.presences
      channels := g.channels.or cached.channels
      voiceStates := g.voiceStates.or cached.voiceStates
      memberCount := if g.members.isNone then cached.memberCount else g.memberCount }
  | none => g

/-- The guild with another list of members. -/
def withMembers (g : Guild) (members : List Member) : Guild :=
  { g with members := some members, memberCount := .ofNat members.length }

/-- The guild with a member added or replaced. -/
def addMember (g : Guild) (m : Member) : Guild :=
  g.withMembers (replaceOrAdd (fun old => old.user.id == m.user.id) m g.memberList)

/-- The guild without a member. -/
def removeMember (g : Guild) (userId : String) : Guild :=
  g.withMembers (g.memberList.filter fun m => m.user.id != userId)

/-- The guild with a role added or replaced. -/
def addRole (g : Guild) (r : Role) : Guild :=
  { g with roles := some (replaceOrAdd (fun old => old.id == r.id) r g.roleList) }

/-- The guild without a role. -/
def removeRole (g : Guild) (roleId : String) : Guild :=
  { g with roles := g.roles.map fun rs => rs.filter fun r => r.id != roleId }

/-- The guild with an emoji added or replaced. -/
def addEmoji (g : Guild) (e : Emoji) : Guild :=
  { g with emojis := some (replaceOrAdd (fun old => old.id == e.id) e g.emojiList) }

/-- The guild with a channel added or replaced. -/
def addChannel (g : Guild) (c : Channel) : Guild :=
  { g with channels := some (replaceOrAdd (fun old => old.id == c.id) c g.channelList) }

/-- The guild without a channel. -/
def removeChannel (g : Guild) (channelId : String) : Guild :=
  { g with channels := g.channels.map fun cs => cs.filter fun c => c.id != channelId }

/-- The guild with a presence added or updated. -/
def addPresence (g : Guild) (p : Presence) : Guild :=
  { g with
    presences := some (changeOrAdd (fun old => old.user.id == p.user.id) (·.updated p) p
      g.presenceList) }

end Guild

end GuildRelay
