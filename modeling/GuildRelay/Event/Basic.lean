import GuildRelay.Event.Kind
import GuildRelay.Guild.Basic
/-!
# Events

A gateway event tells of one change in a guild, a channel or a message. This module has the
payloads that are not records of a guild, the type `Event` with one constructor per kind, and what
can be asked of any event.
-/

namespace GuildRelay

/-- What a connection starts with: the bot's own user, its guilds and private channels. -/
structure Ready where
  user : User := {}
  sessionId : String := ""
  guilds : List Guild := []
  privateChannels : List Channel := []
deriving DecidableEq, Inhabited

/-- When a message was last pinned in a channel. -/
structure ChannelPins where
  channelId : String := ""
  guildId : String := ""
  lastPinTimestamp : Option Timestamp := none
deriving DecidableEq, Inhabited

/-- Where a message was. -/
structure MessageRef where
  id : String := ""
  channelId : String := ""
  guildId : String := ""
deriving DecidableEq, Inhabited

/-- An emoji that a user put on a message or took from it. -/
structure Reaction where
  userId : String := ""
  messageId : String := ""
  channelId : String := ""
  guildId : String := ""
  emoji : Emoji := {}
deriving DecidableEq, Inhabited

/-- A gateway event. -/
inductive Event where
  | ready (r : Ready)
  | guildCreate (g : Guild)
  | guildUpdate (g : Guild)
  | guildDelete (g : Guild)
  | guildMemberAdd (m : Member)
  | guildMemberUpdate (m : Member)
  | guildMemberRemove (m : Member)
  | guildMembersChunk (guildId : String) (members : List Member)
  | guildRoleCreate (guildId : String) (r : Role)
  | guildRoleUpdate (guildId : String) (r : Role)
  | guildRoleDelete (guildId roleId : String)
  | guildEmojisUpdate (guildId : String) (emojis : List Emoji)
  | guildBanAdd (guildId : String) (user : User)
  | guildBanRemove (guildId : String) (user : User)
  | channelCreate (c : Channel)
  | channelUpdate (c : Channel)
  | channelDelete (c : Channel)
  | channelPinsUpdate (p : ChannelPins)
  | presenceUpdate (guildId : String) (p : Presence)
  | messageCreate (m : Message)
  | messageUpdate (m : Message)
  | messageDelete (m : MessageRef)
  | messageReactionAdd (r : Reaction)
  | messageReactionRemove (r : Reaction)
  | messageReactionRemoveAll (r : Reaction)
deriving DecidableEq, Inhabited

namespace Event

/-- The kind of an event. -/
def kind : Event → EventKind
  | ready _ => .ready
  | guildCreate _ => .guildCreate
  | guildUpdate _ => .guildUpdate
  | guildDelete _ => .guildDelete
  | guildMemberAdd _ => .guildMemberAdd
  | guildMemberUpdate _ => .guildMemberUpdate
  | guildMemberRemove _ => .guildMemberRemove
  | guildMembersChunk _ _ => .guildMembersChunk
  | guildRoleCreate _ _ => .guildRoleCreate
  | guildRoleUpdate _ _ => .guildRoleUpdate
  | guildRoleDelete _ _ => .guildRoleDelete
  | guildEmojisUpdate _ _ => .guildEmojisUpdate
  | guildBanAdd _ _ => .guildBanAdd
  | guildBanRemove _ _ => .guildBanRemove
  | channelCreate _ => .channelCreate
  | channelUpdate _ => .channelUpdate
  | channelDelete _ => .channelDelete
  | channelPinsUpdate _ => .channelPinsUpdate
  | presenceUpdate _ _ => .presenceUpdate
  | messageCreate _ => .messageCreate
  | messageUpdate _ => .messageUpdate
  | messageDelete _ => .messageDelete
  | messageReactionAdd _ => .messageReactionAdd
  | messageReactionRemove _ => .messageReactionRemove
  | messageReactionRemoveAll _ => .messageReactionRemoveAll

/-- The message of an event that carries a whole one. -/
def message? : Event → Option Message
  | messageCreate m => some m
  | messageUpdate m => some m
  | _ => none

theorem message?_isSome (e : Event) : e.message?.isSome = e.kind.isMessage := by
  cases e <;> rfl

/-- The guild that an event names, blank if it names none. -/
def guildIdField : Event → String
  | ready _ => ""
  | guildCreate g => g.id
  | guildUpdate g => g.id
  | guildDelete g => g.id
  | guildMemberAdd m => m.guildId
  | guildMemberUpdate m => m.guildId
  | guildMemberRemove m => m.guildId
  | guildMembersChunk guildId _ => guildId
  | guildRoleCreate guildId _ => guildId
  | guildRoleUpdate guildId _ => guildId
  | guildRoleDelete guildId _ => guildId
  | guildEmojisUpdate guildId _ => guildId
  | guildBanAdd guildId _ => guildId
  | guildBanRemove guildId _ => guildId
  | channelCreate c => c.guildId
  | channelUpdate c => c.guildId
  | channelDelete c => c.guildId
  | channelPinsUpdate p => p.guildId
  | presenceUpdate guildId _ => guildId
  | messageCreate m => m.guildId
  | messageUpdate m => m.guildId
  | messageDelete m => m.guildId
  | messageReactionAdd r => r.guildId
  | messageReactionRemove r => r.guildId
  | messageReactionRemoveAll r => r.guildId

/-- The guild that an event belongs to. -/
def guildId? (e : Event) : Option String :=
  if e.guildIdField.isEmpty then none else some e.guildIdField

end Event

end GuildRelay
