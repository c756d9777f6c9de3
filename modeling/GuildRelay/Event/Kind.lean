import GuildRelay.Document.Decode
/-!
# Kinds of events

The kinds of gateway events, with the names they have on the wire. `EventKind.ofName?_name` says
that the name determines the kind.
-/

namespace GuildRelay

/-- What happened. -/
inductive EventKind where
  | ready
  | guildCreate
  | guildUpdate
  | guildDelete
  | guildMemberAdd
  | guildMemberUpdate
  | guildMemberRemove
  | guildMembersChunk
  | guildRoleCreate
  | guildRoleUpdate
  | guildRoleDelete
  | guildEmojisUpdate
  | guildBanAdd
  | guildBanRemove
  | channelCreate
  | channelUpdate
  | channelDelete
  | channelPinsUpdate
  | presenceUpdate
  | messageCreate
  | messageUpdate
  | messageDelete
  | messageReactionAdd
  | messageReactionRemove
  | messageReactionRemoveAll
deriving DecidableEq, Inhabited

namespace EventKind

/-- The name of a kind on the wire. -/
def name : EventKind → String
  | ready => "READY"
  | guildCreate => "GUILD_CREATE"
  | guildUpdate => "GUILD_UPDATE"
  | guildDelete => "GUILD_DELETE"
  | guildMemberAdd => "GUILD_MEMBER_ADD"
  | guildMemberUpdate => "GUILD_MEMBER_UPDATE"
  | guildMemberRemove => "GUILD_MEMBER_REMOVE"
  | guildMembersChunk => "GUILD_MEMBERS_CHUNK"
  | guildRoleCreate => "GUILD_ROLE_CREATE"
  | guildRoleUpdate => "GUILD_ROLE_UPDATE"
  | guildRoleDelete => "GUILD_ROLE_DELETE"
  | guildEmojisUpdate => "GUILD_EMOJIS_UPDATE"
  | guildBanAdd => "GUILD_BAN_ADD"
  | guildBanRemove => "GUILD_BAN_REMOVE"
  | channelCreate => "CHANNEL_CREATE"
  | channelUpdate => "CHANNEL_UPDATE"
  | channelDelete => "CHANNEL_DELETE"
  | channelPinsUpdate => "CHANNEL_PINS_UPDATE"
  | presenceUpdate => "PRESENCE_UPDATE"
  | messageCreate => "MESSAGE_CREATE"
  | messageUpdate => "MESSAGE_UPDATE"
  | messageDelete => "MESSAGE_DELETE"
  | messageReactionAdd => "MESSAGE_REACTION_ADD"
  | messageReactionRemove => "MESSAGE_REACTION_REMOVE"
  | messageReactionRemoveAll => "MESSAGE_REACTION_REMOVE_ALL"

/-- Every kind. -/
def all : List EventKind :=
  [ready, guildCreate, guildUpdate, guildDelete, guildMemberAdd, guildMemberUpdate,
   guildMemberRemove, guildMembersChunk, guildRoleCreate, guildRoleUpdate, guildRoleDelete,
   guildEmojisUpdate, guildBanAdd, guildBanRemove, channelCreate, channelUpdate, channelDelete,
   channelPinsUpdate, presenceUpdate, messageCreate, messageUpdate, messageDelete,
   messageReactionAdd, messageReactionRemove, messageReactionRemoveAll]

/-- The kind with a name. -/
def ofName? (s : String) : Option EventKind :=
  all.find? fun kind => kind.name == s

theorem ofName?_name (k : EventKind) : ofName? k.name = some k := by
  cases k <;> decide

/-- Kinds whose events carry a whole message, with author and content. -/
def isMessage (k : EventKind) : Bool :=
  k == messageCreate || k == messageUpdate

end EventKind

instance : Decode EventKind where
  decode m d := (d.name? m).bind EventKind.ofName?

instance : Encode EventKind where
  encode k := .ofText k.name

instance : LawfulCodec EventKind where
  decode_encode _ k := EventKind.ofName?_name k

end GuildRelay
