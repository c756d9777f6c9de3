/-!
# Keys of the shared cache

A `Key` says what is kept under it, and `Key.text` is its name in the store. All names start with
the namespace, so that several deployments can share one store.
-/

namespace GuildRelay

/-- What the cache keeps something under. -/
inductive Key where
  | guild (guildId : String)
  | member (guildId userId : String)
  | channel (channelId : String)
  | user (userId : String)
  | channelMessages (channelId : String)
  | allGuildIds
  | allUserIds
  | allChannelIds
  | guildUserIds (guildId : String)
  | guildBotIds (guildId : String)
  | guildBannedUserIds (guildId : String)
  | banInitializedGuildIds
  /-- The mark of an event that one consumer has claimed. -/
  | claim (kind digest source : String)
deriving DecidableEq, Repr

namespace Key

/-- The namespace where none is configured. -/
def defaultNamespace : String := "project-d"

/-- The last part of a key's name. -/
def localName : Key → String
  | guild guildId => "state:guild-" ++ guildId
  | member guildId userId => "state:guild-" ++ guildId ++ ":member-" ++ userId
  | channel channelId => "state:channel-" ++ channelId
  | user userId => "state:user-" ++ userId
  | channelMessages channelId => "state:channel-" ++ channelId ++ ":messages"
  | allGuildIds => "state:guild-ids"
  | allUserIds => "state:user-ids"
  | allChannelIds => "state:channel-ids"
  | guildUserIds guildId => "state:user-ids:" ++ guildId
  | guildBotIds guildId => "state:guild-" ++ guildId ++ ":bot-ids"
  | guildBannedUserIds guildId => "state:guild-" ++ guildId ++ ":banned-userids"
  | banInitializedGuildIds => "state:banned-userids-initialized-guild-ids"
  | claim kind digest source => "gateway:event-" ++ kind ++ "-" ++ digest ++ ":" ++ source

/-- The name of a key in the store. -/
def text (ns : String) (k : Key) : String :=
  ns ++ ":" ++ k.localName

end Key

end GuildRelay
