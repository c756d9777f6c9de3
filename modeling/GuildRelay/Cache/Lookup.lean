import GuildRelay.Cache.Record
import GuildRelay.Permission.Resolve
/-!
# Looking records up

What can be asked of the shared cache. None of these actions writes anything.
-/

namespace GuildRelay.Cache

open GuildRelay.Action

/-! ## Records -/

/-- A cached guild. -/
def guild (guildId : String) : CacheAction Guild :=
  read (.guild guildId)

/-- A cached channel. -/
def channel (channelId : String) : CacheAction Channel :=
  read (.channel channelId)

/-- A cached member of a guild. -/
def member (guildId userId : String) : CacheAction Member :=
  read (.member guildId userId)

/-- A cached user. -/
def user (userId : String) : CacheAction User :=
  read (.user userId)

/-- A role of a cached guild. -/
def role (guildId roleId : String) : CacheAction Role := do
  let g ← guild guildId
  ofOption (g.roleList.find? fun r => r.id == roleId)

/-- An emoji of a cached guild. -/
def emoji (guildId emojiId : String) : CacheAction Emoji := do
  let g ← guild guildId
  ofOption (g.emojiList.find? fun e => e.id == emojiId)

/-- The presence of a user in a cached guild. -/
def presence (guildId userId : String) : CacheAction Presence := do
  let g ← guild guildId
  ofOption (g.presenceList.find? fun p => p.user.id == userId)

/-! ## Indices -/

/-- The members of an index, in order. -/
def ids (key : Key) : CacheAction (List String) :=
  ask key .setMembers

/-- The bot of a guild, the first if there are several. -/
def botOfGuild (guildId : String) : CacheAction String := do
  let bots ← ids (.guildBotIds guildId)
  ofOption bots.head?

/-- A user is a member of a guild. -/
def isMember (guildId userId : String) : CacheAction Bool :=
  ask (.guildUserIds guildId) (.isSetMember userId)

/-! ## Permissions -/

/-- What a user may do in a channel. -/
def userChannelPermissions (userId channelId : String) : CacheAction Permissions := do
  let c ← channel channelId
  let g ← guild c.guildId
  if userId = g.ownerId then return .all
  let m ← member g.id userId
  return g.channelPermissions c m

/-- What a user may do in a guild. -/
def userPermissions (userId guildId : String) : CacheAction Permissions := do
  let g ← guild guildId
  if userId = g.ownerId then return .all
  let m ← member g.id userId
  return g.memberPermissions m

/-- A bot may read the ban list of a guild. Where the guild or the bot is not cached it may not. -/
def canReadBans (botId guildId : String) : CacheAction Bool := do
  match ← found (userPermissions botId guildId) with
  | some permissions => return permissions.contains .banRead
  | none => return false

/-! ## Messages -/

/-- The cached messages of a channel, the newest first. -/
def channelMessages (channelId : String) : CacheAction (List Message) := do
  let texts ← ask (.channelMessages channelId) (.rangeList 0 (-1))
  ExceptT.mk (pure (texts.mapM readText))

end GuildRelay.Cache
