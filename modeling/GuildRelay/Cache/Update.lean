import GuildRelay.Cache.Lookup
import GuildRelay.Event.Basic
import GuildRelay.Guild.Merge
/-!
# Applying events

`Cache.apply` folds one event into the cache. Each handler reads the cached record, merges the event
into it and writes the whole record back; the first call that fails ends it. The result names the
guild whose ban list should be looked at in the background, if there is one.
-/

namespace GuildRelay.Cache

open GuildRelay.Action

/-! ## Guilds -/

/-- Writes a channel record. -/
def writeChannel (settings : CacheSettings) (c : Channel) : CacheAction Unit :=
  write settings (.channel c.id) c

/-- Writes the records of a member and of its user. -/
def writeMember (settings : CacheSettings) (guildId : String) (m : Member) : CacheAction Unit := do
  write settings (.member guildId m.user.id) m
  write settings (.user m.user.id) m.user

/-- Writes the channels and members that a guild embeds, and indexes them. -/
def writeChildren (settings : CacheSettings) (g : Guild) : CacheAction Unit := do
  g.channelList.forM (writeChannel settings)
  addIds .allChannelIds (g.channelList.map (·.id))
  g.memberList.forM (writeMember settings g.id)
  let userIds := g.memberList.map (·.user.id)
  addIds .allUserIds userIds
  addIds (.guildUserIds g.id) userIds

/-- Writes a guild record and indexes it. -/
def writeGuild (settings : CacheSettings) (g : Guild) : CacheAction Unit := do
  write settings (.guild g.id) g
  addIds .allGuildIds [g.id]

/-- Notes that a bot is in a guild. -/
def addBot (guildId botId : String) : CacheAction Unit :=
  if botId.isEmpty then pure () else addIds (.guildBotIds guildId) [botId]

/-- Takes in a guild of a snapshot, which replaces the cached one. -/
def resetGuild (settings : CacheSettings) (botId : String) (payload : Guild) :
    CacheAction Unit := do
  let g := payload.fillIds
  writeGuild settings g
  writeChildren settings g
  addBot g.id botId

/-- Takes in the snapshot that a connection starts with. -/
def applyReady (settings : CacheSettings) (botId : String) (r : Ready) : CacheAction Unit := do
  write settings (.user r.user.id) r.user
  r.guilds.forM (resetGuild settings botId)
  r.privateChannels.forM (writeChannel settings)
  addIds .allChannelIds (r.privateChannels.map (·.id))

/-- Takes in a new or changed guild. -/
def addGuild (settings : CacheSettings) (botId : String) (payload : Guild) :
    CacheAction Unit := do
  let g := payload.fillIds
  writeChildren settings g
  let cached ← found (guild g.id)
  writeGuild settings (g.carryOver cached)
  addBot g.id botId

/-- Drops a channel record from the cache and from the index. -/
def dropChannel (channelId : String) : CacheAction Unit := do
  drop (.channel channelId)
  removeId .allChannelIds channelId

/-- Drops a guild with everything that belongs to it. -/
def removeGuild (payload : Guild) : CacheAction Unit := do
  let cached ← found (guild payload.id)
  let channels := (cached.getD payload).channelList
  drop (.guild payload.id)
  removeId .allGuildIds payload.id
  channels.forM fun c => dropChannel c.id
  let userIds ← ids (.guildUserIds payload.id)
  userIds.forM fun userId => drop (.member payload.id userId)
  drop (.guildUserIds payload.id)
  drop (.guildBotIds payload.id)
  drop (.guildBannedUserIds payload.id)
  removeId .banInitializedGuildIds payload.id

/-! ## Members -/

/-- Takes in a new or changed member. -/
def addMember (settings : CacheSettings) (payload : Member) : CacheAction Unit := do
  let g ← guild payload.guildId
  let cached ← found (member payload.guildId payload.user.id)
  let m := payload.carryOver cached
  write settings (.guild g.id) (g.addMember m)
  writeMember settings g.id m
  addIds .allUserIds [m.user.id]
  addIds (.guildUserIds g.id) [m.user.id]

/-- A user is a member of one of the guilds other than `guildId`. -/
def isMemberElsewhere (guildId userId : String) : List String → CacheAction Bool
  | [] => pure false
  | other :: rest => do
    if other = guildId then isMemberElsewhere guildId userId rest
    else if ← isMember other userId then pure true
    else isMemberElsewhere guildId userId rest

/-- Drops a member, and the user too if no other guild has them. -/
def removeMember (settings : CacheSettings) (payload : Member) : CacheAction Unit := do
  let g ← guild payload.guildId
  let userId := payload.user.id
  drop (.member g.id userId)
  removeId (.guildUserIds g.id) userId
  let guildIds ← ids .allGuildIds
  if !(← isMemberElsewhere g.id userId guildIds) then
    drop (.user userId)
    removeId .allUserIds userId
  write settings (.guild g.id) (g.removeMember userId)

/-- Takes in a presence; whoever is not offline is a member. -/
def addPresence (settings : CacheSettings) (guildId : String) (p : Presence) :
    CacheAction Unit := do
  let g ← guild guildId
  write settings (.guild g.id) (g.addPresence p)
  if p.status = some .offline then return
  match ← found (member guildId p.user.id) with
  | some m => addMember settings (m.seen p)
  | none =>
    let cachedUser ← found (user p.user.id)
    addMember settings (p.newMember guildId cachedUser)

/-! ## Roles and emojis -/

/-- Takes in a new or changed role. -/
def addRole (settings : CacheSettings) (guildId : String) (r : Role) : CacheAction Unit := do
  let g ← guild guildId
  write settings (.guild g.id) (g.addRole r)

/-- Drops a role. -/
def removeRole (settings : CacheSettings) (guildId roleId : String) : CacheAction Unit := do
  let g ← guild guildId
  write settings (.guild g.id) (g.removeRole roleId)

/-- Takes in a new or changed emoji. -/
def addEmoji (settings : CacheSettings) (guildId : String) (e : Emoji) : CacheAction Unit := do
  let g ← guild guildId
  write settings (.guild g.id) (g.addEmoji e)

/-- A role with one of these permissions may let the bot read bans. -/
def grantsBanRead (r : Role) : Bool :=
  r.permissionSet.intersects (.ofList [.banMembers, .administrator])

/-! ## Channels and messages -/

/-- Takes in a new or changed channel. -/
def addChannel (settings : CacheSettings) (payload : Channel) : CacheAction Unit := do
  let cached ← found (channel payload.id)
  let c := payload.carryOver cached
  if !c.isPrivate then
    let g ← guild c.guildId
    write settings (.guild g.id) (g.addChannel c)
  writeChannel settings c
  addIds .allChannelIds [c.id]

/-- Drops a channel with its messages. -/
def removeChannel (settings : CacheSettings) (payload : Channel) : CacheAction Unit := do
  let cached ← channel payload.id
  if !cached.isPrivate then
    let g ← guild cached.guildId
    write settings (.guild g.id) (g.removeChannel payload.id)
  drop (.channel payload.id)
  drop (.channelMessages payload.id)
  removeId .allChannelIds payload.id

/-- Takes in when a message was last pinned. -/
def updatePins (settings : CacheSettings) (p : ChannelPins) : CacheAction Unit := do
  let c ← channel p.channelId
  writeChannel settings { c with lastPinTimestamp := p.lastPinTimestamp }

/-- The largest position that a range of a list may name. -/
def lastPosition : Nat := 9223372036854775807

/-- Keeps a message among the newest of its channel. -/
def addMessage (settings : CacheSettings) (m : Message) : CacheAction Unit := do
  if settings.maxChannelMessages = 0 then return
  ask (.channelMessages m.channelId) (.pushList [(encode m).json])
  let last := min (settings.maxChannelMessages - 1) lastPosition
  ask (.channelMessages m.channelId) (.trimList 0 last)

/-! ## Bans -/

/-- Notes a ban, if the bot may read bans. -/
def addBan (botId guildId userId : String) : CacheAction Unit := do
  if ← canReadBans botId guildId then addIds (.guildBannedUserIds guildId) [userId]

/-- Forgets a ban, if the bot may read bans. -/
def removeBan (botId guildId userId : String) : CacheAction Unit := do
  if ← canReadBans botId guildId then removeId (.guildBannedUserIds guildId) userId

/-! ## Events -/

/-- Folds an event that a bot received into the cache. -/
def update (settings : CacheSettings) (botId : String) : Event → CacheAction Unit
  | .ready r => applyReady settings botId r
  | .guildCreate g => addGuild settings botId g
  | .guildUpdate g => addGuild settings botId g
  | .guildDelete g => removeGuild g
  | .guildMemberAdd m => addMember settings m
  | .guildMemberUpdate m => addMember settings m
  | .guildMemberRemove m => removeMember settings m
  | .guildMembersChunk guildId members =>
    members.forM fun m => addMember settings { m with guildId }
  | .guildRoleCreate guildId r => addRole settings guildId r
  | .guildRoleUpdate guildId r => addRole settings guildId r
  | .guildRoleDelete guildId roleId => removeRole settings guildId roleId
  | .guildEmojisUpdate guildId emojis => emojis.forM (addEmoji settings guildId)
  | .guildBanAdd guildId u => addBan botId guildId u.id
  | .guildBanRemove guildId u => removeBan botId guildId u.id
  | .channelCreate c => addChannel settings c
  | .channelUpdate c => addChannel settings c
  | .channelDelete c => removeChannel settings c
  | .channelPinsUpdate p => updatePins settings p
  | .presenceUpdate guildId p => addPresence settings guildId p
  | .messageCreate m => addMessage settings m
  | .messageUpdate _ => pure ()
  | .messageDelete _ => pure ()
  | .messageReactionAdd _ => pure ()
  | .messageReactionRemove _ => pure ()
  | .messageReactionRemoveAll _ => pure ()

/-- The guild whose ban list the bot may be able to read only since an event, or no longer. -/
def bansToCheck : Event → Option String
  | .guildCreate g => some g.id
  | .guildUpdate g => some g.id
  | .guildRoleCreate guildId r => if grantsBanRead r then some guildId else none
  | .guildRoleUpdate guildId r => if grantsBanRead r then some guildId else none
  | .guildRoleDelete guildId _ => some guildId
  | _ => none

/-- Folds an event into the cache and tells whose ban list should be looked at. -/
def apply (settings : CacheSettings) (botId : String) (e : Event) :
    CacheAction (Option String) := do
  update settings botId e
  return bansToCheck e

end GuildRelay.Cache
