import GuildRelay.Document.Json.Printer
import GuildRelay.Document.Json.Reader
import GuildRelay.Digest.Sha256
import GuildRelay.Event.Basic
/-!
# Events on the wire

An event is a table with its kind under `t` and its payload under `d`, or the list of the two. A
payload that comes before its kind is kept aside until the kind is known, so it must be readable as
a whole; a presence is always read that way, because its fields stand beside the guild's id.
-/

namespace GuildRelay

/-! ## Payloads -/

instance : Decode Ready where
  decode m d := do
    let f ← d.record? m ["user", "session_id", "guilds", "private_channels"]
    let user ← f.field m "user" {}
    let sessionId ← f.field m "session_id" ""
    let guilds ← f.field m "guilds" []
    let privateChannels ← f.field m "private_channels" []
    return { user, sessionId, guilds, privateChannels }

instance : Encode Ready where
  encode r := .ofFields
    [("user", encode r.user), ("session_id", encode r.sessionId), ("guilds", encode r.guilds),
     ("private_channels", encode r.privateChannels)]

instance : Decode ChannelPins where
  decode m d := do
    let f ← d.record? m ["channel_id", "guild_id", "last_pin_timestamp"]
    let channelId ← f.field m "channel_id" ""
    let guildId ← f.field m "guild_id" ""
    let lastPinTimestamp ← f.field m "last_pin_timestamp" none
    return { channelId, guildId, lastPinTimestamp }

instance : Encode ChannelPins where
  encode p := .ofFields
    [("channel_id", encode p.channelId), ("guild_id", encode p.guildId),
     ("last_pin_timestamp", encode p.lastPinTimestamp)]

instance : Decode MessageRef where
  decode m d := do
    let f ← d.record? m ["id", "channel_id", "guild_id"]
    let id ← f.field m "id" ""
    let channelId ← f.field m "channel_id" ""
    let guildId ← f.field m "guild_id" ""
    return { id, channelId, guildId }

instance : Encode MessageRef where
  encode a := .ofFields
    [("id", encode a.id), ("channel_id", encode a.channelId), ("guild_id", encode a.guildId)]

instance : Decode Reaction where
  decode m d := do
    let f ← d.record? m ["user_id", "message_id", "channel_id", "guild_id", "emoji"]
    let userId ← f.field m "user_id" ""
    let messageId ← f.field m "message_id" ""
    let channelId ← f.field m "channel_id" ""
    let guildId ← f.field m "guild_id" ""
    let emoji ← f.field m "emoji" {}
    return { userId, messageId, channelId, guildId, emoji }

instance : Encode Reaction where
  encode r := .ofFields
    [("user_id", encode r.userId), ("message_id", encode r.messageId),
     ("channel_id", encode r.channelId), ("guild_id", encode r.guildId),
     ("emoji", encode r.emoji)]

namespace Event

/-- The fields of a payload that has to be a table. -/
def tableFields? (m : Dialect) (names : List String) : Document → Option Fields
  | .table members => Document.record? m names (.table members)
  | _ => none

/-- A payload that is a list of members of a guild. -/
def readChunk? (m : Dialect) (d : Document) : Option Event := do
  let f ← tableFields? m ["guild_id", "members"] d
  return guildMembersChunk (← f.required m "guild_id") (← f.field m "members" [])

/-- A payload with a guild and a role. -/
def readRole? (make : String → Role → Event) (m : Dialect) (d : Document) : Option Event := do
  let f ← tableFields? m ["guild_id", "role"] d
  return make (← f.required m "guild_id") (← f.required m "role")

/-- A payload with a guild and the id of a role. -/
def readRoleDelete? (m : Dialect) (d : Document) : Option Event := do
  let f ← tableFields? m ["guild_id", "role_id"] d
  return guildRoleDelete (← f.required m "guild_id") (← f.required m "role_id")

/-- A payload that is a list of emojis of a guild. -/
def readEmojis? (m : Dialect) (d : Document) : Option Event := do
  let f ← tableFields? m ["guild_id", "emojis"] d
  return guildEmojisUpdate (← f.required m "guild_id") (← f.field m "emojis" [])

/-- A payload with a guild and a user who is banned or no longer banned. -/
def readBan? (make : String → User → Event) (m : Dialect) (d : Document) : Option Event := do
  let f ← tableFields? m ["guild_id", "user"] d
  return make (← f.required m "guild_id") (← f.required m "user")

/-- A payload with the fields of a presence beside the guild. -/
def readPresence? (m : Dialect) : Document → Option Event
  | .table members => do
    let fields ← namedMembers members
    let own := fields.filter fun f => f.1 == "guild_id"
    let rest := fields.filter fun f => f.1 != "guild_id"
    if 1 < own.length || !(rest.all fun f => f.2.bufferable 2) then none
    else
      let guildId ← Fields.field m own "guild_id" ""
      let presence ← decode Dialect.buffered (Document.ofFields rest)
      return presenceUpdate guildId presence
  | _ => none

/-- The event of a kind with a payload. -/
def ofPayload? (m : Dialect) (d : Document) : EventKind → Option Event
  | .ready => (decode m d).map ready
  | .guildCreate => (decode m d).map guildCreate
  | .guildUpdate => (decode m d).map guildUpdate
  | .guildDelete => (decode m d).map guildDelete
  | .guildMemberAdd => (decode m d).map guildMemberAdd
  | .guildMemberUpdate => (decode m d).map guildMemberUpdate
  | .guildMemberRemove => (decode m d).map guildMemberRemove
  | .guildMembersChunk => readChunk? m d
  | .guildRoleCreate => readRole? guildRoleCreate m d
  | .guildRoleUpdate => readRole? guildRoleUpdate m d
  | .guildRoleDelete => readRoleDelete? m d
  | .guildEmojisUpdate => readEmojis? m d
  | .guildBanAdd => readBan? guildBanAdd m d
  | .guildBanRemove => readBan? guildBanRemove m d
  | .channelCreate => (decode m d).map channelCreate
  | .channelUpdate => (decode m d).map channelUpdate
  | .channelDelete => (decode m d).map channelDelete
  | .channelPinsUpdate => (decode m d).map channelPinsUpdate
  | .presenceUpdate => readPresence? m d
  | .messageCreate => (decode m d).map messageCreate
  | .messageUpdate => (decode m d).map messageUpdate
  | .messageDelete => (decode m d).map messageDelete
  | .messageReactionAdd => (decode m d).map messageReactionAdd
  | .messageReactionRemove => (decode m d).map messageReactionRemove
  | .messageReactionRemoveAll => (decode m d).map messageReactionRemoveAll

/-- The payload of an event. -/
def payload : Event → Document
  | ready r => encode r
  | guildCreate g => encode g
  | guildUpdate g => encode g
  | guildDelete g => encode g
  | guildMemberAdd m => encode m
  | guildMemberUpdate m => encode m
  | guildMemberRemove m => encode m
  | guildMembersChunk guildId members =>
    .ofFields [("guild_id", encode guildId), ("members", encode members)]
  | guildRoleCreate guildId r => .ofFields [("guild_id", encode guildId), ("role", encode r)]
  | guildRoleUpdate guildId r => .ofFields [("guild_id", encode guildId), ("role", encode r)]
  | guildRoleDelete guildId roleId =>
    .ofFields [("guild_id", encode guildId), ("role_id", encode roleId)]
  | guildEmojisUpdate guildId emojis =>
    .ofFields [("guild_id", encode guildId), ("emojis", encode emojis)]
  | guildBanAdd guildId user => .ofFields [("guild_id", encode guildId), ("user", encode user)]
  | guildBanRemove guildId user => .ofFields [("guild_id", encode guildId), ("user", encode user)]
  | channelCreate c => encode c
  | channelUpdate c => encode c
  | channelDelete c => encode c
  | channelPinsUpdate p => encode p
  | presenceUpdate guildId p => .ofFields (("guild_id", encode guildId) :: p.fields)
  | messageCreate m => encode m
  | messageUpdate m => encode m
  | messageDelete m => encode m
  | messageReactionAdd r => encode r
  | messageReactionRemove r => encode r
  | messageReactionRemoveAll r => encode r

/-! ## Events -/

/-- The event of a document. -/
def ofDocument? : Document → Option Event
  | .table members => do
    let fields ← namedMembers members
    match fields.filter fun f => f.1 == "t" || f.1 == "d" with
    | [("t", t), ("d", d)] => do
      let kind ← decode Dialect.json t
      ofPayload? .json d kind
    | [("d", d), ("t", t)] => do
      let kind ← decode Dialect.json t
      if d.bufferable 1 then ofPayload? .buffered d kind else none
    | _ => none
  | .list [t, d] => do
    let kind ← decode Dialect.json t
    ofPayload? .json d kind
  | _ => none

/-- The event that a text in JSON holds. -/
def ofJson? (text : String) : Option Event :=
  (Document.ofJson? text).bind ofDocument?

/-- The document of an event. -/
def toDocument (e : Event) : Document :=
  .ofFields [("t", encode e.kind), ("d", e.payload)]

/-- The text of an event in JSON. -/
def toJson (e : Event) : String :=
  e.toDocument.json

/-- The digest that stands for an event: that of its text. -/
def digest (e : Event) : String :=
  Digest.sha256Hex e.toJson

end Event

end GuildRelay
