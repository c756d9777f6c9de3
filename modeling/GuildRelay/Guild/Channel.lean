import GuildRelay.Guild.User
import GuildRelay.Permission.Basic
/-!
# Channels and messages

A `Channel` belongs to a guild or is a private conversation. It may hold permission overwrites,
which grant or deny permissions to a role or to one member.
-/

namespace GuildRelay

/-! ## Kinds of channels -/

/-- What a channel is for. -/
inductive ChannelKind where
  | guildText
  | directMessage
  | guildVoice
  | groupMessage
  | guildCategory
deriving DecidableEq, Inhabited

namespace ChannelKind

/-- The number that stands for the kind in documents. -/
def code : ChannelKind → UInt8
  | guildText => 0
  | directMessage => 1
  | guildVoice => 2
  | groupMessage => 3
  | guildCategory => 4

/-- Every kind. -/
def all : List ChannelKind :=
  [guildText, directMessage, guildVoice, groupMessage, guildCategory]

/-- The kind with a number. -/
def ofCode? (n : UInt8) : Option ChannelKind :=
  all.find? fun kind => kind.code == n

theorem ofCode?_code (k : ChannelKind) : ofCode? k.code = some k := by
  cases k <;> decide

/-- What is reported for a number that stands for no kind. -/
def unknownCode (n : UInt8) : String :=
  "unknown channel type " ++ toString n.toNat

/-- Private channels belong to no guild. -/
def isPrivate (k : ChannelKind) : Bool :=
  k == directMessage || k == groupMessage

end ChannelKind

instance : Decode ChannelKind where
  decode m d := (decode m d).bind ChannelKind.ofCode?

instance : Encode ChannelKind where
  encode k := encode k.code

instance : LawfulCodec ChannelKind where
  decode_encode m k := by
    have hcode : (decode m (encode k) : Option UInt8) = some k.code :=
      LawfulCodec.decode_encode m k.code
    exact (congrArg (Option.bind · ChannelKind.ofCode?) hcode).trans (ChannelKind.ofCode?_code k)

/-! ## Permission overwrites -/

/-- Whom an overwrite is for. -/
inductive OverwriteKind where
  | role
  | member
deriving DecidableEq, Inhabited

namespace OverwriteKind

/-- The name of a kind of overwrite. -/
def name : OverwriteKind → String
  | role => "role"
  | member => "member"

/-- The kind of overwrite with a name. -/
def ofName? (s : String) : Option OverwriteKind :=
  [role, member].find? fun kind => kind.name == s

theorem ofName?_name (k : OverwriteKind) : ofName? k.name = some k := by
  cases k <;> decide

end OverwriteKind

instance : Decode OverwriteKind where
  decode m d := (d.name? m).bind OverwriteKind.ofName?

instance : Encode OverwriteKind where
  encode k := .ofText k.name

instance : LawfulCodec OverwriteKind where
  decode_encode _ k := OverwriteKind.ofName?_name k

/-- Permissions that a channel grants and denies to a role, to everyone or to one member. -/
structure PermissionOverwrite where
  id : String := ""
  kind : OverwriteKind := .role
  allow : UInt64 := 0
  deny : UInt64 := 0
deriving DecidableEq, Inhabited

namespace PermissionOverwrite

/-- The permissions that the overwrite grants. -/
def allowed (o : PermissionOverwrite) : Permissions :=
  .ofBits o.allow

/-- The permissions that the overwrite takes away. -/
def denied (o : PermissionOverwrite) : Permissions :=
  .ofBits o.deny

/-- The fields of an overwrite in declared order. -/
def fieldNames : List String := ["id", "type", "allow", "deny"]

end PermissionOverwrite

instance : Decode PermissionOverwrite where
  decode m d := do
    let f ← d.record? m PermissionOverwrite.fieldNames
    let id ← f.field m "id" ""
    let kind ← f.field m "type" OverwriteKind.role
    let allow ← f.field m "allow" 0
    let deny ← f.field m "deny" 0
    return { id, kind, allow, deny }

instance : Encode PermissionOverwrite where
  encode o := .ofFields
    [("id", encode o.id), ("type", encode o.kind), ("allow", encode o.allow),
     ("deny", encode o.deny)]

/-! ## Messages -/

/-- A message in a channel. -/
structure Message where
  id : String := ""
  channelId : String := ""
  guildId : String := ""
  author : User := {}
  content : String := ""
  timestamp : Option Timestamp := none
deriving DecidableEq, Inhabited

/-- The fields of a message in declared order. -/
def Message.fieldNames : List String :=
  ["id", "channel_id", "guild_id", "author", "content", "timestamp"]

instance : Decode Message where
  decode m d := do
    let f ← d.record? m Message.fieldNames
    let id ← f.field m "id" ""
    let channelId ← f.field m "channel_id" ""
    let guildId ← f.field m "guild_id" ""
    let author ← f.field m "author" {}
    let content ← f.field m "content" ""
    let timestamp ← f.field m "timestamp" none
    return { id, channelId, guildId, author, content, timestamp }

instance : Encode Message where
  encode a := .ofFields
    [("id", encode a.id), ("channel_id", encode a.channelId), ("guild_id", encode a.guildId),
     ("author", encode a.author), ("content", encode a.content),
     ("timestamp", encode a.timestamp)]

/-! ## Channels -/

/-- A channel of a guild or a private conversation. -/
structure Channel where
  id : String := ""
  /-- Blank for private channels. -/
  guildId : String := ""
  kind : ChannelKind := .guildText
  name : String := ""
  topic : String := ""
  position : Int32 := 0
  /-- Absent when an update leaves them out, which keeps the cached ones. -/
  permissionOverwrites : Option (List PermissionOverwrite) := none
  messages : Option (List Message) := none
  lastPinTimestamp : Option Timestamp := none
deriving DecidableEq, Inhabited

namespace Channel

/-- The overwrites of a channel, none if they are absent. -/
def overwrites (c : Channel) : List PermissionOverwrite :=
  c.permissionOverwrites.getD []

/-- The channel belongs to no guild. -/
def isPrivate (c : Channel) : Bool :=
  c.kind.isPrivate

/-- The fields of a channel in declared order. -/
def fieldNames : List String :=
  ["id", "guild_id", "type", "name", "topic", "position", "permission_overwrites", "messages",
   "last_pin_timestamp"]

end Channel

instance : Decode Channel where
  decode m d := do
    let f ← d.record? m Channel.fieldNames
    let id ← f.field m "id" ""
    let guildId ← f.field m "guild_id" ""
    let kind ← f.field m "type" ChannelKind.guildText
    let name ← f.field m "name" ""
    let topic ← f.field m "topic" ""
    let position ← f.field m "position" 0
    let permissionOverwrites ← f.field m "permission_overwrites" none
    let messages ← f.field m "messages" none
    let lastPinTimestamp ← f.field m "last_pin_timestamp" none
    return { id, guildId, kind, name, topic, position, permissionOverwrites, messages,
             lastPinTimestamp }

instance : Encode Channel where
  encode c := .ofFields
    [("id", encode c.id), ("guild_id", encode c.guildId), ("type", encode c.kind),
     ("name", encode c.name), ("topic", encode c.topic), ("position", encode c.position),
     ("permission_overwrites", encode c.permissionOverwrites), ("messages", encode c.messages),
     ("last_pin_timestamp", encode c.lastPinTimestamp)]

end GuildRelay
