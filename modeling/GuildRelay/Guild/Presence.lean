import GuildRelay.Guild.User
/-!
# Presences and voice states

Whether a user is online in a guild, what they are doing and which voice channel they are in.
-/

namespace GuildRelay

/-- Whether a user is online. -/
inductive Status where
  | online
  | idle
  | doNotDisturb
  | invisible
  | offline
deriving DecidableEq, Inhabited

namespace Status

/-- The name of a status. -/
def name : Status → String
  | online => "online"
  | idle => "idle"
  | doNotDisturb => "dnd"
  | invisible => "invisible"
  | offline => "offline"

/-- Every status. -/
def all : List Status :=
  [online, idle, doNotDisturb, invisible, offline]

/-- The status with a name. -/
def ofName? (s : String) : Option Status :=
  all.find? fun status => status.name == s

theorem ofName?_name (s : Status) : ofName? s.name = some s := by
  cases s <;> decide

end Status

instance : Decode Status where
  decode m d := (d.name? m).bind Status.ofName?

instance : Encode Status where
  encode s := .ofText s.name

instance : NeverNull Status where
  encode_ne_null _ := by simp [encode, Document.ofText]

instance : LawfulCodec Status where
  decode_encode _ s := Status.ofName?_name s

/-- What a user is doing. -/
structure Activity where
  name : String := ""
  kind : UInt8 := 0
  url : Option String := none
deriving DecidableEq, Inhabited

/-- The fields of an activity in declared order. -/
def Activity.fieldNames : List String := ["name", "type", "url"]

instance : Decode Activity where
  decode m d := do
    let f ← d.record? m Activity.fieldNames
    let name ← f.field m "name" ""
    let kind ← f.field m "type" 0
    let url ← f.field m "url" none
    return { name, kind, url }

instance : Encode Activity where
  encode a := .ofFields [("name", encode a.name), ("type", encode a.kind), ("url", encode a.url)]

instance : NeverNull Activity where
  encode_ne_null _ := by simp [encode, Document.ofFields]

/-- A user's status within one guild. Updates are partial: what they leave out stays. -/
structure Presence where
  user : User := {}
  status : Option Status := none
  nick : String := ""
  roles : List String := []
  game : Option Activity := none
deriving DecidableEq, Inhabited

namespace Presence

/-- The fields of a presence in declared order. -/
def fieldNames : List String := ["user", "status", "nick", "roles", "game"]

/-- The written fields of a presence. -/
def fields (p : Presence) : Fields :=
  [("user", encode p.user), ("status", encode p.status), ("nick", encode p.nick),
   ("roles", encode p.roles), ("game", encode p.game)]

end Presence

instance : Decode Presence where
  decode m d := do
    let f ← d.record? m Presence.fieldNames
    let user ← f.field m "user" {}
    let status ← f.field m "status" none
    let nick ← f.field m "nick" ""
    let roles ← f.field m "roles" []
    let game ← f.field m "game" none
    return { user, status, nick, roles, game }

instance : Encode Presence where
  encode p := .ofFields p.fields

/-- A user's connection to a voice channel. -/
structure VoiceState where
  userId : String := ""
  channelId : String := ""
  sessionId : String := ""
  mute : Bool := false
  deaf : Bool := false
deriving DecidableEq, Inhabited

/-- The fields of a voice state in declared order. -/
def VoiceState.fieldNames : List String := ["user_id", "channel_id", "session_id", "mute", "deaf"]

instance : Decode VoiceState where
  decode m d := do
    let f ← d.record? m VoiceState.fieldNames
    let userId ← f.field m "user_id" ""
    let channelId ← f.field m "channel_id" ""
    let sessionId ← f.field m "session_id" ""
    let mute ← f.field m "mute" false
    let deaf ← f.field m "deaf" false
    return { userId, channelId, sessionId, mute, deaf }

instance : Encode VoiceState where
  encode v := .ofFields
    [("user_id", encode v.userId), ("channel_id", encode v.channelId),
     ("session_id", encode v.sessionId), ("mute", encode v.mute), ("deaf", encode v.deaf)]

end GuildRelay
