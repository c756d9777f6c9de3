import GuildRelay.Guild.Channel
import GuildRelay.Guild.Presence
import GuildRelay.Guild.Role
/-!
# Guilds

A `Guild` embeds its channels, roles, emojis, members, presences and voice states. An embedded list
is absent when an update leaves it out, which keeps the cached one, while an empty list replaces it.
-/

namespace GuildRelay

/-- A guild. -/
structure Guild where
  id : String := ""
  name : String := ""
  ownerId : String := ""
  memberCount : UInt64 := 0
  unavailable : Bool := false
  channels : Option (List Channel) := none
  roles : Option (List Role) := none
  emojis : Option (List Emoji) := none
  members : Option (List Member) := none
  presences : Option (List Presence) := none
  voiceStates : Option (List VoiceState) := none
deriving DecidableEq, Inhabited

namespace Guild

/-- The channels of a guild, none if they are absent. -/
def channelList (g : Guild) : List Channel := g.channels.getD []

/-- The roles of a guild, none if they are absent. -/
def roleList (g : Guild) : List Role := g.roles.getD []

/-- The emojis of a guild, none if they are absent. -/
def emojiList (g : Guild) : List Emoji := g.emojis.getD []

/-- The members of a guild, none if they are absent. -/
def memberList (g : Guild) : List Member := g.members.getD []

/-- The presences of a guild, none if they are absent. -/
def presenceList (g : Guild) : List Presence := g.presences.getD []

/-- The role that everyone holds: it has the id of the guild. -/
def everyoneRole? (g : Guild) : Option Role :=
  g.roleList.find? fun r => r.id == g.id

/-- A user is among the embedded members. -/
def hasMember (g : Guild) (userId : String) : Bool :=
  g.memberList.any fun m => m.user.id == userId

/-- The fields of a guild in declared order. -/
def fieldNames : List String :=
  ["id", "name", "owner_id", "member_count", "unavailable", "channels", "roles", "emojis",
   "members", "presences", "voice_states"]

end Guild

instance : Decode Guild where
  decode m d := do
    let f ← d.record? m Guild.fieldNames
    let id ← f.field m "id" ""
    let name ← f.field m "name" ""
    let ownerId ← f.field m "owner_id" ""
    let memberCount ← f.field m "member_count" 0
    let unavailable ← f.field m "unavailable" false
    let channels ← f.field m "channels" none
    let roles ← f.field m "roles" none
    let emojis ← f.field m "emojis" none
    let members ← f.field m "members" none
    let presences ← f.field m "presences" none
    let voiceStates ← f.field m "voice_states" none
    return { id, name, ownerId, memberCount, unavailable, channels, roles, emojis, members,
             presences, voiceStates }

instance : Encode Guild where
  encode g := .ofFields
    [("id", encode g.id), ("name", encode g.name), ("owner_id", encode g.ownerId),
     ("member_count", encode g.memberCount), ("unavailable", encode g.unavailable),
     ("channels", encode g.channels), ("roles", encode g.roles), ("emojis", encode g.emojis),
     ("members", encode g.members), ("presences", encode g.presences),
     ("voice_states", encode g.voiceStates)]

/-- An entry of a guild's ban list. -/
structure Ban where
  user : User := {}
  reason : Option String := none
deriving DecidableEq, Inhabited

/-- The fields of a ban in declared order. -/
def Ban.fieldNames : List String := ["user", "reason"]

instance : Decode Ban where
  decode m d := do
    let f ← d.record? m Ban.fieldNames
    let user ← f.field m "user" {}
    let reason ← f.field m "reason" none
    return { user, reason }

instance : Encode Ban where
  encode b := .ofFields [("user", encode b.user), ("reason", encode b.reason)]

end GuildRelay
