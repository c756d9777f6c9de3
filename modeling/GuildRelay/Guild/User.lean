import GuildRelay.Document.Decode
import GuildRelay.Time.Timestamp
/-!
# Users and members

A `User` is known across guilds, and a `Member` is a user within one guild. Absent fields take
their defaults when a record is read, so a partial record is read as a record with blank fields.
-/

namespace GuildRelay

/-- A user of the platform, independent of any guild. -/
structure User where
  id : String := ""
  username : String := ""
  discriminator : String := ""
  avatar : String := ""
  bot : Bool := false
deriving DecidableEq, Inhabited

/-- The fields of a user in declared order. -/
def User.fieldNames : List String := ["id", "username", "discriminator", "avatar", "bot"]

instance : Decode User where
  decode m d := do
    let f ← d.record? m User.fieldNames
    let id ← f.field m "id" ""
    let username ← f.field m "username" ""
    let discriminator ← f.field m "discriminator" ""
    let avatar ← f.field m "avatar" ""
    let bot ← f.field m "bot" false
    return { id, username, discriminator, avatar, bot }

instance : Encode User where
  encode u := .ofFields
    [("id", encode u.id), ("username", encode u.username),
     ("discriminator", encode u.discriminator), ("avatar", encode u.avatar), ("bot", encode u.bot)]

instance : LawfulCodec User where
  decode_encode m u := by
    simp [decode, encode, User.fieldNames, Document.record?_ofFields, Fields.field,
      List.lookup_cons]

/-- A user's identity within one guild. -/
structure Member where
  guildId : String := ""
  user : User := {}
  nick : String := ""
  roles : List String := []
  /-- Partial updates leave it out, and then the cached record's value stays. -/
  joinedAt : Option Timestamp := none
deriving DecidableEq, Inhabited

/-- The fields of a member in declared order. -/
def Member.fieldNames : List String := ["guild_id", "user", "nick", "roles", "joined_at"]

instance : Decode Member where
  decode m d := do
    let f ← d.record? m Member.fieldNames
    let guildId ← f.field m "guild_id" ""
    let user ← f.field m "user" {}
    let nick ← f.field m "nick" ""
    let roles ← f.field m "roles" []
    let joinedAt ← f.field m "joined_at" none
    return { guildId, user, nick, roles, joinedAt }

instance : Encode Member where
  encode a := .ofFields
    [("guild_id", encode a.guildId), ("user", encode a.user), ("nick", encode a.nick),
     ("roles", encode a.roles), ("joined_at", encode a.joinedAt)]

end GuildRelay
