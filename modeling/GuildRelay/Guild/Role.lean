import GuildRelay.Document.Decode
import GuildRelay.Permission.Basic
/-!
# Roles and emojis

What a guild record embeds beside its channels and members.
-/

namespace GuildRelay

/-- A role of a guild. -/
structure Role where
  id : String := ""
  name : String := ""
  color : UInt32 := 0
  position : Int32 := 0
  /-- The bits as they were announced; `permissionSet` keeps the known ones. -/
  permissions : UInt64 := 0
  managed : Bool := false
  mentionable : Bool := false
  hoist : Bool := false
deriving DecidableEq, Inhabited

namespace Role

/-- The permissions that a role grants. -/
def permissionSet (r : Role) : Permissions :=
  .ofBits r.permissions

/-- The fields of a role in declared order. -/
def fieldNames : List String :=
  ["id", "name", "color", "position", "permissions", "managed", "mentionable", "hoist"]

end Role

instance : Decode Role where
  decode m d := do
    let f ← d.record? m Role.fieldNames
    let id ← f.field m "id" ""
    let name ← f.field m "name" ""
    let color ← f.field m "color" 0
    let position ← f.field m "position" 0
    let permissions ← f.field m "permissions" 0
    let managed ← f.field m "managed" false
    let mentionable ← f.field m "mentionable" false
    let hoist ← f.field m "hoist" false
    return { id, name, color, position, permissions, managed, mentionable, hoist }

instance : Encode Role where
  encode r := .ofFields
    [("id", encode r.id), ("name", encode r.name), ("color", encode r.color),
     ("position", encode r.position), ("permissions", encode r.permissions),
     ("managed", encode r.managed), ("mentionable", encode r.mentionable),
     ("hoist", encode r.hoist)]

/-- A custom emoji of a guild. -/
structure Emoji where
  id : String := ""
  name : String := ""
  roles : List String := []
  managed : Bool := false
  requireColons : Bool := false
  animated : Bool := false
deriving DecidableEq, Inhabited

/-- The fields of an emoji in declared order. -/
def Emoji.fieldNames : List String :=
  ["id", "name", "roles", "managed", "require_colons", "animated"]

instance : Decode Emoji where
  decode m d := do
    let f ← d.record? m Emoji.fieldNames
    let id ← f.field m "id" ""
    let name ← f.field m "name" ""
    let roles ← f.field m "roles" []
    let managed ← f.field m "managed" false
    let requireColons ← f.field m "require_colons" false
    let animated ← f.field m "animated" false
    return { id, name, roles, managed, requireColons, animated }

instance : Encode Emoji where
  encode e := .ofFields
    [("id", encode e.id), ("name", encode e.name), ("roles", encode e.roles),
     ("managed", encode e.managed), ("require_colons", encode e.requireColons),
     ("animated", encode e.animated)]

end GuildRelay
