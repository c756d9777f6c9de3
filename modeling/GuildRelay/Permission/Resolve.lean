import GuildRelay.Guild.Basic
/-!
# Effective permissions

`Permissions.effective` resolves what a user may do in a guild or in one of its channels. Within a
guild the permissions of everyone and of the held roles add up. In a channel the overwrites for
everyone, for the held roles and for the user follow in this order; each denies before it grants.
-/

namespace GuildRelay

namespace Permissions

/-- A set after permissions were taken away and then granted. -/
def overwrite (s denied allowed : Permissions) : Permissions :=
  (s.inter denied.compl).union allowed

/-- The union of a list of sets. -/
def unions (sets : List Permissions) : Permissions :=
  sets.foldl union none

/-- The set after an overwrite, if there is one. -/
def overwriteBy (s : Permissions) : Option PermissionOverwrite → Permissions
  | some o => s.overwrite o.denied o.allowed
  | Option.none => s

/-- What everyone and the held roles grant together; an administrator may do everything. -/
def ofRoles (everyone : Permissions) (roles : List (String × Permissions)) : Permissions :=
  let base := everyone.union (unions (roles.map (·.2)))
  if base.has .administrator then base.union all else base

/-- The overwrites that are for a held role. -/
def heldOverwrites (overwrites : List PermissionOverwrite) (roles : List (String × Permissions))
    (everyoneId : String) : List PermissionOverwrite :=
  overwrites.filter fun o =>
    o.kind == .role && o.id != everyoneId && (roles.map (·.1)).contains o.id

/-- The set after the overwrites of a channel. Whoever is still an administrator then may do
everything that a channel can grant. -/
def inChannel (s : Permissions) (overwrites : List PermissionOverwrite)
    (roles : List (String × Permissions)) (everyoneId userId : String) : Permissions :=
  let held := heldOverwrites overwrites roles everyoneId
  let s := s.overwriteBy (overwrites.find? fun o => o.id == everyoneId)
  let s := s.overwrite (unions (held.map (·.denied))) (unions (held.map (·.allowed)))
  let s := s.overwriteBy (overwrites.find? fun o => o.kind == .member && o.id == userId)
  if s.has .administrator then s.union allChannel else s

/-- What a user may do. Without overwrites the answer is for the guild, with them for a channel; the
owner of a guild may do everything. -/
def effective (everyone : Permissions) (roles : List (String × Permissions))
    (overwrites : Option (List PermissionOverwrite)) (everyoneId userId : String)
    (isOwner : Bool) : Permissions :=
  if isOwner then all
  else
    match overwrites with
    | Option.none => ofRoles everyone roles
    | some list => (ofRoles everyone roles).inChannel list roles everyoneId userId

end Permissions

namespace Guild

/-- What the role that everyone holds grants. -/
def everyonePermissions (g : Guild) : Permissions :=
  match g.everyoneRole? with
  | some r => r.permissionSet
  | none => .none

/-- The roles of the guild that a member holds, with their permissions. -/
def heldRoles (g : Guild) (m : Member) : List (String × Permissions) :=
  (g.roleList.filter fun r => m.roles.contains r.id).map fun r => (r.id, r.permissionSet)

/-- What a member may do in the guild. -/
def memberPermissions (g : Guild) (m : Member) : Permissions :=
  .effective g.everyonePermissions (g.heldRoles m) none g.id m.user.id (m.user.id == g.ownerId)

/-- What a member may do in a channel of the guild. -/
def channelPermissions (g : Guild) (c : Channel) (m : Member) : Permissions :=
  .effective g.everyonePermissions (g.heldRoles m) (some c.overwrites) g.id m.user.id
    (m.user.id == g.ownerId)

end Guild

end GuildRelay
