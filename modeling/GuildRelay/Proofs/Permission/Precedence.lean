import GuildRelay.Permission.Resolve

/-!
# Which overwrite decides

What a member may do is computed by unions and intersections of sets, one layer of overwrites after
the other. Bit by bit this is a question of rank: the overwrite for the member goes before those for
the held roles, and these before the one for everyone, and within a rank an overwrite that allows
goes before one that denies (`Channel.ruling`). Where none of them mentions a permission, the roles
decide (`Guild.Grants`).

`Permissions.IsSetOf` says which bits a set has, those included that stand for no permission.
-/

namespace GuildRelay

namespace Permission

/-- The bit of the permission is set in a word. -/
def IsIn (p : Permission) (bits : UInt64) : Prop :=
  bits.toBitVec.getLsbD p.index = true

instance (p : Permission) (bits : UInt64) : Decidable (p.IsIn bits) :=
  inferInstanceAs (Decidable (_ = _))

theorem index_injective {p q : Permission} (h : p.index = q.index) : p = q := by
  cases p <;> cases q <;> first | rfl | cases h

end Permission

/-! ## Sets and their bits -/

namespace Permissions

/-- The bits of the set are those of the permissions with a property. -/
def IsSetOf (s : Permissions) (P : Permission → Prop) : Prop :=
  ∀ n, s.bits.toBitVec.getLsbD n = true ↔ ∃ p : Permission, p.index = n ∧ P p

/-- Every bit of the set is that of a permission. -/
def IsKnown (s : Permissions) : Prop :=
  ∀ n, s.bits.toBitVec.getLsbD n = true → ∃ p : Permission, p.index = n

variable {s t : Permissions}

theorem IsKnown.isSetOf (hs : s.IsKnown) {P : Permission → Prop} (h : ∀ p, s.has p = true ↔ P p) :
    s.IsSetOf P := by
  intro n
  constructor
  · intro hn
    obtain ⟨p, rfl⟩ := hs n hn
    exact ⟨p, rfl, (h p).mp hn⟩
  · rintro ⟨p, rfl, hp⟩
    exact (h p).mpr hp

theorem IsSetOf.has_iff {P : Permission → Prop} (h : s.IsSetOf P) (p : Permission) :
    s.has p = true ↔ P p := by
  constructor
  · intro hp
    obtain ⟨q, hq, hPq⟩ := (h p.index).mp hp
    exact Permission.index_injective hq ▸ hPq
  · intro hp
    exact (h p.index).mpr ⟨p, rfl, hp⟩

theorem isKnown_all : all.IsKnown := by
  have hbits : ∀ n : Fin 64, all.bits.toBitVec.getLsbD n = true →
      ∃ p ∈ Permission.all, p.index = n := by
    decide
  intro n hn
  obtain ⟨p, -, hp⟩ := hbits ⟨n, BitVec.lt_of_getLsbD hn⟩ hn
  exact ⟨p, hp⟩

theorem IsKnown.inter (hs : s.IsKnown) (t : Permissions) : (s.inter t).IsKnown := by
  intro n hn
  simp only [Permissions.inter, UInt64.toBitVec_and, BitVec.getLsbD_and, Bool.and_eq_true] at hn
  exact hs n hn.1

theorem IsKnown.union (hs : s.IsKnown) (ht : t.IsKnown) : (s.union t).IsKnown := by
  intro n hn
  simp only [Permissions.union, UInt64.toBitVec_or, BitVec.getLsbD_or, Bool.or_eq_true] at hn
  rcases hn with hn | hn
  · exact hs n hn
  · exact ht n hn

theorem isKnown_ofBits (bits : UInt64) : (ofBits bits).IsKnown := by
  intro n hn
  simp only [ofBits, UInt64.toBitVec_and, BitVec.getLsbD_and, Bool.and_eq_true] at hn
  exact isKnown_all n hn.2

theorem isKnown_none : none.IsKnown := by
  intro n hn
  simp [none] at hn

theorem isKnown_unions {sets : List Permissions} (h : ∀ s ∈ sets, s.IsKnown) :
    (unions sets).IsKnown := by
  refine List.foldlRecOn sets union isKnown_none fun s hs t ht => ?_
  exact hs.union (h t ht)

theorem isKnown_allChannel : allChannel.IsKnown := by
  have hinter : allChannel = all.inter allChannel := by decide
  rw [hinter]
  exact isKnown_all.inter allChannel

/-! ## Permissions of computed sets -/

theorem has_ofBits (bits : UInt64) (p : Permission) : (ofBits bits).has p = true ↔ p.IsIn bits := by
  rw [mem_ofBits]
  exact Iff.rfl

theorem has_foldl_union (sets : List Permissions) (s : Permissions) (p : Permission) :
    (sets.foldl union s).has p = true ↔ s.has p = true ∨ ∃ t ∈ sets, t.has p = true := by
  induction sets generalizing s with
  | nil => simp
  | cons t sets ih => simp [ih, mem_union, or_assoc]

theorem has_unions_map {α : Type} (f : α → Permissions) (as : List α) (p : Permission) :
    (unions (as.map f)).has p = true ↔ ∃ a ∈ as, (f a).has p = true := by
  rw [unions, has_foldl_union, not_mem_none]
  simp only [Bool.false_eq_true, false_or, List.mem_map]
  constructor
  · rintro ⟨_, ⟨a, ha, rfl⟩, hp⟩
    exact ⟨a, ha, hp⟩
  · rintro ⟨a, ha, hp⟩
    exact ⟨f a, ⟨a, ha, rfl⟩, hp⟩

theorem has_overwrite (s denied allowed : Permissions) (p : Permission) :
    (s.overwrite denied allowed).has p = true
      ↔ allowed.has p = true ∨ (denied.has p = false ∧ s.has p = true) := by
  rw [overwrite, mem_union, mem_inter, mem_compl]
  cases s.has p <;> cases denied.has p <;> cases allowed.has p <;> decide

theorem isKnown_overwrite (hs : s.IsKnown) (denied : Permissions) {allowed : Permissions}
    (hallowed : allowed.IsKnown) : (s.overwrite denied allowed).IsKnown :=
  (hs.inter _).union hallowed

end Permissions

/-! ## What overwrites say -/

/-- What overwrites of one rank say of a permission, if anything. -/
def PermissionOverwrite.ruling (os : List PermissionOverwrite) (p : Permission) : Option Bool :=
  if ∃ o ∈ os, p.IsIn o.allow then some true
  else if ∃ o ∈ os, p.IsIn o.deny then some false
  else none

/-- Where a ruling says nothing, it is as before. -/
def Settles (ruling : Option Bool) (before : Prop) : Prop :=
  ruling = some true ∨ (ruling = none ∧ before)

theorem settles_none {before : Prop} : Settles none before ↔ before := by
  simp [Settles]

theorem settles_or (first second : Option Bool) (before : Prop) :
    Settles (first.or second) before ↔ Settles first (Settles second before) := by
  cases first with
  | none => rw [settles_none, Option.none_or]
  | some allowed => simp [Settles]

namespace Permissions

open PermissionOverwrite

variable {s : Permissions} {p : Permission}

theorem has_overwrite_unions (s : Permissions) (os : List PermissionOverwrite) (p : Permission) :
    (s.overwrite (unions (os.map (·.denied))) (unions (os.map (·.allowed)))).has p = true
      ↔ Settles (ruling os p) (s.has p = true) := by
  have hallowed : (unions (os.map (·.allowed))).has p = true ↔ ∃ o ∈ os, p.IsIn o.allow := by
    rw [has_unions_map]
    exact exists_congr fun o => and_congr_right' (has_ofBits o.allow p)
  have hdenied : (unions (os.map (·.denied))).has p = true ↔ ∃ o ∈ os, p.IsIn o.deny := by
    rw [has_unions_map]
    exact exists_congr fun o => and_congr_right' (has_ofBits o.deny p)
  rw [has_overwrite, hallowed, ← Bool.not_eq_true, hdenied, ruling]
  by_cases hallow : ∃ o ∈ os, p.IsIn o.allow
  · simp [hallow, Settles]
  · by_cases hdeny : ∃ o ∈ os, p.IsIn o.deny
    · simp [hallow, hdeny, Settles]
    · simp [hallow, hdeny, Settles]

theorem has_overwriteBy (s : Permissions) (o : Option PermissionOverwrite) (p : Permission) :
    (s.overwriteBy o).has p = true ↔ Settles (ruling o.toList p) (s.has p = true) := by
  cases o with
  | none => simp [overwriteBy, ruling, Settles]
  | some o =>
      rw [Option.toList_some, ← has_overwrite_unions]
      simp only [overwriteBy, has_overwrite, ← Bool.not_eq_true, has_unions_map,
        List.mem_singleton, exists_eq_left]

theorem isKnown_overwriteBy (hs : s.IsKnown) (o : Option PermissionOverwrite) :
    (s.overwriteBy o).IsKnown := by
  cases o with
  | none => exact hs
  | some o => exact isKnown_overwrite hs _ (isKnown_ofBits o.allow)

end Permissions

/-! ## What a member may do -/

namespace Guild

variable {g : Guild} {c : Channel} {m : Member} {p : Permission}

/-- The member has the role, and the guild has it too. -/
def holds (g : Guild) (m : Member) (roleId : String) : Bool :=
  m.roles.contains roleId && (g.roleList.map (·.id)).contains roleId

/-- The first role with the id of the guild grants the permission, or one that the member has. -/
def Grants (g : Guild) (m : Member) (p : Permission) : Prop :=
  (∃ r, g.roleList.find? (fun r => r.id == g.id) = some r ∧ p.IsIn r.permissions)
    ∨ ∃ r ∈ g.roleList, r.id ∈ m.roles ∧ p.IsIn r.permissions

/-- What the roles come to: an administrator may do everything. -/
def Allows (g : Guild) (m : Member) (p : Permission) : Prop :=
  g.Grants m p ∨ g.Grants m .administrator

/-- What the overwrites of a channel say of a permission: those for the member first, then those for
roles that the member holds, then the one for everyone. -/
def ruling (g : Guild) (c : Channel) (m : Member) (p : Permission) : Option Bool :=
  let own := c.overwrites.find? fun o => o.kind == .member && o.id == m.user.id
  let held := c.overwrites.filter fun o => o.kind == .role && o.id != g.id && g.holds m o.id
  let everyone := c.overwrites.find? fun o => o.id == g.id
  (PermissionOverwrite.ruling own.toList p).or
    ((PermissionOverwrite.ruling held p).or (PermissionOverwrite.ruling everyone.toList p))

/-- The overwrites allow the permission, or they say nothing of it and the roles allow it. -/
def AllowsIn (g : Guild) (c : Channel) (m : Member) (p : Permission) : Prop :=
  Settles (g.ruling c m p) (g.Allows m p)

end Guild

namespace Permissions

variable {g : Guild} {c : Channel} {m : Member} {p : Permission}

theorem isKnown_everyonePermissions (g : Guild) : g.everyonePermissions.IsKnown := by
  unfold Guild.everyonePermissions
  split
  · exact isKnown_ofBits _
  · exact isKnown_none

theorem has_everyonePermissions (g : Guild) (p : Permission) :
    g.everyonePermissions.has p = true
      ↔ ∃ r, g.roleList.find? (fun r => r.id == g.id) = some r ∧ p.IsIn r.permissions := by
  unfold Guild.everyonePermissions Guild.everyoneRole?
  split
  · next r heq => simp [heq, Role.permissionSet, has_ofBits]
  · next heq => simp [heq, not_mem_none]

theorem isKnown_heldRoles (g : Guild) (m : Member) :
    ∀ s ∈ (g.heldRoles m).map (·.2), s.IsKnown := by
  intro s hs
  rw [Guild.heldRoles, List.map_map] at hs
  obtain ⟨r, -, rfl⟩ := List.mem_map.mp hs
  exact isKnown_ofBits r.permissions

theorem has_heldRoles (g : Guild) (m : Member) (p : Permission) :
    (unions ((g.heldRoles m).map (·.2))).has p = true
      ↔ ∃ r ∈ g.roleList, r.id ∈ m.roles ∧ p.IsIn r.permissions := by
  rw [Guild.heldRoles, List.map_map, has_unions_map]
  refine exists_congr fun r => ?_
  rw [List.mem_filter, List.contains_iff_mem, and_assoc]
  exact and_congr_right' (and_congr_right' (has_ofBits r.permissions p))

/-- The permissions of the roles, before administrators are looked at. -/
theorem has_roles (g : Guild) (m : Member) (p : Permission) :
    (g.everyonePermissions.union (unions ((g.heldRoles m).map (·.2)))).has p = true
      ↔ g.Grants m p := by
  rw [mem_union, Bool.or_eq_true, has_everyonePermissions, has_heldRoles]
  exact Iff.rfl

theorem isKnown_ofRoles (g : Guild) (m : Member) :
    (ofRoles g.everyonePermissions (g.heldRoles m)).IsKnown := by
  have hroles := (isKnown_everyonePermissions g).union (isKnown_unions (isKnown_heldRoles g m))
  unfold ofRoles
  dsimp only
  split
  · exact hroles.union isKnown_all
  · exact hroles

theorem has_ofRoles (g : Guild) (m : Member) (p : Permission) :
    (ofRoles g.everyonePermissions (g.heldRoles m)).has p = true ↔ g.Allows m p := by
  unfold ofRoles Guild.Allows
  dsimp only
  split
  · next hadmin =>
    rw [has_roles] at hadmin
    simp [mem_union, mem_all, hadmin]
  · next hadmin =>
    rw [has_roles] at hadmin
    rw [has_roles, or_iff_left hadmin]

theorem contains_heldRoles (g : Guild) (m : Member) (roleId : String) :
    ((g.heldRoles m).map (·.1)).contains roleId = g.holds m roleId := by
  rw [Bool.eq_iff_iff, Guild.heldRoles, List.map_map, Guild.holds, Bool.and_eq_true]
  simp only [List.contains_iff_mem, List.mem_map, List.mem_filter, Function.comp_apply]
  constructor
  · rintro ⟨r, ⟨hr, hhas⟩, rfl⟩
    exact ⟨hhas, r, hr, rfl⟩
  · rintro ⟨hhas, r, hr, rfl⟩
    exact ⟨r, ⟨hr, hhas⟩, rfl⟩

/-- The three layers of overwrites, before administrators are given what a channel can grant. -/
def layered (s : Permissions) (os : List PermissionOverwrite) (roles : List (String × Permissions))
    (everyoneId userId : String) : Permissions :=
  let held := heldOverwrites os roles everyoneId
  ((s.overwriteBy (os.find? fun o => o.id == everyoneId)).overwrite
      (unions (held.map (·.denied))) (unions (held.map (·.allowed)))).overwriteBy
    (os.find? fun o => o.kind == .member && o.id == userId)

theorem inChannel_eq (s : Permissions) (os : List PermissionOverwrite)
    (roles : List (String × Permissions)) (everyoneId userId : String) :
    s.inChannel os roles everyoneId userId
      = if (s.layered os roles everyoneId userId).has .administrator then
          (s.layered os roles everyoneId userId).union allChannel
        else s.layered os roles everyoneId userId := rfl

theorem isKnown_layered {s : Permissions} (hs : s.IsKnown) (os : List PermissionOverwrite)
    (roles : List (String × Permissions)) (everyoneId userId : String) :
    (s.layered os roles everyoneId userId).IsKnown := by
  have hallowed : ∀ t ∈ (heldOverwrites os roles everyoneId).map (·.allowed), t.IsKnown := by
    intro t ht
    obtain ⟨o, -, rfl⟩ := List.mem_map.mp ht
    exact isKnown_ofBits o.allow
  have heveryone := isKnown_overwriteBy hs (os.find? fun o => o.id == everyoneId)
  exact isKnown_overwriteBy (isKnown_overwrite heveryone _ (isKnown_unions hallowed)) _

theorem isKnown_inChannel {s : Permissions} (hs : s.IsKnown) (os : List PermissionOverwrite)
    (roles : List (String × Permissions)) (everyoneId userId : String) :
    (s.inChannel os roles everyoneId userId).IsKnown := by
  have hlayered := isKnown_layered hs os roles everyoneId userId
  rw [inChannel_eq]
  split
  · exact hlayered.union isKnown_allChannel
  · exact hlayered

/-- Each layer settles what it mentions, the last one first. -/
theorem has_layered (g : Guild) (c : Channel) (m : Member) (p : Permission) :
    (layered (ofRoles g.everyonePermissions (g.heldRoles m)) c.overwrites (g.heldRoles m) g.id
        m.user.id).has p = true ↔ g.AllowsIn c m p := by
  unfold layered
  rw [has_overwriteBy, has_overwrite_unions, has_overwriteBy, has_ofRoles, Guild.AllowsIn,
    Guild.ruling, settles_or, settles_or]
  simp only [heldOverwrites, contains_heldRoles]

theorem has_inChannel (g : Guild) (c : Channel) (m : Member) (p : Permission) :
    (inChannel (ofRoles g.everyonePermissions (g.heldRoles m)) c.overwrites (g.heldRoles m) g.id
        m.user.id).has p = true
      ↔ g.AllowsIn c m p ∨ (allChannel.has p = true ∧ g.AllowsIn c m .administrator) := by
  rw [inChannel_eq]
  split
  · next hadmin =>
    rw [has_layered] at hadmin
    rw [mem_union, Bool.or_eq_true, has_layered, and_iff_left hadmin]
  · next hadmin =>
    rw [has_layered] at hadmin
    rw [has_layered, or_iff_left fun h => hadmin h.2]

end Permissions

namespace Guild

variable {g : Guild} {m : Member}

theorem memberPermissions_of_owner (h : m.user.id = g.ownerId) :
    g.memberPermissions m = .all := by
  rw [memberPermissions, Permissions.effective, if_pos (beq_iff_eq.mpr h)]

theorem channelPermissions_of_owner (h : m.user.id = g.ownerId) (c : Channel) :
    g.channelPermissions c m = .all := by
  rw [channelPermissions, Permissions.effective, if_pos (beq_iff_eq.mpr h)]

/-- Whoever is not the owner may do in the guild what the roles allow. -/
theorem isSetOf_memberPermissions (h : m.user.id ≠ g.ownerId) :
    (g.memberPermissions m).IsSetOf (g.Allows m) := by
  rw [memberPermissions, Permissions.effective, if_neg (mt beq_iff_eq.mp h)]
  exact (Permissions.isKnown_ofRoles g m).isSetOf (Permissions.has_ofRoles g m)

/-- Whoever is not the owner may do in a channel what the overwrites and the roles allow, and as an
administrator all that a channel can grant. -/
theorem isSetOf_channelPermissions (h : m.user.id ≠ g.ownerId) (c : Channel) :
    (g.channelPermissions c m).IsSetOf fun p =>
      g.AllowsIn c m p ∨ (Permissions.allChannel.has p = true ∧ g.AllowsIn c m .administrator) := by
  rw [channelPermissions, Permissions.effective, if_neg (mt beq_iff_eq.mp h)]
  exact (Permissions.isKnown_inChannel (Permissions.isKnown_ofRoles g m) _ _ _ _).isSetOf
    (Permissions.has_inChannel g c m)

end Guild

end GuildRelay
