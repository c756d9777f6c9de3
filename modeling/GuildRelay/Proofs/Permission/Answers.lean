import GuildRelay.Proofs.Cache.BanCheck
import GuildRelay.Proofs.Cache.History
import GuildRelay.Proofs.Cache.Outcome
import GuildRelay.Proofs.Permission.Precedence
/-!
# What the cache answers about permissions

A question about permissions reads up to three records, one call after the other. Reading changes no
value, so that the answer is computed from records that are all there at once (`Host.lookUp`,
`Host.answer_userPermissions`, `Host.answer_userChannelPermissions`). The member is looked up only
after the guild, whose owner may do everything without being a member.
-/

namespace GuildRelay

namespace Host

open GuildRelay.Action

variable {α : Type} {ns : String} {h : Host}

/-- What a read of a key finds. -/
def lookUp [Decode α] (h : Host) (ns : String) (k : Key) : Except CacheError α :=
  match h.value ns k with
  | some text => Cache.readText text
  | none => .error .notFound

theorem lookUp_of_record [Decode α] {k : Key} {a : α} (hrecord : h.record ns k = some a) :
    h.lookUp ns k = .ok a := by
  obtain ⟨text, hvalue, hread⟩ := Option.bind_eq_some_iff.mp hrecord
  have hfound : Cache.readText text = .ok a := by
    cases hfound : (Cache.readText text : Except CacheError α) with
    | error e => rw [hfound] at hread; cases hread
    | ok b => rw [hfound] at hread; cases hread; rfl
  rw [lookUp, hvalue]
  exact hfound

theorem run_call_get (hf : ∀ n, h.faults n = none) (k : Key)
    (next : Except CacheError (Option String) → Program Key α) :
    ((Program.call k .get next).mapKeys (Key.text ns)).run backend h
      = ((next (.ok (h.value ns k))).mapKeys (Key.text ns)).run backend
          (h.call (k.text ns) .get).2 := by
  have hreply : (h.call (k.text ns) .get).1 = .ok (h.value ns k) := reply_call hf _ _
  rw [← hreply]
  rfl

/-- Reading a record finds what is there. -/
theorem runOn_read [Decode α] (ns : String) (hf : ∀ n, h.faults n = none) (k : Key) :
    ((Cache.read k : CacheAction α).mapKeys (Key.text ns)).runOn backend h
      = (h.lookUp ns k, (h.call (k.text ns) .get).2) := by
  show ((ExceptT.run (Cache.read k : CacheAction α)).mapKeys (Key.text ns)).run backend h = _
  rw [Cache.run_read, run_call_get hf, lookUp]
  cases h.value ns k <;> rfl

/-- Reading a record and going on is going on with what is found. -/
theorem runOn_read_bind {β : Type} [Decode α] (ns : String) (hf : ∀ n, h.faults n = none) (k : Key)
    (f : α → CacheAction β) :
    ∃ h' : Host, (∀ n, h'.faults n = none) ∧ h'.value ns = h.value ns
      ∧ ((((Cache.read k >>= f : CacheAction β).mapKeys (Key.text ns)).runOn backend h).1
        = (h.lookUp ns k).bind fun a => (((f a).mapKeys (Key.text ns)).runOn backend h').1) := by
  refine ⟨(h.call (k.text ns) .get).2, faults_call hf _ _, value_call_of_isRead hf rfl, ?_⟩
  rw [runOn_bind, runOn_read ns hf k]
  cases (h.lookUp ns k : Except CacheError α) <;> rfl

theorem lookUp_congr [Decode α] {h' : Host} (hvalue : h'.value ns = h.value ns) (k : Key) :
    (h'.lookUp ns k : Except CacheError α) = h.lookUp ns k := by
  rw [lookUp, hvalue, lookUp]

end Host

namespace Cache

/-- Looks up what a user may do, after the guild has been found. -/
def permissionsIn (userId : String) (g : Guild) (compute : Member → Permissions) :
    CacheAction Permissions := do
  if userId = g.ownerId then return .all
  let m ← member g.id userId
  return compute m

end Cache

namespace Host

open GuildRelay.Action

variable {ns : String} {h h' : Host}

/-- The owner of a guild may do everything; whoever else is found among its members may do what is
computed from their record. -/
def permissionsIn (h : Host) (ns userId : String) (g : Guild) (compute : Member → Permissions) :
    Except CacheError Permissions :=
  if userId = g.ownerId then .ok .all
  else (h.lookUp ns (.member g.id userId)).map compute

theorem permissionsIn_congr (hvalue : h'.value ns = h.value ns) (userId : String) (g : Guild)
    (compute : Member → Permissions) :
    h'.permissionsIn ns userId g compute = h.permissionsIn ns userId g compute := by
  rw [permissionsIn, lookUp_congr hvalue, permissionsIn]

theorem runOn_permissionsIn (hf : ∀ n, h.faults n = none) (userId : String) (g : Guild)
    (compute : Member → Permissions) :
    (((Cache.permissionsIn userId g compute).mapKeys (Key.text ns)).runOn backend h).1
      = h.permissionsIn ns userId g compute := by
  unfold Cache.permissionsIn permissionsIn
  split
  · rfl
  · obtain ⟨h', -, -, hmember⟩ := runOn_read_bind ns hf (.member g.id userId)
      fun m : Member => (pure (compute m) : CacheAction Permissions)
    refine hmember.trans ?_
    cases (h.lookUp ns (.member g.id userId) : Except CacheError Member) <;> rfl

end Host

namespace World

open GuildRelay.Action Host

variable {w : World} {ns : String}

theorem answer_userPermissions (hf : ∀ n, w.host.faults n = none) (userId guildId : String) :
    w.answer ns (.userPermissions userId guildId)
      = (w.host.lookUp ns (.guild guildId)).bind fun g =>
          w.host.permissionsIn ns userId g g.memberPermissions := by
  obtain ⟨h, hf', hvalue, hguild⟩ := runOn_read_bind ns hf (.guild guildId)
    fun g : Guild => Cache.permissionsIn userId g g.memberPermissions
  refine hguild.trans (congrArg _ (funext fun g => ?_))
  rw [runOn_permissionsIn hf', permissionsIn_congr hvalue]

theorem answer_userChannelPermissions (hf : ∀ n, w.host.faults n = none)
    (userId channelId : String) :
    w.answer ns (.userChannelPermissions userId channelId)
      = (w.host.lookUp ns (.channel channelId)).bind fun c : Channel =>
          (w.host.lookUp ns (.guild c.guildId)).bind fun g =>
            w.host.permissionsIn ns userId g (g.channelPermissions c) := by
  obtain ⟨h, hf', hvalue, hchannel⟩ := runOn_read_bind ns hf (.channel channelId)
    fun c : Channel => Cache.guild c.guildId >>= fun g =>
      Cache.permissionsIn userId g (g.channelPermissions c)
  refine hchannel.trans (congrArg _ (funext fun c => ?_))
  obtain ⟨h', hf'', hvalue', hguild⟩ := runOn_read_bind ns hf' (.guild c.guildId)
    fun g : Guild => Cache.permissionsIn userId g (g.channelPermissions c)
  refine hguild.trans ?_
  rw [lookUp_congr hvalue]
  refine congrArg _ (funext fun g => ?_)
  rw [runOn_permissionsIn hf'', permissionsIn_congr (hvalue'.trans hvalue)]

/-- What anybody may do is decided permission by permission. An owner may do everything. For others
the guild goes by what the roles allow. In a channel the overwrites go first, by their rank, and
whoever is an administrator after that may do all that a channel can grant. The cache answers
accordingly from the records that it has; for an owner it needs no record of the member. -/
theorem permissions_by_precedence (hf : ∀ n, w.host.faults n = none) :
    (∀ (g : Guild) (c : Channel) (m : Member),
      (m.user.id = g.ownerId → g.memberPermissions m = .all ∧ g.channelPermissions c m = .all)
      ∧ (m.user.id ≠ g.ownerId → (g.memberPermissions m).IsSetOf (g.Allows m)
        ∧ (g.channelPermissions c m).IsSetOf fun p => g.AllowsIn c m p
          ∨ (Permissions.allChannel.has p = true ∧ g.AllowsIn c m .administrator)))
    ∧ (∀ (userId guildId : String) (g : Guild), w.host.record ns (.guild guildId) = some g →
      (userId = g.ownerId → w.answer ns (.userPermissions userId guildId) = .ok .all)
      ∧ ∀ m : Member, userId ≠ g.ownerId → w.host.record ns (.member g.id userId) = some m →
        w.answer ns (.userPermissions userId guildId) = .ok (g.memberPermissions m))
    ∧ ∀ (userId channelId : String) (c : Channel) (g : Guild),
      w.host.record ns (.channel channelId) = some c →
      w.host.record ns (.guild c.guildId) = some g →
      (userId = g.ownerId → w.answer ns (.userChannelPermissions userId channelId) = .ok .all)
      ∧ ∀ m : Member, userId ≠ g.ownerId → w.host.record ns (.member g.id userId) = some m →
        w.answer ns (.userChannelPermissions userId channelId)
          = .ok (g.channelPermissions c m) := by
  have hmember : ∀ {userId : String} {g : Guild} {m : Member} (compute : Member → Permissions),
      userId ≠ g.ownerId → w.host.record ns (.member g.id userId) = some m →
      w.host.permissionsIn ns userId g compute = .ok (compute m) := by
    intro userId g m compute hother hm
    rw [permissionsIn, if_neg hother, lookUp_of_record hm]
    rfl
  refine ⟨fun g c m => ⟨fun howner => ?_, fun hother => ?_⟩, fun userId guildId g hg => ?_,
    fun userId channelId c g hc hg => ?_⟩
  · exact ⟨Guild.memberPermissions_of_owner howner, Guild.channelPermissions_of_owner howner c⟩
  · exact ⟨Guild.isSetOf_memberPermissions hother, Guild.isSetOf_channelPermissions hother c⟩
  · have hanswer : w.answer ns (.userPermissions userId guildId)
        = w.host.permissionsIn ns userId g g.memberPermissions := by
      rw [answer_userPermissions hf, lookUp_of_record hg]
      rfl
    rw [hanswer]
    exact ⟨fun howner => if_pos howner, fun m hother hm => hmember _ hother hm⟩
  · have hanswer : w.answer ns (.userChannelPermissions userId channelId)
        = w.host.permissionsIn ns userId g (g.channelPermissions c) := by
      rw [answer_userChannelPermissions hf, lookUp_of_record hc]
      show (w.host.lookUp ns (.guild c.guildId)).bind _ = _
      rw [lookUp_of_record hg]
      rfl
    rw [hanswer]
    exact ⟨fun howner => if_pos howner, fun m hother hm => hmember _ hother hm⟩

/-- A guild in which everyone may send messages and helpers may manage them, with a channel where
only helpers may send messages and one of them may not manage any. -/
def sampleStaff : Guild where
  id := "1"
  ownerId := "9"
  roles := some [{ id := "1", permissions := 0xC00 }, { id := "7", permissions := 0x2000 }]
  members := some [{ user := { id := "3" }, roles := ["7"] }]
  channels := some [{
    id := "2"
    permissionOverwrites := some [{ id := "1", deny := 0x800 }, { id := "7", allow := 0x800 },
      { id := "3", kind := .member, deny := 0x2000 }] }]

/-- The owner, who is no member, may do everything, and the helper what their rank says. -/
theorem sampleStaff_permissions :
    let w := ({ host := {} } : World).after "relay" {} "5" (.guildCreate sampleStaff)
    w.answer "relay" (.userPermissions "9" "1") = .ok .all
    ∧ w.answer "relay" (.userPermissions "3" "1") = .ok ⟨0x2C00⟩
    ∧ w.answer "relay" (.userChannelPermissions "3" "2") = .ok ⟨0xC00⟩ := by
  intro w
  have hnamed : (Event.guildCreate sampleStaff).IsWellNamed := by
    refine ⟨by decide, ?_, ?_⟩ <;> decide
  have hstart : ({ host := {} } : World).KeepsTables "relay" {} {} := .start rfl fun _ => rfl
  have hkeeps := hstart.after rfl "5" hnamed
  have hf : ∀ n, w.host.faults n = none := hkeeps.shows.faultless
  have hguild : PlainId "1" := by decide
  have hchannel : PlainId "2" := by decide
  have hg : w.host.record "relay" (.guild "1") = some sampleStaff.fillIds :=
    (hkeeps.record rfl (Tables.Slot.guild "1") hguild).trans (by decide +kernel)
  have hc : w.host.record "relay" (.channel "2") = sampleStaff.fillIds.channelList.head? :=
    (hkeeps.record rfl (Tables.Slot.channel "2") hchannel).trans (by decide +kernel)
  have hm : w.host.record "relay" (.member "1" "3") = sampleStaff.fillIds.memberList.head? :=
    (hkeeps.record rfl (Tables.Slot.member "1" "3") hguild).trans (by decide +kernel)
  obtain ⟨-, hguilds, hchannels⟩ := permissions_by_precedence hf
  refine ⟨(hguilds "9" "1" _ hg).1 rfl, ?_, ?_⟩
  · rw [(hguilds "3" "1" _ hg).2 _ (by decide) hm]
    decide
  · rw [(hchannels "3" "2" _ _ hc hg).2 _ (by decide) hm]
    decide

end World

end GuildRelay
