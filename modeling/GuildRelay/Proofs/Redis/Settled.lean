import GuildRelay.Proofs.Redis.Shelf
/-!
# The order of members does not matter

What is asked of the cache comes to the same in whatever order the members of sets are listed. Where
none are listed this follows from the types. A guild that is removed drops a member record for each
of the members listed, and the records that are gone are the same in any order. A member who is
removed is looked for in each of the guilds listed, and is in one of them in any order.

Lookups that list members are the exception, as far as they answer with what is listed: an answer is
like another one (`Lookup.Alike`) when it has the same ids in any order, and when both name a bot of
the guild.
-/

namespace GuildRelay

/-- What a request takes, other than a listing. -/
def Liberties.ofRequests : Liberties := ⟨false, false, true⟩

open Liberties (ofRequests)

theorem Liberties.ofRequests_covers {settings : CacheSettings}
    (h : ∀ ttl ∈ settings.expiry, IsGranted ttl) : ofRequests.Covers settings := fun _ => h

namespace Action

variable {α β : Type} {m : Moment} {P : α → Prop} {Q : β → Prop}

/-- On every shelf the action ends as `P` says or with an error, and its outcome is the same in
whatever order members are listed. -/
def Settled (m : Moment) (a : Action Key α) (P : α → Prop) : Prop :=
  ∀ w : Shelf, w.Fits → (ExceptT.run a).SettledAt m w (ofRequests.Expects P) Eq

theorem Typed.settled {a : Action Key α} (ha : a.Typed ofRequests P) : a.Settled m P :=
  fun _ hw => Program.Typed.settledAt rfl rfl ha hw

theorem Settled.bind {a : Action Key α} {f : α → Action Key β} (ha : a.Settled m P)
    (hf : ∀ x, P x → (f x).Settled m Q) : (a >>= f).Settled m Q := by
  intro w hw
  rw [run_bind]
  refine (ha w hw).andThen fun r w' hr hw' => ?_
  cases r with
  | ok x => exact hf x hr w' hw'
  | error e => exact ⟨hr, hw', rfl, rfl⟩

theorem Settled.after {a : Action Key α} {f : α → Action Key β} (ha : a.Typed ofRequests P)
    (hf : ∀ x, P x → (f x).Settled m Q) : (a >>= f).Settled m Q :=
  .bind ha.settled hf

end Action

namespace Cache

open GuildRelay.Action

variable {α β : Type} {m : Moment} {w : Shelf} {k : Key}

/-- Members are listed for an action that ends in one way, whatever their order, and what is done
after it is settled. -/
theorem settledAt_listing {g : List String → CacheAction α} {f : α → CacheAction β} {x : α}
    {w' : Shelf} {Q : β → Prop} (hk : k.IsPlain) (hshape : k.shape = .set) (hw' : w'.Fits)
    (hg : ∀ members, (w.cells k).members.Perm members →
      (ExceptT.run (g members)).Settles m w fun r after => r = .ok x ∧ after = w')
    (hf : (f x).Settled m Q) :
    (ExceptT.run (ids k >>= fun members => g members >>= f)).SettledAt m w
      (ofRequests.Expects Q) Eq := by
  have hrest := hf w' hw'
  refine .of_settles hrest.result hrest.fits ?_
  refine ⟨hk, hshape, trivial, fun members hmembers => ?_⟩
  rw [Shelf.after_of_isRead rfl]
  show (ExceptT.run (g members >>= f)).Settles m w _
  rw [run_bind]
  refine (hg members hmembers).andThen ?_
  rintro _ _ ⟨rfl, rfl⟩
  exact hrest.settles.mono fun r after h => ⟨h.1.symm, h.2⟩

/-! ## Removing a guild -/

theorem settles_drops {key : String → Key} (hkey : ∀ id, (key id).IsPlain) :
    ∀ (ids : List String) (w : Shelf),
      (ExceptT.run (ids.forM fun id => drop (key id))).Settles m w fun r after =>
        r = .ok () ∧ after = w.without (ids.map key)
  | [], w => ⟨rfl, w.without_nil.symm⟩
  | id :: ids, w => by
      show (ExceptT.run (drop (key id) >>= fun _ => ids.forM fun id => drop (key id))).Settles m w _
      rw [run_bind]
      refine ⟨hkey id, trivial, trivial, fun _ _ => ?_⟩
      rw [Shelf.after_delete]
      refine (settles_drops hkey ids _).mono ?_
      rintro r after ⟨rfl, rfl⟩
      exact ⟨rfl, Shelf.without_without [key id] (ids.map key)⟩

theorem settled_removeGuild {payload : Guild} (hp : payload.IsWellNamed) :
    (removeGuild payload).Settled m fun _ => True := by
  refine .after (typed_guild hp.1).found fun cached hcached => ?_
  refine .after (typed_drop hp.1) fun _ _ => ?_
  refine .after (typed_removeId trivial rfl) fun _ _ => ?_
  refine .after (.forM fun c hc => typed_dropChannel (isPlain_of_mem_channels hp hcached c hc))
    fun _ _ => ?_
  intro w hw
  -- The same records are gone in whatever order their members are listed.
  have hmember : ∀ userId, (Key.member payload.id userId).IsPlain := fun _ => hp.1
  refine settledAt_listing (x := ()) hp.1 rfl
    (hw.without ((w.cells (.guildUserIds payload.id)).members.map (.member payload.id)))
    (fun userIds hperm => ?_) ?_
  · rw [Shelf.without_perm (hperm.map _)]
    exact settles_drops hmember userIds w
  · refine Typed.settled (.next (typed_drop hp.1) fun _ => ?_)
    refine .next (typed_drop hp.1) fun _ => ?_
    refine .next (typed_drop hp.1) fun _ => ?_
    exact typed_removeId trivial rfl

/-! ## Removing a member -/

/-- The user is a member of one of the guilds other than `guildId`. -/
def isElsewhere (w : Shelf) (guildId userId : String) (guildIds : List String) : Bool :=
  guildIds.any fun other =>
    other != guildId && (w.cells (.guildUserIds other)).members.contains userId

theorem settles_isMemberElsewhere (guildId userId : String) :
    ∀ {guildIds : List String}, (∀ g ∈ guildIds, PlainId g) →
      (ExceptT.run (isMemberElsewhere guildId userId guildIds)).Settles m w fun r after =>
        r = .ok (isElsewhere w guildId userId guildIds) ∧ after = w
  | [], _ => ⟨rfl, rfl⟩
  | g :: rest, hplain => by
      have hrest : (ExceptT.run (isMemberElsewhere guildId userId rest)).Settles m w fun r after =>
          r = .ok (isElsewhere w guildId userId rest) ∧ after = w :=
        settles_isMemberElsewhere guildId userId fun g' hg' =>
          hplain g' (List.mem_cons_of_mem g hg')
      unfold isMemberElsewhere
      split
      · next hg =>
          have hself : isElsewhere w guildId userId (g :: rest)
              = isElsewhere w guildId userId rest := by
            simp [isElsewhere, hg]
          rw [hself]
          exact hrest
      · next hg =>
          rw [run_bind]
          refine ⟨hplain g List.mem_cons_self, rfl, trivial, ?_⟩
          rintro reply rfl
          rw [Shelf.after_of_isRead rfl]
          have hcons : isElsewhere w guildId userId (g :: rest)
              = ((w.cells (.guildUserIds g)).members.contains userId
                || isElsewhere w guildId userId rest) := by
            simp [isElsewhere, bne_iff_ne.mpr hg]
          rw [hcons]
          show (ExceptT.run (if (w.cells (.guildUserIds g)).members.contains userId then pure true
            else isMemberElsewhere guildId userId rest)).Settles m w _
          cases (w.cells (.guildUserIds g)).members.contains userId with
          | true => exact ⟨rfl, rfl⟩
          | false => exact hrest

theorem settled_removeMember {settings : CacheSettings} (hs : ofRequests.Covers settings)
    {payload : Member} (hp : payload.IsWellNamed) :
    (removeMember settings payload).Settled m fun _ => True := by
  refine .after (typed_guild hp.1) fun g hid => ?_
  have hg : PlainId g.id := by
    rw [hid.1]
    exact hp.1
  refine .after (typed_drop hg) fun _ _ => ?_
  refine .after (typed_removeId hg rfl) fun _ _ => ?_
  intro w hw
  have hplain : ∀ guildId ∈ (w.cells .allGuildIds).members, PlainId guildId :=
    fun guildId h => ((hw.whole .allGuildIds).members guildId h).2
  refine settledAt_listing (k := .allGuildIds)
    (x := isElsewhere w g.id payload.user.id (w.cells .allGuildIds).members) trivial rfl hw
    (fun guildIds hperm => ?_) ?_
  · -- Looking for the user changes nothing and finds the same in any order.
    have helsewhere : isElsewhere w g.id payload.user.id guildIds
        = isElsewhere w g.id payload.user.id (w.cells .allGuildIds).members :=
      hperm.symm.any_eq
    rw [← helsewhere]
    exact settles_isMemberElsewhere g.id payload.user.id fun guildId h =>
      hplain guildId (hperm.mem_iff.mpr h)
  · have hwrite : (write settings (.guild g.id) (g.removeMember payload.user.id)).Typed ofRequests
        fun _ => True := typed_write hs hg rfl rfl (show Guild.IsAt g.id _ from ⟨rfl, hid.2⟩)
    cases isElsewhere w g.id payload.user.id (w.cells .allGuildIds).members with
    | true => exact Typed.settled hwrite
    | false =>
        exact Typed.settled
          (.next (typed_drop hp.2) fun _ => .next (typed_removeId trivial rfl) fun _ => hwrite)

/-! ## Events -/

theorem settled_update {settings : CacheSettings} (hs : ofRequests.Covers settings)
    (botId : String) {e : Event} (he : e.IsWellNamed) :
    (update settings botId e).Settled m fun _ => True := by
  cases e with
  | guildDelete g => exact settled_removeGuild he
  | guildMemberRemove member => exact settled_removeMember hs he
  | _ => exact (typed_update hs botId he nofun).settled

theorem settled_apply {settings : CacheSettings} (hs : ofRequests.Covers settings)
    (botId : String) {e : Event} (he : e.IsWellNamed) :
    (apply settings botId e).Settled m fun _ => True :=
  .bind (settled_update hs botId he) fun _ _ => Typed.settled (.pure trivial)

end Cache

/-! ## Lookups -/

/-- Both are the same ids in any order, or the same error. -/
def SameIds : Except CacheError (List String) → Except CacheError (List String) → Prop
  | .ok ids, .ok ids' => ids.Perm ids'
  | r, r' => r = r'

/-- Both are among some ids, or the same. -/
def SameOrAmong (ids : List String) (r r' : Except CacheError String) : Prop :=
  r = r' ∨ ∃ id ∈ ids, ∃ id' ∈ ids, r = .ok id ∧ r' = .ok id'

/-- The answers are the same, with ids in any order and with any of the bots of a guild. -/
def Lookup.Alike (bots : String → List String) :
    (q : Lookup) → Except CacheError q.Result → Except CacheError q.Result → Prop
  | allGuildIds, r, r' | allChannelIds, r, r' | allUserIds, r, r' | guildUserIds _, r, r'
  | bannedUserIds _, r, r' => SameIds r r'
  | botOfGuild guildId, r, r' => SameOrAmong (bots guildId) r r'
  | guild _, r, r' | channel _, r, r' | member _ _, r, r' | user _, r, r' | role _ _, r, r'
  | emoji _ _, r, r' | presence _ _, r, r' | isMember _ _, r, r' | userChannelPermissions _ _, r, r'
  | userPermissions _ _, r, r' | channelMessages _, r, r' | userFromMention _, r, r'
  | channelFromMention _ _ _, r, r' | roleFromMention _ _, r, r' => r = r'

def Shelf.bots (w : Shelf) (guildId : String) : List String :=
  (w.cells (.guildBotIds guildId)).members

namespace Cache

open GuildRelay.Action

variable {m : Moment} {w : Shelf} {k : Key}

theorem settledAt_ids (hw : w.Fits) (hk : k.IsPlain) (hshape : k.shape = .set) :
    (ExceptT.run (ids k)).SettledAt m w (fun _ => True) SameIds := by
  refine ⟨trivial, ?_, hk, hshape, trivial, fun members hmembers => ⟨hmembers, rfl⟩⟩
  show (w.after m.now k .setMembers).Fits
  rw [Shelf.after_of_isRead rfl]
  exact hw

def firstOf (ids : List String) : Except CacheError String :=
  ids.head?.elim (.error .notFound) .ok

theorem sameOrAmong_firstOf {ids ids' : List String} (h : ids.Perm ids') :
    SameOrAmong ids (firstOf ids) (firstOf ids') := by
  cases ids with
  | nil =>
      obtain rfl := List.nil_perm.mp h
      exact .inl rfl
  | cons id rest =>
      cases ids' with
      | nil => exact absurd h.symm (List.not_perm_nil_cons id rest)
      | cons id' rest' =>
          have hid' : id' ∈ id :: rest := h.mem_iff.mpr List.mem_cons_self
          exact .inr ⟨id, List.mem_cons_self, id', hid', rfl, rfl⟩

theorem run_botOfGuild (guildId : String) :
    ExceptT.run (botOfGuild guildId) =
      .call (.guildBotIds guildId) .setMembers fun reply => .done (reply.bind firstOf) := by
  refine congrArg (Program.call _ _) (funext fun reply => ?_)
  rcases reply with e | _ | ⟨botId, rest⟩ <;> rfl

theorem settledAt_botOfGuild (hw : w.Fits) {guildId : String} (hg : PlainId guildId) :
    (ExceptT.run (botOfGuild guildId)).SettledAt m w (fun _ => True)
      (SameOrAmong (w.bots guildId)) := by
  rw [run_botOfGuild]
  refine ⟨trivial, ?_, hg, rfl, trivial, fun members hperm => ⟨sameOrAmong_firstOf hperm, rfl⟩⟩
  show (w.after m.now (.guildBotIds guildId) .setMembers).Fits
  rw [Shelf.after_of_isRead rfl]
  exact hw

end Cache

open Cache

/-- Lookups are settled, up to the order of ids and the choice of a bot. -/
theorem Lookup.settledAt_action {m : Moment} {w : Shelf} (hw : w.Fits) {q : Lookup}
    (hq : q.IsWellNamed) :
    (ExceptT.run q.action).SettledAt m w (fun _ => True) (q.Alike w.bots) := by
  have htyped : q.lists = false →
      (ExceptT.run q.action).SettledAt m w (ofRequests.Expects fun _ => True) Eq := fun hl =>
    (q.typed_action hq (l := ofRequests) (hl ▸ nofun)).settled w hw
  cases q with
  | allGuildIds | allChannelIds | allUserIds => exact settledAt_ids hw trivial rfl
  | guildUserIds | bannedUserIds => exact settledAt_ids hw hq rfl
  | botOfGuild guildId => exact settledAt_botOfGuild hw hq
  | _ => exact (htyped rfl).mono (fun _ _ => trivial) fun _ _ h => h

end GuildRelay
