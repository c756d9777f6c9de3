import GuildRelay.Proofs.Cache.Repeats
/-!
# Places that changes are confined to

A `Spot` is the smallest thing in the tables that one change may alter while another leaves it
alone: a record, a history, or whether an id is in a set. What an event of a guild can touch is told
by a `Scope`, the guild with the users and channels that the event names. `Scope.Writes` are the
places that it may alter, and `Scope.Reads` those that it may look at, which are more: the members
of its guild, the index of guilds, and where else its users are members.

A change is local when it leaves all other places alone and what it writes depends on nothing else
than what it may look at (`Tables.Local`). Local changes may follow one another, and may be chosen
by what is found in the scope, so handlers are local because the writes that they are made of are.
Two local changes whose scopes are apart can be made in either order (`Tables.Local.comm`).
-/

namespace GuildRelay

/-- A place in the tables. -/
inductive Spot where
  | guild (guildId : String)
  | member (guildId userId : String)
  | channel (channelId : String)
  | user (userId : String)
  | messages (channelId : String)
  | guildIds
  | userId (userId : String)
  | channelId (channelId : String)
  | guildUserId (guildId userId : String)
  | guildBotIds (guildId : String)
  | guildBannedUserIds (guildId : String)
  | banInitializedGuildIds

/-- What there is at a place: for an id in a set, whether it is there. -/
def Spot.Value : Spot → Type
  | guild _ => Option Guild
  | member _ _ => Option Member
  | channel _ => Option Channel
  | user _ => Option User
  | messages _ => List Message
  | guildIds => List String
  | userId _ => Prop
  | channelId _ => Prop
  | guildUserId _ _ => Prop
  | guildBotIds _ => List String
  | guildBannedUserIds _ => List String
  | banInitializedGuildIds => List String

/-- What the tables have at a place. -/
def Tables.look (t : Tables) : (p : Spot) → p.Value
  | .guild guildId => t.guild guildId
  | .member guildId userId => t.member guildId userId
  | .channel channelId => t.channel channelId
  | .user userId => t.user userId
  | .messages channelId => t.messages channelId
  | .guildIds => t.guildIds
  | .userId userId => userId ∈ t.userIds
  | .channelId channelId => channelId ∈ t.channelIds
  | .guildUserId guildId userId => userId ∈ t.guildUserIds guildId
  | .guildBotIds guildId => t.guildBotIds guildId
  | .guildBannedUserIds guildId => t.guildBannedUserIds guildId
  | .banInitializedGuildIds => t.banInitializedGuildIds

/-- A guild with some users and channels. -/
structure Scope where
  guildId : String
  users : List String
  channels : List String

namespace Scope

/-- Where an event may write. -/
def Writes (sc : Scope) : Spot → Prop
  | .guild guildId => guildId = sc.guildId
  | .member guildId userId => guildId = sc.guildId ∧ userId ∈ sc.users
  | .channel channelId => channelId ∈ sc.channels
  | .user userId => userId ∈ sc.users
  | .messages channelId => channelId ∈ sc.channels
  | .userId userId => userId ∈ sc.users
  | .channelId channelId => channelId ∈ sc.channels
  | .guildUserId guildId userId => guildId = sc.guildId ∧ userId ∈ sc.users
  | .guildBannedUserIds guildId => guildId = sc.guildId
  | _ => False

/-- Where an event may look: beside the places that it writes to, at the other members of its guild,
and at the guilds that its users are members of. -/
def Reads (sc : Scope) : Spot → Prop
  | .member guildId _ => guildId = sc.guildId
  | .guildIds => True
  | .guildUserId _ userId => userId ∈ sc.users
  | p => sc.Writes p

/-- The scopes have nothing in common. -/
structure Apart (sc sc' : Scope) : Prop where
  guild : sc.guildId ≠ sc'.guildId
  users : ∀ u ∈ sc.users, u ∉ sc'.users
  channels : ∀ c ∈ sc.channels, c ∉ sc'.channels

variable {sc sc' : Scope}

theorem reads_of_writes {p : Spot} (h : sc.Writes p) : sc.Reads p := by
  cases p with
  | member guildId userId => exact h.1
  | guildIds => trivial
  | guildUserId guildId userId => exact h.2
  | _ => exact h

theorem Apart.symm (h : sc.Apart sc') : sc'.Apart sc :=
  ⟨h.guild.symm, fun u hu hu' => h.users u hu' hu, fun c hc hc' => h.channels c hc' hc⟩

/-- What is looked at in one scope is not written in the other. -/
theorem Apart.not_writes (h : sc.Apart sc') {p : Spot} (hp : sc.Reads p) : ¬sc'.Writes p := by
  have hguild : ∀ {g : String}, g = sc.guildId → g ≠ sc'.guildId := fun hg => hg ▸ h.guild
  cases p with
  | guild guildId => exact hguild hp
  | member guildId userId => exact fun h' => hguild hp h'.1
  | channel channelId => exact h.channels channelId hp
  | user userId => exact h.users userId hp
  | messages channelId => exact h.channels channelId hp
  | userId userId => exact h.users userId hp
  | channelId channelId => exact h.channels channelId hp
  | guildUserId guildId userId => exact fun h' => h.users userId hp h'.2
  | guildBannedUserIds guildId => exact hguild hp
  | _ => exact id

/-- The tables have the same where an event in the scope may look. -/
def Agrees (sc : Scope) (t t' : Tables) : Prop :=
  ∀ p, sc.Reads p → t.look p = t'.look p

theorem Agrees.symm {t t' : Tables} (h : sc.Agrees t t') : sc.Agrees t' t :=
  fun p hp => (h p hp).symm

section Agrees

variable {t t' : Tables} (h : sc.Agrees t t')

include h

theorem Agrees.guild : t.guild sc.guildId = t'.guild sc.guildId :=
  h (.guild sc.guildId) rfl

theorem Agrees.member (userId : String) :
    t.member sc.guildId userId = t'.member sc.guildId userId :=
  h (.member sc.guildId userId) rfl

theorem Agrees.channel {channelId : String} (hc : channelId ∈ sc.channels) :
    t.channel channelId = t'.channel channelId :=
  h (.channel channelId) hc

theorem Agrees.user {userId : String} (hu : userId ∈ sc.users) : t.user userId = t'.user userId :=
  h (.user userId) hu

/-- Where else a user of the scope is a member. -/
theorem Agrees.isMemberElsewhere {userId : String} (hu : userId ∈ sc.users) (guildId : String) :
    t.isMemberElsewhere guildId userId = t'.isMemberElsewhere guildId userId := by
  have hguilds : t.guildIds = t'.guildIds := h .guildIds trivial
  have hmember : ∀ g, (t.guildUserIds g).contains userId = (t'.guildUserIds g).contains userId := by
    intro g
    have hsame : (userId ∈ t.guildUserIds g) = (userId ∈ t'.guildUserIds g) :=
      h (.guildUserId g userId) hu
    exact Bool.eq_iff_iff.mpr (by simp only [List.contains_iff_mem, hsame])
  unfold Tables.isMemberElsewhere
  rw [hguilds]
  simp only [hmember]

end Agrees

end Scope

namespace Tables

/-- In tables of which `I` holds, the change alters nothing but what may be written in the scope,
and what it writes depends on nothing but what may be looked at. -/
structure Local (sc : Scope) (I : Tables → Prop) (f : Tables → Tables) : Prop where
  keeps : ∀ t, I t → ∀ p, ¬sc.Writes p → (f t).look p = t.look p
  depends : ∀ t t', I t → I t' → sc.Agrees t t' → ∀ p, sc.Writes p → (f t).look p = (f t').look p

namespace Local

variable {sc sc' : Scope} {I J : Tables → Prop} {f g : Tables → Tables}

theorem agrees (hf : Local sc I f) {t t' : Tables} (ht : I t) (ht' : I t') (h : sc.Agrees t t') :
    sc.Agrees (f t) (f t') := by
  intro p hp
  by_cases hw : sc.Writes p
  · exact hf.depends t t' ht ht' h p hw
  · rw [hf.keeps t ht p hw, hf.keeps t' ht' p hw, h p hp]

theorem idle : Local sc I fun t => t :=
  ⟨fun _ _ _ _ => rfl, fun _ _ _ _ h p hp => h p (Scope.reads_of_writes hp)⟩

theorem comp (hg : Local sc J g) (hf : Local sc I f) (hkeep : ∀ t, I t → J (f t)) :
    Local sc I fun t => g (f t) where
  keeps t ht p hp := (hg.keeps (f t) (hkeep t ht) p hp).trans (hf.keeps t ht p hp)
  depends t t' ht ht' h :=
    hg.depends (f t) (f t') (hkeep t ht) (hkeep t' ht') (hf.agrees ht ht' h)

theorem after (hg : Local sc (fun _ => True) g) (hf : Local sc I f) :
    Local sc I fun t => g (f t) :=
  hg.comp hf fun _ _ => trivial

theorem mono (hf : Local sc J f) (h : ∀ t, I t → J t) : Local sc I f where
  keeps t ht := hf.keeps t (h t ht)
  depends t t' ht ht' := hf.depends t t' (h t ht) (h t' ht')

theorem congr (hf : Local sc I f) (h : ∀ t, I t → g t = f t) : Local sc I g where
  keeps t ht := by
    rw [h t ht]
    exact hf.keeps t ht
  depends t t' ht ht' := by
    rw [h t ht, h t' ht']
    exact hf.depends t t' ht ht'

/-- Which change is made may depend on what is found in the scope. -/
theorem choose (h : ∀ t, I t → ∃ g, Local sc I g ∧ ∀ t', sc.Agrees t t' → f t' = g t') :
    Local sc I f where
  keeps t ht := by
    obtain ⟨g, hg, hsame⟩ := h t ht
    rw [hsame t fun _ _ => rfl]
    exact hg.keeps t ht
  depends t t' ht ht' hagree := by
    obtain ⟨g, hg, hsame⟩ := h t ht
    rw [hsame t fun _ _ => rfl, hsame t' hagree]
    exact hg.depends t t' ht ht' hagree

theorem foldl {α : Type} {F : Tables → α → Tables} {as : List α}
    (hF : ∀ a ∈ as, Local sc I fun t => F t a) (hkeep : ∀ a ∈ as, ∀ t, I t → I (F t a)) :
    Local sc I fun t => as.foldl F t := by
  induction as with
  | nil => exact .idle
  | cons a as ih =>
      have hrest := ih (fun b hb => hF b (List.mem_cons_of_mem a hb))
        fun b hb => hkeep b (List.mem_cons_of_mem a hb)
      exact hrest.comp (hF a List.mem_cons_self) (hkeep a List.mem_cons_self)

/-- A local change leaves everything that an event in a scope apart may look at. -/
theorem agrees_of_apart (hg : Local sc' J g) (h : sc.Apart sc') {t : Tables} (hJ : J t) :
    sc.Agrees t (g t) :=
  fun p hp => (hg.keeps t hJ p (h.not_writes hp)).symm

/-- Local changes whose scopes are apart may be made in either order. -/
theorem comm (hf : Local sc I f) (hg : Local sc' J g) (h : sc.Apart sc') {t : Tables}
    (hI : I t) (hI' : I (g t)) (hJ : J t) (hJ' : J (f t)) (p : Spot) :
    (g (f t)).look p = (f (g t)).look p := by
  have hkept : sc.Agrees t (g t) := hg.agrees_of_apart h hJ
  have hkept' : sc'.Agrees t (f t) := hf.agrees_of_apart h.symm hI
  by_cases hp : sc.Writes p
  · have hp' : ¬sc'.Writes p := h.not_writes (Scope.reads_of_writes hp)
    calc (g (f t)).look p = (f t).look p := hg.keeps (f t) hJ' p hp'
      _ = (f (g t)).look p := hf.depends t (g t) hI hI' hkept p hp
  · by_cases hp' : sc'.Writes p
    · calc (g (f t)).look p = (g t).look p := (hg.depends t (f t) hJ hJ' hkept' p hp').symm
        _ = (f (g t)).look p := (hf.keeps (g t) hI' p hp).symm
    · calc (g (f t)).look p = t.look p := (hg.keeps (f t) hJ' p hp').trans (hf.keeps t hI p hp)
        _ = (f (g t)).look p := ((hf.keeps (g t) hI' p hp).trans (hg.keeps t hJ p hp')).symm

/-! ## Single writes -/

/-- A change of one place, to something that is the same wherever the scope is. -/
theorem single {q : Spot} (hq : sc.Writes q) (hother : ∀ t p, p ≠ q → (f t).look p = t.look p)
    (hself : ∀ t t', sc.Agrees t t' → (f t).look q = (f t').look q) : Local sc I f where
  keeps t _ p hp := hother t p fun h => hp (h ▸ hq)
  depends t t' _ _ h p hp := by
    by_cases hpq : p = q
    · subst hpq
      exact hself t t' h
    · rw [hother t p hpq, hother t' p hpq, h p (Scope.reads_of_writes hp)]

theorem putGuild {guildId : String} (hg : guildId = sc.guildId) (r : Option Guild) :
    Local sc I ((Slot.guild guildId).put r) := by
  refine single (q := .guild guildId) hg (fun t p hp => ?_) fun t t' _ => ?_
  · cases p with
    | guild id => exact if_neg fun h => hp (congrArg _ h)
    | _ => rfl
  · exact (if_pos rfl).trans (if_pos rfl).symm

theorem putMember {guildId userId : String} (hg : guildId = sc.guildId) (hu : userId ∈ sc.users)
    (r : Option Member) : Local sc I ((Slot.member guildId userId).put r) := by
  refine single (q := .member guildId userId) ⟨hg, hu⟩ (fun t p hp => ?_) fun t t' _ => ?_
  · cases p with
    | member id u => exact if_neg fun h => hp (by rw [h.1, h.2])
    | _ => rfl
  · exact (if_pos ⟨rfl, rfl⟩).trans (if_pos ⟨rfl, rfl⟩).symm

theorem putUser {userId : String} (hu : userId ∈ sc.users) (r : Option User) :
    Local sc I ((Slot.user userId).put r) := by
  refine single (q := .user userId) hu (fun t p hp => ?_) fun t t' _ => ?_
  · cases p with
    | user u => exact if_neg fun h => hp (congrArg _ h)
    | _ => rfl
  · exact (if_pos rfl).trans (if_pos rfl).symm

theorem putChannel {channelId : String} (hc : channelId ∈ sc.channels) (r : Option Channel) :
    Local sc I ((Slot.channel channelId).put r) := by
  refine single (q := .channel channelId) hc (fun t p hp => ?_) fun t t' _ => ?_
  · cases p with
    | channel c => exact if_neg fun h => hp (congrArg _ h)
    | _ => rfl
  · exact (if_pos rfl).trans (if_pos rfl).symm

theorem setMessages {channelId : String} (hc : channelId ∈ sc.channels) (ms : List Message) :
    Local sc I fun t => t.setMessages channelId ms := by
  refine single (q := .messages channelId) hc (fun t p hp => ?_) fun t t' _ => ?_
  · cases p with
    | messages c => exact if_neg fun h => hp (congrArg _ h)
    | _ => rfl
  · exact (if_pos rfl).trans (if_pos rfl).symm

theorem putBanned {guildId : String} (hg : guildId = sc.guildId)
    (change : List String → List String) :
    Local sc I fun t =>
      (Index.guildBanned guildId).put (change (t.guildBannedUserIds guildId)) t := by
  refine single (q := .guildBannedUserIds guildId) hg (fun t p hp => ?_) fun t t' h => ?_
  · cases p with
    | guildBannedUserIds id => exact if_neg fun h => hp (congrArg _ h)
    | _ => rfl
  · have hsame : t.guildBannedUserIds guildId = t'.guildBannedUserIds guildId :=
      h (.guildBannedUserIds guildId) hg
    exact (if_pos rfl).trans ((congrArg change hsame).trans (if_pos rfl).symm)

end Local

end Tables

/-- The change decides whether one id is in a set, and leaves it open for no other. -/
structure Decides (id : String) (change : List String → List String) : Prop where
  self : ∀ ids ids', id ∈ change ids ↔ id ∈ change ids'
  other : ∀ ids id', id' ≠ id → (id' ∈ change ids ↔ id' ∈ ids)

theorem decides_insertInOrder (id : String) : Decides id (insertInOrder id) where
  self ids ids' := by simp only [mem_insertInOrder, true_or]
  other ids id' hne := by simp only [mem_insertInOrder, hne, false_or]

theorem decides_filter (id : String) : Decides id (List.filter (· != id)) where
  self ids ids' := by simp only [List.mem_filter, bne_self_eq_false, Bool.false_eq_true, and_false]
  other ids id' hne := by simp [hne]

namespace Tables

namespace Local

variable {sc : Scope} {I : Tables → Prop} {change : List String → List String}

theorem changeUserIds {userId : String} (hu : userId ∈ sc.users) (hc : Decides userId change) :
    Local sc I fun t => Index.users.put (change t.userIds) t := by
  refine single (q := .userId userId) hu (fun t p hp => ?_) fun t t' _ => ?_
  · cases p with
    | userId u => exact propext (hc.other t.userIds u fun h => hp (congrArg _ h))
    | _ => rfl
  · exact propext (hc.self t.userIds t'.userIds)

theorem changeChannelIds {channelId : String} (hch : channelId ∈ sc.channels)
    (hc : Decides channelId change) :
    Local sc I fun t => Index.channels.put (change t.channelIds) t := by
  refine single (q := .channelId channelId) hch (fun t p hp => ?_) fun t t' _ => ?_
  · cases p with
    | channelId c => exact propext (hc.other t.channelIds c fun h => hp (congrArg _ h))
    | _ => rfl
  · exact propext (hc.self t.channelIds t'.channelIds)

theorem changeGuildUserIds {guildId userId : String} (hg : guildId = sc.guildId)
    (hu : userId ∈ sc.users) (hc : Decides userId change) :
    Local sc I fun t => (Index.guildUsers guildId).put (change (t.guildUserIds guildId)) t := by
  have hself : ∀ t : Tables, ((Index.guildUsers guildId).put (change (t.guildUserIds guildId))
      t).guildUserIds guildId = change (t.guildUserIds guildId) := fun t => if_pos rfl
  refine single (q := .guildUserId guildId userId) ⟨hg, hu⟩ (fun t p hp => ?_) fun t t' _ => ?_
  · cases p with
    | guildUserId id u =>
        by_cases hid : id = guildId
        · subst hid
          have hne : u ≠ userId := fun h => hp (by rw [h])
          exact (congrArg (u ∈ ·) (hself t)).trans (propext (hc.other (t.guildUserIds id) u hne))
        · exact congrArg (u ∈ ·) (if_neg hid)
    | _ => rfl
  · have hsame := propext (hc.self (t.guildUserIds guildId) (t'.guildUserIds guildId))
    exact (congrArg (userId ∈ ·) (hself t)).trans
      (hsame.trans (congrArg (userId ∈ ·) (hself t')).symm)

/-! ## What handlers write -/

theorem setGuild {g : Guild} (hg : g.id = sc.guildId) : Local sc I fun t => t.setGuild g :=
  putGuild hg (some g)

theorem storeMember {g : Guild} {m : Member} (hg : g.id = sc.guildId) (hm : m.user.id ∈ sc.users) :
    Local sc I fun t => t.storeMember g m := by
  have hrecords : Local sc I fun t =>
      (Slot.user m.user.id).put (some m.user) ((Slot.member g.id m.user.id).put (some m)
        (t.setGuild (g.addMember m))) :=
    (putUser hm (some m.user)).after ((putMember hg hm (some m)).after (setGuild hg))
  have hindexed := (changeGuildUserIds hg hm (decides_insertInOrder m.user.id)).after
    ((changeUserIds hm (decides_insertInOrder m.user.id)).after hrecords)
  refine hindexed.congr fun t _ => ?_
  rw [storeMember_eq]
  refine congrArg (fun f => Tables.mk _ _ _ _ _ _ _ _ f _ _ _) (funext fun id => ?_)
  by_cases hid : id = g.id
  · rw [if_pos hid, hid]
    exact (if_pos rfl).symm
  · rw [if_neg hid]
    exact (if_neg hid).symm

theorem dropMember {guildId userId : String} (hg : guildId = sc.guildId) (hu : userId ∈ sc.users) :
    Local sc I fun t => t.dropMember guildId userId :=
  (changeGuildUserIds hg hu (decides_filter userId)).after (putMember hg hu none)

theorem dropUser {userId : String} (hu : userId ∈ sc.users) :
    Local sc I fun t => t.dropUser userId :=
  (changeUserIds hu (decides_filter userId)).after (putUser hu none)

theorem removeMember {g : Guild} {userId : String} (hg : g.id = sc.guildId)
    (hu : userId ∈ sc.users) : Local sc I fun t => t.removeMember g userId := by
  have hrest : Local sc (fun _ => True) fun t =>
      if t.isMemberElsewhere g.id userId = true then t.setGuild (g.removeMember userId)
      else (t.dropUser userId).setGuild (g.removeMember userId) := by
    have hwrite : Local sc (fun _ => True) fun t => t.setGuild (g.removeMember userId) :=
      setGuild (g := g.removeMember userId) hg
    refine choose fun t _ => ?_
    cases helse : t.isMemberElsewhere g.id userId with
    | true =>
        refine ⟨_, hwrite, fun t' hagree => if_pos ?_⟩
        rw [← hagree.isMemberElsewhere hu, helse]
    | false =>
        refine ⟨_, hwrite.after (dropUser hu), fun t' hagree => if_neg ?_⟩
        rw [← hagree.isMemberElsewhere hu, helse]
        exact Bool.false_ne_true
  exact hrest.after (dropMember hg hu)

theorem putChannels {c : Channel} (hc : c.id ∈ sc.channels) :
    Local sc I fun t => t.putChannels [c] := by
  have hwrite := (changeChannelIds hc (decides_insertInOrder c.id)).after
    (I := I) (putChannel hc (some c))
  refine hwrite.congr fun t _ => ?_
  refine congrArg (fun f => Tables.mk _ _ f _ _ _ _ _ _ _ _ _) (funext fun id => ?_)
  by_cases hid : id = c.id
  · simp [setChannels, lastWith, Slot.channel, hid]
  · simp [setChannels, lastWith, Slot.channel, hid, Ne.symm hid]

theorem removeChannel {channelId : String} (hc : channelId ∈ sc.channels) :
    Local sc I fun t => t.removeChannel channelId :=
  (changeChannelIds hc (decides_filter channelId)).after
    ((putChannel hc none).after (setMessages hc []))

end Local

end Tables

end GuildRelay
