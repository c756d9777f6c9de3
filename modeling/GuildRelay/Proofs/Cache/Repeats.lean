import GuildRelay.Proofs.Cache.Outcome
import GuildRelay.Proofs.Store.Cell
import Mathlib.Data.List.Induction
/-!
# Events that are applied twice

Where nothing expires, an event that comes a second time changes nothing. What a handler writes the
second time is merged with what it wrote the first time, and each merge has been shown to be done
then (`Guild.carryOver_carryOver` and its siblings). What remains are handlers that go through a
list, for the items of the list may name the same record.

The guilds of a snapshot are written without being read. Such changes are stamps: under each key a
value replaces what is there and members are added, so that two stamps make a stamp and a stamp
leaves nothing to do for itself (`Tables.Stamps`). Members and emojis are read before they are
written. There an earlier item is without effect on a later one with the same id, whatever lies
between them (`Absorbing`).
-/

namespace GuildRelay

/-! ## Stamps -/

/-- What is there after a value has been written and members have been added. -/
def Host.Content.stamp (x c : Host.Content) : Host.Content :=
  ⟨x.value.or c.value, insertAll x.members c.members, c.items⟩

namespace Tables

/-- The change writes values and adds members that do not depend on what is there. -/
def Stamps (f : Tables → Tables) : Prop :=
  ∃ x : View, ∀ t k, (f t).content k = (x k).stamp (t.content k)

namespace Stamps

variable {f g : Tables → Tables}

theorem id : Stamps fun t => t :=
  ⟨fun _ => ⟨none, [], []⟩, fun _ _ => rfl⟩

theorem comp (hg : Stamps g) (hf : Stamps f) : Stamps fun t => g (f t) := by
  obtain ⟨x, hx⟩ := hf
  obtain ⟨y, hy⟩ := hg
  refine ⟨fun k => ⟨(y k).value.or (x k).value, (x k).members ++ (y k).members, []⟩, fun t k => ?_⟩
  rw [hy, hx]
  simp [Host.Content.stamp, Option.or_assoc, insertAll_append]

theorem foldl {α : Type} {f : Tables → α → Tables} (hf : ∀ a, Stamps fun t => f t a) :
    ∀ as : List α, Stamps fun t => as.foldl f t
  | [] => .id
  | a :: as => (foldl hf as).comp (hf a)

/-- Two changes that stamp the same are the same, also one after the other. -/
theorem twice (hf : Stamps f) (t : Tables) : (f (f t)).content = (f t).content := by
  obtain ⟨x, hx⟩ := hf
  funext k
  rw [hx, hx]
  simp [Host.Content.stamp, ← Option.or_assoc, insertAll_insertAll]

theorem put {α : Type} [Encode α] (slot : Slot α) (a : α) : Stamps (slot.put (some a)) := by
  refine ⟨Function.update (fun _ => ⟨none, [], []⟩) slot.key (.record (some a)), fun t k => ?_⟩
  rw [slot.content_put]
  by_cases hk : k = slot.key
  · subst hk
    rw [Function.update_self, Function.update_self, slot.content_key]
    rfl
  · rw [Function.update_of_ne hk, Function.update_of_ne hk]
    rfl

theorem addIds (ix : Index) (ids : List String) :
    Stamps fun t => ix.put (insertAll ids (ix.get t)) t := by
  refine ⟨Function.update (fun _ => ⟨none, [], []⟩) ix.key (.index ids), fun t k => ?_⟩
  rw [ix.content_put]
  by_cases hk : k = ix.key
  · subst hk
    rw [Function.update_self, Function.update_self, ix.content_key]
    rfl
  · rw [Function.update_of_ne hk, Function.update_of_ne hk]
    rfl

theorem putChannels (cs : List Channel) : Stamps fun t => t.putChannels cs := by
  have hrecords : Stamps fun t => t.setChannels cs := by
    simp only [← foldl_setChannel]
    exact .foldl (fun c => put (Slot.channel c.id) c) cs
  exact (addIds Index.channels (cs.map (·.id))).comp hrecords

theorem putMembers (guildId : String) (ms : List Member) :
    Stamps fun t => t.putMembers guildId ms := by
  have hrecords : Stamps fun t => t.setMembers guildId ms := by
    simp only [← foldl_setMember]
    exact .foldl (fun m => (put (Slot.user m.user.id) m.user).comp
      (put (Slot.member guildId m.user.id) m)) ms
  have husers := (addIds Index.users (ms.map (·.user.id))).comp hrecords
  exact (addIds (Index.guildUsers guildId) (ms.map (·.user.id))).comp husers

theorem putGuild (g : Guild) : Stamps fun t => t.putGuild g :=
  (addIds Index.guilds [g.id]).comp (put (Slot.guild g.id) g)

theorem addBot (guildId botId : String) : Stamps fun t => t.addBot guildId botId := by
  unfold Tables.addBot
  cases hbot : botId.isEmpty with
  | true =>
      simp only [Bool.true_eq_false, false_and, if_false]
      exact .id
  | false =>
      simp only [true_and]
      exact addIds (Index.guildBots guildId) [botId]

theorem takeGuild (botId : String) (payload : Guild) (cached : Option Guild) :
    Stamps fun t => t.takeGuild botId payload cached :=
  (((addBot _ botId).comp (putGuild (payload.fillIds.carryOver cached))).comp
    (putMembers _ payload.fillIds.memberList)).comp (putChannels payload.fillIds.channelList)

theorem takeReady (botId : String) (r : Ready) : Stamps fun t => t.takeReady botId r := by
  have hguilds := foldl (fun g => takeGuild botId g none) r.guilds
  exact ((putChannels r.privateChannels).comp hguilds).comp (put (Slot.user r.user.id) r.user)

end Stamps

end Tables

/-! ## Lists that are gone through twice -/

/-- A step for an item leaves nothing to do for the item itself, and the last of two steps for an
item makes the first superfluous if what lies between them is a step for an item that was there. -/
structure Absorbing {σ β : Type} (f : σ → β → σ) (I : σ → Prop) (Has : β → σ → Prop) : Prop where
  keeps : ∀ s a, I s → I (f s a)
  has_self : ∀ s a, I s → Has a (f s a)
  has_step : ∀ s a b, I s → Has b s → Has b (f s a)
  again : ∀ s a, I s → f (f s a) a = f s a
  absorbs : ∀ s a b, I s → Has b s → f (f (f s a) b) a = f (f s b) a

namespace Absorbing

variable {σ β : Type} {f : σ → β → σ} {I : σ → Prop} {Has : β → σ → Prop}

theorem keeps_foldl (h : Absorbing f I Has) : ∀ (l : List β) {s : σ}, I s → I (l.foldl f s)
  | [], _, hs => hs
  | a :: l, s, hs => h.keeps_foldl l (h.keeps s a hs)

theorem has_foldl (h : Absorbing f I Has) {b : β} :
    ∀ (l : List β) {s : σ}, I s → Has b s → Has b (l.foldl f s)
  | [], _, _, hb => hb
  | a :: l, s, hs, hb => h.has_foldl l (h.keeps s a hs) (h.has_step s a b hs hb)

theorem has_of_mem (h : Absorbing f I Has) {b : β} :
    ∀ {l : List β} {s : σ}, I s → b ∈ l → Has b (l.foldl f s)
  | a :: l, s, hs, hb => by
      rcases List.mem_cons.mp hb with rfl | hb
      · exact h.has_foldl l (h.keeps s b hs) (h.has_self s b hs)
      · exact h.has_of_mem (s := f s a) (h.keeps s a hs) hb

/-- What makes no difference to a last step makes none if items that are there come first. -/
theorem foldl_congr (h : Absorbing f I Has) (a : β) (l : List β) {s s' : σ} (hs : I s) (hs' : I s')
    (hl : ∀ b ∈ l, Has b s) (hl' : ∀ b ∈ l, Has b s') (hsame : f s' a = f s a) :
    f (l.foldl f s') a = f (l.foldl f s) a := by
  induction l using List.reverseRecOn with
  | nil => exact hsame
  | append_singleton l b ih =>
      have hlast : b ∈ l ++ [b] := List.mem_append_right l List.mem_cons_self
      have hrest := ih (fun b' hb' => hl b' (List.mem_append_left [b] hb'))
        fun b' hb' => hl' b' (List.mem_append_left [b] hb')
      rw [List.foldl_append, List.foldl_append]
      calc f (f (l.foldl f s') b) a
          = f (f (f (l.foldl f s') a) b) a :=
            (h.absorbs _ a b (h.keeps_foldl l hs') (h.has_foldl l hs' (hl' b hlast))).symm
        _ = f (f (f (l.foldl f s) a) b) a := by rw [hrest]
        _ = f (f (l.foldl f s) b) a :=
            h.absorbs _ a b (h.keeps_foldl l hs) (h.has_foldl l hs (hl b hlast))

/-- A step before a list of items that are there is superfluous if the same step follows. -/
theorem absorbs_foldl (h : Absorbing f I Has) (a : β) (l : List β) {s : σ} (hs : I s)
    (hl : ∀ b ∈ l, Has b s) : f (l.foldl f (f s a)) a = f (l.foldl f s) a :=
  h.foldl_congr a l hs (h.keeps s a hs) hl (fun b hb => h.has_step s a b hs (hl b hb))
    (h.again s a hs)

/-- Going through a list a second time changes nothing. -/
theorem foldl_foldl (h : Absorbing f I Has) (l : List β) {s : σ} (hs : I s) :
    l.foldl f (l.foldl f s) = l.foldl f s := by
  induction l using List.reverseRecOn with
  | nil => rfl
  | append_singleton l a ih =>
      have hl : ∀ b ∈ l, Has b (l.foldl f s) := fun b hb => h.has_of_mem hs hb
      rw [List.foldl_append, List.foldl_append]
      show f (l.foldl f (f (l.foldl f s) a)) a = f (l.foldl f s) a
      rw [h.absorbs_foldl a l (h.keeps_foldl l hs) hl, ih]

/-- Going through a list again from where one of its steps was left off comes to the same. -/
theorem foldl_resumed (h : Absorbing f I Has) {before after : List β} {a : β} {s s' : σ} (hs : I s)
    (hs' : I s') (hthere : ∀ b ∈ before, Has b s') (hsame : f s' a = f (before.foldl f s) a) :
    (before ++ a :: after).foldl f s' = (before ++ a :: after).foldl f s := by
  have hstep := h.foldl_congr a before (h.keeps_foldl before hs) hs'
    (fun b hb => h.has_of_mem hs hb) hthere hsame
  rw [h.foldl_foldl before hs] at hstep
  simp only [List.foldl_append, List.foldl_cons, hstep]

end Absorbing

namespace Tables

variable {t : Tables}

/-! ## Records that are kept twice -/

theorem setGuild_setGuild {g g' : Guild} (hid : g.id = g'.id) :
    (t.setGuild g).setGuild g' = t.setGuild g' := by
  refine congrArg (fun f => { t with guild := f }) (funext fun id => ?_)
  by_cases h : id = g'.id <;> simp [setGuild, Slot.guild, h, hid]

/-- Keeping what is there changes nothing. -/
theorem setGuild_self {g : Guild} (hg : t.guild g.id = some g) : t.setGuild g = t := by
  refine congrArg (fun f => { t with guild := f }) (funext fun id => ?_)
  by_cases h : id = g.id
  · rw [if_pos h, h, hg]
  · exact if_neg h

theorem changeGuild_changeGuild (ht : t.Sound) {guildId : String} {change : Guild → Guild}
    (hid : ∀ g, (change g).id = g.id) (hsame : ∀ g, change (change g) = change g) :
    (t.changeGuild guildId change).changeGuild guildId change = t.changeGuild guildId change := by
  cases hg : t.guild guildId with
  | none => simp only [changeGuild, hg]
  | some g =>
      have hthere := ht.guild_setGuild_self hg (hid g)
      simp only [changeGuild, hg, hthere, hsame]
      exact setGuild_setGuild rfl

/-! ## Emojis -/

/-- The guild is cached, under its own id. -/
def HasGuild (guildId : String) (t : Tables) : Prop :=
  ∃ g, t.guild guildId = some g ∧ g.id = guildId

theorem changeGuild_of_none {guildId : String} (hg : t.guild guildId = none)
    (change : Guild → Guild) : t.changeGuild guildId change = t := by
  simp only [changeGuild, hg]

theorem changeGuild_eq {guildId : String} {g : Guild} (hg : t.guild guildId = some g)
    (change : Guild → Guild) : t.changeGuild guildId change = t.setGuild (change g) := by
  simp only [changeGuild, hg]

theorem changeGuild_setGuild {guildId : String} {g : Guild} (hid : g.id = guildId)
    {change : Guild → Guild} (hchange : ∀ g, (change g).id = g.id) :
    (t.setGuild g).changeGuild guildId change = t.setGuild (change g) := by
  have hthere : (t.setGuild g).guild guildId = some g := if_pos hid.symm
  rw [changeGuild_eq hthere, setGuild_setGuild (hchange g).symm]

theorem addEmojis_absorbing (guildId : String) :
    Absorbing (fun t e => t.changeGuild guildId (·.addEmoji e)) (HasGuild guildId)
      fun e t => ∃ g, t.guild guildId = some g ∧ e.id ∈ g.emojiList.map (·.id) := by
  have hafter : ∀ {t : Tables} {g : Guild} (e : Emoji), g.id = guildId →
      (t.setGuild (g.addEmoji e)).guild guildId = some (g.addEmoji e) :=
    fun e hid => if_pos hid.symm
  have hstep : ∀ {t : Tables} (g : Guild) (e : Emoji), g.id = guildId →
      (t.setGuild g).changeGuild guildId (·.addEmoji e) = t.setGuild (g.addEmoji e) :=
    fun g e hid => changeGuild_setGuild hid fun _ => rfl
  constructor
  case keeps =>
    rintro t e ⟨g, hg, hid⟩
    rw [changeGuild_eq hg]
    exact ⟨_, hafter e hid, hid⟩
  case has_self =>
    rintro t e ⟨g, hg, hid⟩
    rw [changeGuild_eq hg]
    exact ⟨_, hafter e hid, List.mem_map_of_mem (mem_replaceOrAdd_self _ e g.emojiList)⟩
  case has_step =>
    rintro t e e' ⟨g, hg, hid⟩ ⟨g', hg', he'⟩
    obtain rfl := Option.some.inj (hg.symm.trans hg')
    rw [changeGuild_eq hg]
    refine ⟨_, hafter e hid, ?_⟩
    show e'.id ∈ (replaceOrAdd (fun old => old.id == e.id) e g.emojiList).map (·.id)
    rw [map_replaceOrAdd]
    split
    · exact he'
    · exact List.mem_append_left _ he'
  case again =>
    rintro t e ⟨g, hg, hid⟩
    rw [changeGuild_eq hg, hstep (g.addEmoji e) e hid, Guild.addEmoji_addEmoji rfl]
  case absorbs =>
    rintro t e e' ⟨g, hg, hid⟩ ⟨g', hg', he'⟩
    obtain rfl := Option.some.inj (hg.symm.trans hg')
    rw [changeGuild_eq hg, hstep (g.addEmoji e) e' hid, hstep ((g.addEmoji e).addEmoji e') e hid,
      changeGuild_eq hg, hstep (g.addEmoji e') e hid]
    by_cases heq : e.id = e'.id
    · rw [Guild.addEmoji_addEmoji heq]
    · rw [Guild.addEmoji_comm heq he', Guild.addEmoji_addEmoji rfl]

theorem addEmojis_addEmojis (ht : t.Sound) (guildId : String) (emojis : List Emoji) :
    emojis.foldl (fun t e => t.changeGuild guildId (·.addEmoji e))
        (emojis.foldl (fun t e => t.changeGuild guildId (·.addEmoji e)) t)
      = emojis.foldl (fun t e => t.changeGuild guildId (·.addEmoji e)) t := by
  cases hg : t.guild guildId with
  | none =>
      have hidle : emojis.foldl (fun t e => t.changeGuild guildId (·.addEmoji e)) t = t :=
        foldl_idle fun e _ => by simp only [changeGuild, hg]
      rw [hidle, hidle]
  | some g => exact (addEmojis_absorbing guildId).foldl_foldl emojis ⟨g, hg, ht.guild_id hg⟩

/-! ## Members -/

/-- What storing a member does, place by place. -/
theorem storeMember_eq (t : Tables) (g : Guild) (m : Member) :
    t.storeMember g m = { t with
      guild := fun id => if id = g.id then some (g.addMember m) else t.guild id
      member := fun id u => if id = g.id ∧ u = m.user.id then some m else t.member id u
      user := fun u => if u = m.user.id then some m.user else t.user u
      userIds := insertInOrder m.user.id t.userIds
      guildUserIds := fun id =>
        if id = g.id then insertInOrder m.user.id (t.guildUserIds id) else t.guildUserIds id } := by
  have hlast : ∀ u, lastWith (·.user.id) u [m] = if u = m.user.id then some m else none := by
    intro u
    rw [lastWith_cons]
    by_cases h : u = m.user.id
    · simp [h, lastWith]
    · simp [h, Ne.symm h, lastWith]
  unfold storeMember
  refine Tables.ext rfl (funext₂ fun id u => ?_) rfl (funext fun u => ?_) rfl rfl rfl rfl
    (funext fun id => ?_) rfl rfl rfl
  · by_cases hid : id = g.id <;> by_cases hu : u = m.user.id <;>
      simp [putMembers, setMembers, hlast, hid, hu, setGuild, Slot.guild]
  · by_cases hu : u = m.user.id <;>
      simp [putMembers, setMembers, hlast, hu, setGuild, Slot.guild]
  · by_cases hid : id = g.id <;> simp [putMembers, hid, insertAll, setGuild, Slot.guild]

/-- A member takes the place of the same member. -/
theorem storeMember_storeMember {g : Guild} {m old : Member} (h : old.user.id = m.user.id) :
    (t.storeMember g old).storeMember (g.addMember old) m = t.storeMember g m := by
  have hid : (g.addMember old).id = g.id := rfl
  simp only [storeMember_eq, hid, h, Guild.addMember_addMember h, insertInOrder_self]
  refine Tables.ext (funext fun id => ?_) (funext₂ fun id u => ?_) rfl (funext fun u => ?_) rfl
    rfl rfl rfl (funext fun id => ?_) rfl rfl rfl
  · by_cases hid : id = g.id <;> simp [hid]
  · by_cases hid : id = g.id ∧ u = m.user.id <;> simp [hid]
  · by_cases hu : u = m.user.id <;> simp [hu]
  · by_cases hid : id = g.id <;> simp [hid, insertInOrder_self]

/-- Two members may change places if one of them was there. -/
theorem storeMember_comm {g : Guild} {m other : Member} (hne : m.user.id ≠ other.user.id)
    (hthere : other.user.id ∈ g.memberList.map (·.user.id)) :
    (t.storeMember g m).storeMember (g.addMember m) other
      = (t.storeMember g other).storeMember (g.addMember other) m := by
  have hid : ∀ m, (g.addMember m).id = g.id := fun _ => rfl
  simp only [storeMember_eq, hid, Guild.addMember_comm hne hthere]
  refine Tables.ext (funext fun id => ?_) (funext₂ fun id u => ?_) rfl (funext fun u => ?_) rfl
    rfl (insertInOrder_comm _ _ _) rfl (funext fun id => ?_) rfl rfl rfl
  · by_cases hid : id = g.id <;> simp [hid]
  · by_cases hm : u = m.user.id <;> simp [hm, hne]
  · by_cases hm : u = m.user.id <;> simp [hm, hne]
  · by_cases hid : id = g.id
    · simp [hid, insertInOrder_comm other.user.id]
    · simp [hid]

theorem takeMember_eq {m : Member} {g : Guild} (hg : t.guild m.guildId = some g) :
    t.takeMember m = t.storeMember g (m.carryOver (t.member m.guildId m.user.id)) := by
  simp only [takeMember, hg]

/-- A member that is taken in after another member of the guild. -/
theorem takeMember_storeMember {m : Member} {g : Guild} (hid : g.id = m.guildId) (old : Member) :
    (t.storeMember g old).takeMember m
      = (t.storeMember g old).storeMember (g.addMember old)
        (m.carryOver (if m.user.id = old.user.id then some old
          else t.member m.guildId m.user.id)) := by
  have hg : (t.storeMember g old).guild m.guildId = some (g.addMember old) := by
    simp [storeMember_eq, hid]
  have hold : (t.storeMember g old).member m.guildId m.user.id
      = if m.user.id = old.user.id then some old else t.member m.guildId m.user.id := by
    simp [storeMember_eq, hid]
  rw [takeMember_eq hg, hold]

/-- Of two payloads for the same member the second is kept, with what the first has carried over. -/
theorem takeMember_takeMember_same {m other : Member} {g : Guild}
    (hg : t.guild m.guildId = some g) (hid : g.id = m.guildId) (hguild : other.guildId = m.guildId)
    (huser : other.user.id = m.user.id) :
    (t.takeMember m).takeMember other
      = t.storeMember g (other.carryOver (some (m.carryOver (t.member m.guildId m.user.id)))) := by
  have huser' : ∀ cached, (m.carryOver cached).user.id = m.user.id := fun cached => by
    rw [Member.carryOver_user]
  rw [takeMember_eq hg, takeMember_storeMember (hid.trans hguild.symm),
    if_pos (huser.trans (huser' _).symm), storeMember_storeMember]
  rw [huser', Member.carryOver_user, huser]

theorem takeMember_takeMember (m : Member)
    (hid : ∀ g, t.guild m.guildId = some g → g.id = m.guildId) :
    (t.takeMember m).takeMember m = t.takeMember m := by
  cases hg : t.guild m.guildId with
  | none => simp only [takeMember, hg]
  | some g =>
      rw [takeMember_takeMember_same hg (hid g hg) rfl rfl, Member.carryOver_carryOver,
        takeMember_eq hg]

theorem takeMember_comm {m other : Member} {g : Guild} (hg : t.guild m.guildId = some g)
    (hid : g.id = m.guildId) (hguild : other.guildId = m.guildId)
    (huser : other.user.id ≠ m.user.id) (hthere : other.user.id ∈ g.memberList.map (·.user.id)) :
    (t.takeMember m).takeMember other = (t.takeMember other).takeMember m := by
  have hg' : t.guild other.guildId = some g := hguild ▸ hg
  rw [takeMember_eq hg, takeMember_eq hg', takeMember_storeMember (hid.trans hguild.symm),
    takeMember_storeMember hid, Member.carryOver_user, Member.carryOver_user, if_neg huser,
    if_neg (Ne.symm huser), storeMember_comm]
  · rwa [Member.carryOver_user, Member.carryOver_user, ne_comm]
  · rwa [Member.carryOver_user]

/-- A payload before one for a member that was there is superfluous if it comes again. -/
theorem takeMember_between {m other : Member} {g : Guild} (hg : t.guild m.guildId = some g)
    (hid : g.id = m.guildId) (hguild : other.guildId = m.guildId)
    (hthere : other.user.id ∈ g.memberList.map (·.user.id)) :
    ((t.takeMember m).takeMember other).takeMember m = (t.takeMember other).takeMember m := by
  have hg' : t.guild other.guildId = some g := hguild ▸ hg
  by_cases huser : other.user.id = m.user.id
  · rw [takeMember_takeMember_same hg hid hguild huser,
      takeMember_takeMember_same hg' (hid.trans hguild.symm) hguild.symm huser.symm,
      takeMember_storeMember hid, Member.carryOver_user, if_pos huser.symm,
      storeMember_storeMember (by rw [Member.carryOver_user, Member.carryOver_user, huser]),
      Member.carryOver_between, hguild, huser]
  · have hafter : (t.takeMember other).guild m.guildId
        = some (g.addMember (other.carryOver (t.member other.guildId other.user.id))) := by
      simp [takeMember_eq hg', storeMember_eq, hid]
    rw [takeMember_comm hg hid hguild huser hthere]
    refine takeMember_takeMember m fun g' hg' => ?_
    rw [← Option.some.inj (hafter.symm.trans hg')]
    exact hid

theorem takeMembers_absorbing (guildId : String) :
    Absorbing (fun t (m : Member) => t.takeMember { m with guildId }) (HasGuild guildId)
      fun m t => ∃ g, t.guild guildId = some g ∧ m.user.id ∈ g.memberList.map (·.user.id) := by
  have hstore : ∀ {t : Tables} {g : Guild} (m : Member), t.guild guildId = some g →
      g.id = guildId → ∃ m', m'.user = m.user
        ∧ (t.takeMember { m with guildId }).guild guildId = some (g.addMember m') := by
    intro t g m hg hid
    refine ⟨_, Member.carryOver_user { m with guildId } (t.member guildId m.user.id), ?_⟩
    have hstored := takeMember_eq (m := { m with guildId }) hg
    simp [hstored, storeMember_eq, hid]
  constructor
  case keeps =>
    rintro t m ⟨g, hg, hid⟩
    obtain ⟨m', -, hafter⟩ := hstore m hg hid
    exact ⟨_, hafter, hid⟩
  case has_self =>
    rintro t m ⟨g, hg, hid⟩
    obtain ⟨m', huser, hafter⟩ := hstore m hg hid
    refine ⟨_, hafter, ?_⟩
    rw [← huser]
    exact List.mem_map_of_mem (mem_replaceOrAdd_self _ m' g.memberList)
  case has_step =>
    rintro t m other ⟨g, hg, hid⟩ ⟨g', hg', hother⟩
    obtain rfl := Option.some.inj (hg.symm.trans hg')
    obtain ⟨m', -, hafter⟩ := hstore m hg hid
    refine ⟨_, hafter, ?_⟩
    show other.user.id ∈ (replaceOrAdd (fun old => old.user.id == m'.user.id) m'
      g.memberList).map (·.user.id)
    rw [map_replaceOrAdd]
    split
    · exact hother
    · exact List.mem_append_left _ hother
  case again =>
    rintro t m ⟨g, hg, hid⟩
    exact takeMember_takeMember { m with guildId } fun g' hg' =>
      Option.some.inj (hg.symm.trans hg') ▸ hid
  case absorbs =>
    rintro t m other ⟨g, hg, hid⟩ ⟨g', hg', hother⟩
    obtain rfl := Option.some.inj (hg.symm.trans hg')
    exact takeMember_between (m := { m with guildId }) hg hid rfl hother

theorem takeMembers_takeMembers (ht : t.Sound) (guildId : String) (ms : List Member) :
    ms.foldl (fun t m => t.takeMember { m with guildId })
        (ms.foldl (fun t m => t.takeMember { m with guildId }) t)
      = ms.foldl (fun t m => t.takeMember { m with guildId }) t := by
  cases hg : t.guild guildId with
  | none =>
      have hidle : ms.foldl (fun t m => t.takeMember { m with guildId }) t = t :=
        foldl_idle fun m _ => by simp only [takeMember, hg]
      rw [hidle, hidle]
  | some g => exact (takeMembers_absorbing guildId).foldl_foldl ms ⟨g, hg, ht.guild_id hg⟩

/-! ## Presences -/

theorem memberSeen_of_some {guildId : String} {p : Presence} {m : Member}
    (hm : t.member guildId p.user.id = some m) : t.memberSeen guildId p = m.seen p := by
  simp only [memberSeen, hm]

theorem memberSeen_of_none {guildId : String} {p : Presence}
    (hm : t.member guildId p.user.id = none) :
    t.memberSeen guildId p = p.newMember guildId (t.user p.user.id) := by
  simp only [memberSeen, hm]

/-- A new member of a presence is a member for the presence's user. -/
theorem Sound.newMember_user (ht : t.Sound) (p : Presence) (guildId : String) :
    (p.newMember guildId (t.user p.user.id)).user.id = p.user.id := by
  cases hu : t.user p.user.id with
  | none => rfl
  | some u =>
      have huser : u.id = p.user.id := ht.user_id hu
      exact huser

/-- A member that looks as the presence has it is told of when it is kept. -/
theorem memberSeen_storeMember {guildId : String} {p : Presence} {g : Guild} {m : Member}
    (hid : g.id = guildId) (huser : m.user.id = p.user.id) (hseen : m.seen p = m) :
    (t.storeMember g m).memberSeen guildId p = m := by
  have hm : (t.storeMember g m).member guildId p.user.id = some m := by
    simp [storeMember_eq, hid, huser]
  rw [memberSeen_of_some hm, hseen]

/-- A presence tells of the same member when the member that it told of has been taken in. -/
theorem memberSeen_takeMember (ht : t.Sound) {guildId : String} {g : Guild}
    (hg : t.guild guildId = some g) (p : Presence) :
    (t.takeMember (t.memberSeen guildId p)).memberSeen guildId p = t.memberSeen guildId p := by
  have hid := ht.guild_id hg
  cases hm : t.member guildId p.user.id with
  | none =>
      rw [memberSeen_of_none hm]
      have huser := ht.newMember_user p guildId
      have hnone : t.member (p.newMember guildId (t.user p.user.id)).guildId
          (p.newMember guildId (t.user p.user.id)).user.id = none := by
        rw [huser]
        exact hm
      rw [takeMember_eq (m := p.newMember guildId (t.user p.user.id)) hg, hnone]
      exact memberSeen_storeMember hid huser (Member.seen_newMember p guildId (t.user p.user.id))
  | some old =>
      have huser : old.user.id = p.user.id := ht.member_user hm
      rw [memberSeen_of_some hm]
      cases hg' : t.guild old.guildId with
      | none =>
          have hidle : t.takeMember (old.seen p) = t := by
            unfold takeMember
            rw [show t.guild (old.seen p).guildId = none from hg']
          rw [hidle, memberSeen_of_some hm]
      | some g' =>
          have hid' := ht.guild_id hg'
          rw [takeMember_eq (m := old.seen p) hg']
          -- A member that names another guild is kept for that one, and the old one stays.
          by_cases hhome : old.guildId = guildId
          · have hold : t.member (old.seen p).guildId (old.seen p).user.id = some old := by
              show t.member old.guildId old.user.id = some old
              rw [hhome, huser, hm]
            rw [hold, Member.carryOver_seen]
            exact memberSeen_storeMember (hid'.trans hhome) huser (Member.seen_seen old p)
          · have hne : guildId ≠ g'.id := fun h => hhome (hid'.symm.trans h.symm)
            refine memberSeen_of_some ?_
            simp [storeMember_eq, hne, hm]

/-- Taking in a member changes nothing about the presences of a guild. -/
theorem guild_takeMember (ht : t.Sound) (m : Member) {guildId : String} {g : Guild}
    (hg : t.guild guildId = some g) :
    ∃ g', (t.takeMember m).guild guildId = some g' ∧ g'.id = guildId
      ∧ g'.presences = g.presences := by
  cases hg' : t.guild m.guildId with
  | none =>
      simp only [takeMember, hg']
      exact ⟨g, hg, ht.guild_id hg, rfl⟩
  | some g' =>
      rw [takeMember_eq hg']
      by_cases hid : guildId = g'.id
      · have hsame : g' = g := by
          rw [hid, ht.guild_self hg'] at hg
          exact Option.some.inj hg
        rw [← hsame]
        exact ⟨_, if_pos hid, hid.symm, rfl⟩
      · exact ⟨g, (if_neg hid).trans hg, ht.guild_id hg, rfl⟩

theorem takePresence_takePresence (ht : t.Sound) (guildId : String) (p : Presence) :
    (t.takePresence guildId p).takePresence guildId p = t.takePresence guildId p := by
  cases hg : t.guild guildId with
  | none => simp only [takePresence, hg]
  | some g =>
      have hthere : (t.setGuild (g.addPresence p)).guild guildId = some (g.addPresence p) :=
        ht.guild_setGuild_self hg rfl
      have hsound := ht.setPresence hg p
      by_cases hoff : p.status = some .offline
      · simp only [takePresence, hg, if_pos hoff, hthere]
        rw [Guild.addPresence_addPresence, setGuild_setGuild rfl]
      · have hseen : t.memberSeen guildId p = (t.setGuild (g.addPresence p)).memberSeen guildId p :=
          rfl
        have hfirst : t.takePresence guildId p = (t.setGuild (g.addPresence p)).takeMember
            ((t.setGuild (g.addPresence p)).memberSeen guildId p) := by
          simp only [takePresence, hg, if_neg hoff, hseen]
        rw [hfirst]
        generalize t.setGuild (g.addPresence p) = t₁ at *
        obtain ⟨g₂, hg₂, hid₂, hpresences⟩ :=
          guild_takeMember hsound (t₁.memberSeen guildId p) hthere
        have hsame : g₂.addPresence p = g₂ := Guild.addPresence_of_presences hpresences
        simp only [takePresence, hg₂, if_neg hoff, hsame]
        rw [setGuild_self (hid₂.symm ▸ hg₂), memberSeen_takeMember hsound hthere]
        exact takeMember_takeMember _ fun _ hg => hsound.guild_id hg

/-! ## Channels -/

theorem setChannel_setChannel {c c' : Channel} (hid : c.id = c'.id) :
    (t.setChannel c).setChannel c' = t.setChannel c' := by
  refine congrArg (fun f => { t with channel := f }) (funext fun id => ?_)
  by_cases h : id = c'.id <;> simp [setChannel, Slot.channel, h, hid]

theorem takePins_takePins (ht : t.Sound) (p : ChannelPins) :
    (t.takePins p).takePins p = t.takePins p := by
  cases hc : t.channel p.channelId with
  | none => simp only [takePins, hc]
  | some c =>
      have hthere : (t.setChannel { c with lastPinTimestamp := p.lastPinTimestamp }).channel
          p.channelId = some { c with lastPinTimestamp := p.lastPinTimestamp } :=
        if_pos (ht.channel_id hc).symm
      simp only [takePins, hc, hthere]
      exact setChannel_setChannel rfl

theorem putChannels_putChannels (t : Tables) (c : Channel) :
    (t.putChannels [c]).putChannels [c] = t.putChannels [c] := by
  refine Tables.ext rfl rfl (funext fun id => ?_) rfl rfl rfl rfl (insertAll_insertAll _ _) rfl rfl
    rfl rfl
  simp [putChannels, setChannels, ← Option.or_assoc]

theorem channel_putChannels_self (t : Tables) (c : Channel) :
    (t.putChannels [c]).channel c.id = some c := by
  simp [putChannels, setChannels, lastWith]

theorem takeChannel_takeChannel (ht : t.Sound) (payload : Channel) :
    (t.takeChannel payload).takeChannel payload = t.takeChannel payload := by
  set c := payload.carryOver (t.channel payload.id) with hc
  have hcid : c.id = payload.id := Channel.carryOver_id payload _
  have hagain : ∀ t' : Tables, t'.channel payload.id = some c →
      payload.carryOver (t'.channel payload.id) = c := fun t' ht' => by
    rw [ht', hc, Channel.carryOver_carryOver]
  by_cases hkind : payload.isPrivate = true
  · have hfirst : t.takeChannel payload = t.putChannels [c] := by
      simp only [takeChannel, if_pos hkind, ← hc]
    have hthere : (t.putChannels [c]).channel payload.id = some c := by
      rw [← hcid]
      exact channel_putChannels_self t c
    rw [hfirst]
    simp only [takeChannel, if_pos hkind, hagain _ hthere]
    exact putChannels_putChannels t c
  · cases hg : t.guild payload.guildId with
    | none => simp only [takeChannel, if_neg hkind, hg]
    | some g =>
        have hfirst : t.takeChannel payload = (t.setGuild (g.addChannel c)).putChannels [c] := by
          simp only [takeChannel, if_neg hkind, hg, ← hc]
        have hthere : ((t.setGuild (g.addChannel c)).putChannels [c]).channel payload.id
            = some c := by
          rw [← hcid]
          exact channel_putChannels_self _ c
        have hg' : ((t.setGuild (g.addChannel c)).putChannels [c]).guild payload.guildId
            = some (g.addChannel c) := ht.guild_setGuild_self hg rfl
        rw [hfirst]
        simp only [takeChannel, if_neg hkind, hagain _ hthere, hg', Guild.addChannel_addChannel]
        have hswap : ∀ g', ((t.setGuild g').putChannels [c]).setGuild g'
            = ((t.setGuild g').setGuild g').putChannels [c] := fun _ => rfl
        rw [hswap, setGuild_setGuild rfl, putChannels_putChannels]

theorem loseChannel_loseChannel (t : Tables) (channelId : String) :
    (t.loseChannel channelId).loseChannel channelId = t.loseChannel channelId := by
  have hgone : ∀ t' : Tables, (t'.removeChannel channelId).loseChannel channelId
      = t'.removeChannel channelId := by
    intro t'
    have hnone : (t'.removeChannel channelId).channel channelId = none := if_pos rfl
    simp only [loseChannel, hnone]
  cases hc : t.channel channelId with
  | none => simp only [loseChannel, hc]
  | some c =>
      by_cases hkind : c.isPrivate = true
      · have hfirst : t.loseChannel channelId = t.removeChannel channelId := by
          simp only [loseChannel, hc, if_pos hkind]
        rw [hfirst, hgone]
      · cases hg : t.guild c.guildId with
        | none => simp only [loseChannel, hc, if_neg hkind, hg]
        | some g =>
            have hfirst : t.loseChannel channelId
                = (t.setGuild (g.removeChannel channelId)).removeChannel channelId := by
              simp only [loseChannel, hc, if_neg hkind, hg]
            rw [hfirst, hgone]

/-! ## Guilds and members that go -/

theorem removeGuild_removeGuild (t : Tables) (guildId : String) (channelIds : List String) :
    (t.removeGuild guildId channelIds).removeGuild guildId []
      = t.removeGuild guildId channelIds := by
  refine Tables.ext (funext fun g => ?_) (funext₂ fun g u => ?_) (funext fun c => ?_) rfl rfl ?_ rfl
    ?_ (funext fun g => ?_) (funext fun g => ?_) (funext fun g => ?_) ?_
  · by_cases hg : g = guildId <;> simp [removeGuild, hg]
  · by_cases hg : g = guildId <;> simp [removeGuild, hg]
  · simp [removeGuild]
  · simp [removeGuild, List.filter_filter]
  · simp [removeGuild]
  · by_cases hg : g = guildId <;> simp [removeGuild, hg]
  · by_cases hg : g = guildId <;> simp [removeGuild, hg]
  · by_cases hg : g = guildId <;> simp [removeGuild, hg]
  · simp [removeGuild, List.filter_filter]

theorem dropMember_dropMember (t : Tables) (guildId userId : String) :
    (t.dropMember guildId userId).dropMember guildId userId = t.dropMember guildId userId := by
  refine Tables.ext rfl (funext₂ fun g u => ?_) rfl rfl rfl rfl rfl rfl (funext fun g => ?_) rfl rfl
    rfl
  · by_cases h : g = guildId ∧ u = userId <;> simp [dropMember, Slot.member, h]
  · by_cases hg : g = guildId <;> simp [dropMember, hg, List.filter_filter]

theorem dropUser_dropUser (t : Tables) (userId : String) :
    (t.dropUser userId).dropUser userId = t.dropUser userId := by
  refine Tables.ext rfl rfl rfl (funext fun u => ?_) rfl rfl ?_ rfl rfl rfl rfl rfl
  · by_cases hu : u = userId <;> simp [dropUser, Slot.user, hu]
  · simp [dropUser, List.filter_filter]

/-- Whether the user is a member elsewhere is answered the same when the member is gone. -/
theorem removeMember_removeMember (t : Tables) (g : Guild) (userId : String) :
    (t.removeMember g userId).removeMember (g.removeMember userId) userId
      = t.removeMember g userId := by
  set rest := t.dropMember g.id userId with hrest
  have hdrop : rest.dropMember g.id userId = rest := dropMember_dropMember t g.id userId
  by_cases h : rest.isMemberElsewhere g.id userId = true
  · have hfirst : t.removeMember g userId = rest.setGuild (g.removeMember userId) := by
      simp only [removeMember, ← hrest, if_pos h]
    have hagain : (rest.setGuild (g.removeMember userId)).dropMember g.id userId
        = (rest.dropMember g.id userId).setGuild (g.removeMember userId) := rfl
    rw [hdrop] at hagain
    have hsecond : (rest.setGuild (g.removeMember userId)).isMemberElsewhere g.id userId = true := h
    rw [hfirst]
    unfold removeMember
    rw [show (g.removeMember userId).id = g.id from rfl, hagain, if_pos hsecond,
      Guild.removeMember_removeMember, setGuild_setGuild rfl]
  · have hfirst : t.removeMember g userId
        = (rest.dropUser userId).setGuild (g.removeMember userId) := by
      simp only [removeMember, ← hrest, if_neg h]
    have hagain : ((rest.dropUser userId).setGuild (g.removeMember userId)).dropMember g.id userId
        = ((rest.dropMember g.id userId).dropUser userId).setGuild (g.removeMember userId) := rfl
    rw [hdrop] at hagain
    have hsecond : ((rest.dropUser userId).setGuild (g.removeMember userId)).isMemberElsewhere g.id
        userId ≠ true := h
    have huser : ((rest.dropUser userId).setGuild (g.removeMember userId)).dropUser userId
        = ((rest.dropUser userId).dropUser userId).setGuild (g.removeMember userId) := rfl
    rw [dropUser_dropUser] at huser
    rw [hfirst]
    unfold removeMember
    rw [show (g.removeMember userId).id = g.id from rfl, hagain, if_neg hsecond, huser,
      Guild.removeMember_removeMember, setGuild_setGuild rfl]

/-! ## Events -/

/-- A guild that has been carried over once has nothing more to carry over. -/
theorem takeGuild_carryOver (t : Tables) (botId : String) (payload : Guild)
    (cached : Option Guild) :
    t.takeGuild botId payload (some (payload.fillIds.carryOver cached))
      = t.takeGuild botId payload cached := by
  simp only [takeGuild, Guild.carryOver_carryOver]

theorem takeGuild_again (t : Tables) (botId : String) (payload : Guild) :
    ((t.takeGuild botId payload (t.guild payload.id)).takeGuild botId payload
        ((t.takeGuild botId payload (t.guild payload.id)).guild payload.id)).content
      = (t.takeGuild botId payload (t.guild payload.id)).content := by
  set cached := t.guild payload.id with hcached
  have hthere : (t.takeGuild botId payload cached).guild payload.id
      = some (payload.fillIds.carryOver cached) :=
    if_pos (Guild.carryOver_id payload.fillIds cached).symm
  rw [hthere, takeGuild_carryOver]
  exact (Stamps.takeGuild botId payload cached).twice t

/-- An event that is applied to the tables that it has left changes nothing, unless it adds a
message or names channels to be dropped with a guild. -/
theorem updated_updated (ht : t.Sound) (settings : CacheSettings) (botId : String) {e : Event}
    (hmessage : ∀ m, e ≠ .messageCreate m)
    (hdelete : ∀ g, e = .guildDelete g → g.channelList = []) :
    ((t.updated settings botId e).updated settings botId e).content
      = (t.updated settings botId e).content := by
  have hrole : ∀ (guildId : String) (change : Guild → Guild), (∀ g, (change g).id = g.id) →
      (∀ g, change (change g) = change g) →
      ((t.changeGuild guildId change).changeGuild guildId change).content
        = (t.changeGuild guildId change).content := fun guildId change hid hsame =>
    congrArg content (changeGuild_changeGuild ht hid hsame)
  cases e with
  | ready r => exact (Stamps.takeReady botId r).twice t
  | guildCreate g => exact takeGuild_again t botId g
  | guildUpdate g => exact takeGuild_again t botId g
  | guildDelete g =>
      have hgone : ∀ ids, (t.removeGuild g.id ids).guild g.id = none := fun ids => if_pos rfl
      simp only [updated, hgone, Option.getD_none, hdelete g rfl, List.map_nil]
      rw [removeGuild_removeGuild]
  | guildMemberAdd m => exact congrArg content (takeMember_takeMember m fun _ hg => ht.guild_id hg)
  | guildMemberUpdate m =>
      exact congrArg content (takeMember_takeMember m fun _ hg => ht.guild_id hg)
  | guildMemberRemove m =>
      cases hg : t.guild m.guildId with
      | none => simp only [updated, hg]
      | some g =>
          have hthere : (t.removeMember g m.user.id).guild m.guildId
              = some (g.removeMember m.user.id) := by
            unfold removeMember
            split <;> exact if_pos (ht.guild_id hg).symm
          simp only [updated, hg, hthere]
          rw [removeMember_removeMember]
  | guildMembersChunk guildId members =>
      exact congrArg content (takeMembers_takeMembers ht guildId members)
  | guildRoleCreate guildId r =>
      exact hrole guildId (·.addRole r) (fun _ => rfl) fun g => g.addRole_addRole r
  | guildRoleUpdate guildId r =>
      exact hrole guildId (·.addRole r) (fun _ => rfl) fun g => g.addRole_addRole r
  | guildRoleDelete guildId roleId =>
      exact hrole guildId (·.removeRole roleId) (fun _ => rfl) fun g =>
        g.removeRole_removeRole roleId
  | guildEmojisUpdate guildId emojis =>
      exact congrArg content (addEmojis_addEmojis ht guildId emojis)
  | guildBanAdd guildId u =>
      cases hmay : t.mayReadBans botId guildId with
      | false => simp only [updated, hmay, Bool.false_eq_true, if_false]
      | true =>
          have hmay' : ∀ ids, ((Index.guildBanned guildId).put ids t).mayReadBans botId guildId
              = true := fun _ => hmay
          simp only [updated, hmay, if_true, hmay']
          exact (Stamps.addIds (Index.guildBanned guildId) [u.id]).twice t
  | guildBanRemove guildId u =>
      cases hmay : t.mayReadBans botId guildId with
      | false => simp only [updated, hmay, Bool.false_eq_true, if_false]
      | true =>
          have hmay' : ∀ ids, ((Index.guildBanned guildId).put ids t).mayReadBans botId guildId
              = true := fun _ => hmay
          simp only [updated, hmay, if_true, hmay']
          refine congrArg content (Tables.ext rfl rfl rfl rfl rfl rfl rfl rfl rfl rfl
            (funext fun id => ?_) rfl)
          by_cases hid : id = guildId <;> simp [Index.guildBanned, hid, List.filter_filter]
  | channelCreate c => exact congrArg content (takeChannel_takeChannel ht c)
  | channelUpdate c => exact congrArg content (takeChannel_takeChannel ht c)
  | channelDelete c => exact congrArg content (loseChannel_loseChannel t c.id)
  | channelPinsUpdate p => exact congrArg content (takePins_takePins ht p)
  | presenceUpdate guildId p => exact congrArg content (takePresence_takePresence ht guildId p)
  | messageCreate m => exact absurd rfl (hmessage m)
  | _ => rfl

end Tables

namespace World

open Tables

/-- Where nothing expires, an event that is applied a second time leaves what is under every key as
it is. Exceptions are messages, which are added again, and the end of a guild whose channels the
event itself names: the cached list is dropped first and the one of the event then. -/
theorem Reachable.repeated_event_changes_nothing {ns : String} {settings : CacheSettings}
    {w : World} (h : Reachable ns settings Event.IsWellNamed w) (hexpiry : settings.expiry = none)
    (botId : String) {e : Event} (he : e.IsWellNamed) (hmessage : ∀ m, e ≠ .messageCreate m)
    (hdelete : ∀ g, e = .guildDelete g → g.channelList = []) (name : String) :
    ((w.after ns settings botId e).after ns settings botId e).host.content name
      = (w.after ns settings botId e).host.content name := by
  obtain ⟨t, ht, -, hw⟩ := h.exists_tables (I := fun _ => True) settings.surroundings_allows rfl
    (fun _ he => he) trivial fun _ _ _ _ _ _ _ => trivial
  have hf : settings.surroundings.quiet.fading = false := CacheSettings.not_fading hexpiry
  have hs : settings.surroundings.quiet.Allows settings := settings.surroundings_allows
  -- Nothing goes on beside the two applications, so the ban data of the host can be counted on.
  have hstill := hw.host.withBansOf
  have ht₀ : (t.withBansOf ns w.host).Sound := { ht with }
  have hfirst := shows_after hstill hf hs ht₀ botId he
  have hsecond := shows_after hfirst hf hs (ht₀.updated settings botId he) botId he
  rw [updated_updated ht₀ settings botId hmessage hdelete] at hsecond
  exact hfirst.content_unique hsecond hf fun k hk => nomatch hk

/-- The bot of the sample reconnects and finds itself in a second guild. -/
def sampleReady : Event :=
  .ready { user := { id := "3" }, guilds := [sampleGuild, { id := "5" }] }

theorem sample_repeated_event_changes_nothing :
    (sample.after "relay" {} "3" sampleReady).host.members "relay" .allGuildIds = ["1", "5"]
      ∧ ∀ name, ((sample.after "relay" {} "3" sampleReady).after "relay" {} "3"
          sampleReady).host.content name
        = (sample.after "relay" {} "3" sampleReady).host.content name := by
  have hreachable : Reachable "relay" {} Event.IsWellNamed sample :=
    sample_reachable sampleGuild_isWellNamed
  have hnamed : sampleReady.IsWellNamed := by
    refine ⟨by decide, ?_, ?_⟩
    · refine List.forall_mem_cons.mpr ⟨sampleGuild_isWellNamed, List.forall_mem_singleton.mpr ?_⟩
      exact ⟨by decide, by decide, by decide⟩
    · decide
  refine ⟨by decide +kernel, ?_⟩
  exact hreachable.repeated_event_changes_nothing rfl "3" hnamed (fun _ h => nomatch h)
    fun _ h => nomatch h

end World

end GuildRelay
