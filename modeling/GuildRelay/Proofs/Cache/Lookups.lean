import GuildRelay.Cache.Mention
import GuildRelay.Proofs.Cache.TypedHandlers
/-!
# Lookups are typed

A `Lookup` is any question that the cache answers, and `Lookup.action` looks the answer up. Lookups
are typed if they name plain ids (`Lookup.typed_action`); an id in a mention is plain anyway, for it
has digits only.
-/

namespace GuildRelay

/-- What the cache can be asked. -/
inductive Lookup where
  | guild (guildId : String)
  | channel (channelId : String)
  | member (guildId userId : String)
  | user (userId : String)
  | role (guildId roleId : String)
  | emoji (guildId emojiId : String)
  | presence (guildId userId : String)
  | allGuildIds
  | allChannelIds
  | allUserIds
  | guildUserIds (guildId : String)
  | bannedUserIds (guildId : String)
  | botOfGuild (guildId : String)
  | isMember (guildId userId : String)
  | userChannelPermissions (userId channelId : String)
  | userPermissions (userId guildId : String)
  | channelMessages (channelId : String)
  | userFromMention (text : String)
  | channelFromMention (guildId text : String) (kind : ChannelKind)
  | roleFromMention (guildId text : String)
deriving DecidableEq

namespace Lookup

abbrev Result : Lookup → Type
  | guild _ => Guild
  | channel _ => Channel
  | member _ _ => Member
  | user _ => User
  | role _ _ => Role
  | emoji _ _ => Emoji
  | presence _ _ => Presence
  | allGuildIds => List String
  | allChannelIds => List String
  | allUserIds => List String
  | guildUserIds _ => List String
  | bannedUserIds _ => List String
  | botOfGuild _ => String
  | isMember _ _ => Bool
  | userChannelPermissions _ _ => Permissions
  | userPermissions _ _ => Permissions
  | channelMessages _ => List Message
  | userFromMention _ => User
  | channelFromMention _ _ _ => Channel
  | roleFromMention _ _ => Role

def action : (q : Lookup) → CacheAction q.Result
  | guild guildId => Cache.guild guildId
  | channel channelId => Cache.channel channelId
  | member guildId userId => Cache.member guildId userId
  | user userId => Cache.user userId
  | role guildId roleId => Cache.role guildId roleId
  | emoji guildId emojiId => Cache.emoji guildId emojiId
  | presence guildId userId => Cache.presence guildId userId
  | allGuildIds => Cache.ids .allGuildIds
  | allChannelIds => Cache.ids .allChannelIds
  | allUserIds => Cache.ids .allUserIds
  | guildUserIds guildId => Cache.ids (.guildUserIds guildId)
  | bannedUserIds guildId => Cache.ids (.guildBannedUserIds guildId)
  | botOfGuild guildId => Cache.botOfGuild guildId
  | isMember guildId userId => Cache.isMember guildId userId
  | userChannelPermissions userId channelId => Cache.userChannelPermissions userId channelId
  | userPermissions userId guildId => Cache.userPermissions userId guildId
  | channelMessages channelId => Cache.channelMessages channelId
  | userFromMention text => Cache.userFromMention text
  | channelFromMention guildId text kind => Cache.channelFromMention guildId text kind
  | roleFromMention guildId text => Cache.roleFromMention guildId text

/-- The guilds, channels and users that keys are made of are named by plain ids. -/
def IsWellNamed : Lookup → Prop
  | guild guildId => PlainId guildId
  | channel channelId => PlainId channelId
  | member guildId _ => PlainId guildId
  | user userId => PlainId userId
  | role guildId _ => PlainId guildId
  | emoji guildId _ => PlainId guildId
  | presence guildId _ => PlainId guildId
  | allGuildIds => True
  | allChannelIds => True
  | allUserIds => True
  | guildUserIds guildId => PlainId guildId
  | bannedUserIds guildId => PlainId guildId
  | botOfGuild guildId => PlainId guildId
  | isMember guildId _ => PlainId guildId
  | userChannelPermissions _ channelId => PlainId channelId
  | userPermissions _ guildId => PlainId guildId
  | channelMessages channelId => PlainId channelId
  | userFromMention _ => True
  | channelFromMention _ _ _ => True
  | roleFromMention guildId _ => PlainId guildId

/-- All members of a set are asked for. -/
def lists : Lookup → Bool
  | allGuildIds => true
  | allChannelIds => true
  | allUserIds => true
  | guildUserIds _ => true
  | bannedUserIds _ => true
  | botOfGuild _ => true
  | _ => false

end Lookup

/-! ## Mentions -/

theorem isId_of_bracketedId? {opener cs id : List Char} (h : bracketedId? opener cs = some id) :
    isId id = true := by
  unfold bracketedId? at h
  split at h
  · split at h
    · obtain ⟨hid, heq⟩ := Option.ite_none_right_eq_some.mp h
      exact Option.some.inj heq ▸ hid
    · cases h
  · cases h

theorem plainId_of_isId {id : List Char} (h : isId id = true) : PlainId (String.ofList id) := by
  have hdigits := List.all_eq_true.mp ((Bool.and_eq_true _ _).mp h).2
  refine ⟨fun hcolon => ?_, fun hids => ?_⟩
  · rw [String.toList_ofList] at hcolon
    exact absurd (hdigits ':' hcolon) (by decide)
  · have hlist : id = "ids".toList := by rw [← hids, String.toList_ofList]
    exact absurd (hdigits 'i' (by simp [hlist])) (by decide)

theorem plainId_of_mentionedId? {openers : List String} {text id : String}
    (h : mentionedId? openers text = some id) : PlainId id := by
  obtain ⟨cs, hcs, rfl⟩ := Option.map_eq_some_iff.mp h
  refine plainId_of_isId ?_
  split at hcs
  · next hbare => exact Option.some.inj hcs ▸ hbare
  · obtain ⟨opener, -, hopener⟩ := List.exists_of_findSome?_eq_some hcs
    exact isId_of_bracketedId? hopener

/-! ## Answers -/

namespace Cache

open GuildRelay.Action

variable {l : Liberties}

theorem typed_itemOfGuild {α : Type} {guildId : String} (hg : PlainId guildId)
    (find : Guild → Option α) :
    (guild guildId >>= fun g => ofOption (find g)).Typed l fun _ => True :=
  .bind (typed_guild hg) fun _ _ => .ofOption fun _ _ => trivial

theorem typed_userChannelPermissions {channelId : String} (hc : PlainId channelId)
    (userId : String) : (userChannelPermissions userId channelId).Typed l fun _ => True := by
  refine .bind (typed_channel hc) fun c hcid => ?_
  refine .bind (typed_guild hcid.2) fun g hid => ?_
  split
  · exact .pure trivial
  · refine .bind (typed_member ?_ userId) fun m _ => .pure trivial
    rw [hid.1]
    exact hcid.2

theorem readText_of_isRecord {α : Type} [Decode α] [Encode α] [LawfulCodec α] [Writable α]
    {P : α → Prop} {text : String} (h : IsRecord P text) : ∃ a, readText text = .ok a ∧ P a := by
  obtain ⟨a, rfl, ha⟩ := h
  exact ⟨a, readText_json a, ha⟩

theorem mapM_readText {α : Type} [Decode α] [Encode α] [LawfulCodec α] [Writable α] {P : α → Prop} :
    ∀ {texts : List String}, (∀ text ∈ texts, IsRecord P text) →
      ∃ as : List α, texts.mapM readText = .ok as
  | [], _ => ⟨[], rfl⟩
  | text :: rest, h => by
      obtain ⟨a, ha, -⟩ := readText_of_isRecord (h text List.mem_cons_self)
      obtain ⟨as, has⟩ := mapM_readText fun t ht => h t (List.mem_cons_of_mem text ht)
      refine ⟨a :: as, ?_⟩
      rw [List.mapM_cons, ha, has]
      rfl

theorem typed_channelMessages {channelId : String} (hc : PlainId channelId) :
    (channelMessages channelId).Typed l fun _ => True := by
  refine .bind (.ask hc rfl ⟨nofun, fun _ => by simp [Operation.IsBounded, IsCountable]⟩
    fun _ h => h) fun texts h => ?_
  obtain ⟨ms, hms⟩ := mapM_readText (α := Message) h
  show l.Expects _ (texts.mapM readText)
  rw [hms]
  trivial

theorem typed_channelFromMention (guildId text : String) (kind : ChannelKind) :
    (channelFromMention guildId text kind).Typed l fun _ => True := by
  refine .bind (.ofOption fun id h => plainId_of_mentionedId? h) fun id hid => ?_
  refine .bind (typed_channel hid) fun c _ => ?_
  by_cases hguild : c.guildId = guildId
  · by_cases hkind : c.kind = kind
    · simp only [ne_eq, hguild, hkind, not_true_eq_false, if_false]
      exact .pure trivial
    · simp only [ne_eq, hguild, hkind, not_true_eq_false, not_false_eq_true, if_false, if_true]
      exact .bind (P := fun _ => False) (.throw rfl) fun _ h => h.elim
  · simp only [ne_eq, hguild, not_false_eq_true, if_true]
    exact .bind (P := fun _ => False) (.throw rfl) fun _ h => h.elim

end Cache

open Cache in
/-- Every lookup is typed. -/
theorem Lookup.typed_action {l : Liberties} {q : Lookup} (hq : q.IsWellNamed)
    (hl : q.lists = true → l.listing = true) : q.action.Typed l fun _ => True := by
  have hids : ∀ {k : Key}, l.listing = true → k.IsPlain → k.shape = .set →
      (ids k).Typed l fun _ => True :=
    fun hlisting hk hshape => (typed_ids hlisting hk hshape).mono fun _ _ => trivial
  cases q with
  | guild guildId => exact (typed_guild hq).mono fun _ _ => trivial
  | channel channelId => exact (typed_channel hq).mono fun _ _ => trivial
  | member guildId userId => exact (typed_member hq userId).mono fun _ _ => trivial
  | user userId => exact (typed_user hq).mono fun _ _ => trivial
  | role | emoji | presence => exact typed_itemOfGuild hq _
  | allGuildIds | allChannelIds | allUserIds => exact hids (hl rfl) trivial rfl
  | guildUserIds | bannedUserIds => exact hids (hl rfl) hq rfl
  | botOfGuild guildId => exact .next (hids (hl rfl) hq rfl) fun _ => .ofOption fun _ _ => trivial
  | isMember guildId userId => exact typed_isMember hq userId
  | userChannelPermissions userId channelId => exact typed_userChannelPermissions hq userId
  | userPermissions userId guildId => exact typed_userPermissions hq userId
  | channelMessages channelId => exact typed_channelMessages hq
  | userFromMention text =>
      refine .bind (.ofOption fun id h => plainId_of_mentionedId? h) fun id hid => ?_
      exact (typed_user hid).mono fun _ _ => trivial
  | channelFromMention guildId text kind => exact typed_channelFromMention guildId text kind
  | roleFromMention guildId text =>
      exact .next (.ofOption fun _ _ => trivial) fun roleId => typed_itemOfGuild hq _

end GuildRelay
