/-!
# Permissions

A `Permissions` value is a set of `Permission`s, stored as the bits of one word. Only the bits of
known permissions can be set through `ofBits`; `mem_union`, `mem_inter` and `mem_compl` describe the
set operations by membership.
-/

namespace GuildRelay

/-- What a member may do in a guild or a channel. -/
inductive Permission where
  | createInstantInvite
  | kickMembers
  | banMembers
  | administrator
  | manageChannels
  | manageGuild
  | addReactions
  | viewAuditLog
  | prioritySpeaker
  | viewChannel
  | sendMessages
  | sendTtsMessages
  | manageMessages
  | embedLinks
  | attachFiles
  | readMessageHistory
  | mentionEveryone
  | useExternalEmojis
  | connect
  | speak
  | muteMembers
  | deafenMembers
  | moveMembers
  | useVad
  | changeNickname
  | manageNicknames
  | manageRoles
  | manageWebhooks
  | manageEmojis
deriving Repr, DecidableEq

namespace Permission

/-- The number of the permission's bit. -/
def index : Permission → Nat
  | createInstantInvite => 0
  | kickMembers => 1
  | banMembers => 2
  | administrator => 3
  | manageChannels => 4
  | manageGuild => 5
  | addReactions => 6
  | viewAuditLog => 7
  | prioritySpeaker => 8
  | viewChannel => 10
  | sendMessages => 11
  | sendTtsMessages => 12
  | manageMessages => 13
  | embedLinks => 14
  | attachFiles => 15
  | readMessageHistory => 16
  | mentionEveryone => 17
  | useExternalEmojis => 18
  | connect => 20
  | speak => 21
  | muteMembers => 22
  | deafenMembers => 23
  | moveMembers => 24
  | useVad => 25
  | changeNickname => 26
  | manageNicknames => 27
  | manageRoles => 28
  | manageWebhooks => 29
  | manageEmojis => 30

/-- The permission's name in capitals. -/
def name : Permission → String
  | createInstantInvite => "CREATE_INSTANT_INVITE"
  | kickMembers => "KICK_MEMBERS"
  | banMembers => "BAN_MEMBERS"
  | administrator => "ADMINISTRATOR"
  | manageChannels => "MANAGE_CHANNELS"
  | manageGuild => "MANAGE_GUILD"
  | addReactions => "ADD_REACTIONS"
  | viewAuditLog => "VIEW_AUDIT_LOG"
  | prioritySpeaker => "PRIORITY_SPEAKER"
  | viewChannel => "VIEW_CHANNEL"
  | sendMessages => "SEND_MESSAGES"
  | sendTtsMessages => "SEND_TTS_MESSAGES"
  | manageMessages => "MANAGE_MESSAGES"
  | embedLinks => "EMBED_LINKS"
  | attachFiles => "ATTACH_FILES"
  | readMessageHistory => "READ_MESSAGE_HISTORY"
  | mentionEveryone => "MENTION_EVERYONE"
  | useExternalEmojis => "USE_EXTERNAL_EMOJIS"
  | connect => "CONNECT"
  | speak => "SPEAK"
  | muteMembers => "MUTE_MEMBERS"
  | deafenMembers => "DEAFEN_MEMBERS"
  | moveMembers => "MOVE_MEMBERS"
  | useVad => "USE_VAD"
  | changeNickname => "CHANGE_NICKNAME"
  | manageNicknames => "MANAGE_NICKNAMES"
  | manageRoles => "MANAGE_ROLES"
  | manageWebhooks => "MANAGE_WEBHOOKS"
  | manageEmojis => "MANAGE_EMOJIS"

/-- All permissions, by their bits. -/
def all : List Permission :=
  [createInstantInvite, kickMembers, banMembers, administrator, manageChannels, manageGuild,
   addReactions, viewAuditLog, prioritySpeaker, viewChannel, sendMessages, sendTtsMessages,
   manageMessages, embedLinks, attachFiles, readMessageHistory, mentionEveryone,
   useExternalEmojis, connect, speak, muteMembers, deafenMembers, moveMembers, useVad,
   changeNickname, manageNicknames, manageRoles, manageWebhooks, manageEmojis]

end Permission

/-- A set of permissions. -/
structure Permissions where
  bits : UInt64
deriving Repr, DecidableEq

namespace Permissions

/-- The set holds the permission. -/
def has (s : Permissions) (p : Permission) : Bool :=
  s.bits.toBitVec.getLsbD p.index

/-- The empty set. -/
def none : Permissions := ⟨0⟩

/-- The set with one permission. -/
def only (p : Permission) : Permissions :=
  ⟨⟨BitVec.twoPow 64 p.index⟩⟩

/-- The union of two sets. -/
def union (s t : Permissions) : Permissions := ⟨s.bits ||| t.bits⟩

/-- The intersection of two sets. -/
def inter (s t : Permissions) : Permissions := ⟨s.bits &&& t.bits⟩

/-- The permissions of exactly one of two sets. -/
def symmDiff (s t : Permissions) : Permissions := ⟨s.bits ^^^ t.bits⟩

/-- The set with the given permissions. -/
def ofList (ps : List Permission) : Permissions :=
  ps.foldr (fun p s => (only p).union s) none

/-- Every permission. -/
def all : Permissions := ofList Permission.all

/-- The known permissions among the bits of a word. -/
def ofBits (bits : UInt64) : Permissions := ⟨bits &&& all.bits⟩

/-- The permissions that are not in a set. -/
def compl (s : Permissions) : Permissions := ofBits (~~~s.bits)

/-- The permissions of `s` that are not in `t`. -/
def diff (s t : Permissions) : Permissions := ⟨s.bits &&& ~~~t.bits⟩

/-- `s` holds all of `t`. -/
def contains (s t : Permissions) : Bool := s.bits &&& t.bits == t.bits

/-- The sets have a permission in common. -/
def intersects (s t : Permissions) : Bool := s.bits &&& t.bits != 0

/-- The set is empty. -/
def isNone (s : Permissions) : Bool := s.bits == 0

/-- The set holds every permission. -/
def isAll (s : Permissions) : Bool := s.bits &&& all.bits == all.bits

/-- The permissions of a set, by their bits. -/
def toList (s : Permissions) : List Permission :=
  Permission.all.filter s.has

/-! ## Named sets -/

/-- Every permission of text channels. -/
def allText : Permissions :=
  ofList [.viewChannel, .sendMessages, .sendTtsMessages, .manageMessages, .embedLinks,
    .attachFiles, .readMessageHistory, .mentionEveryone]

/-- Every permission of voice channels. -/
def allVoice : Permissions :=
  ofList [.connect, .speak, .muteMembers, .deafenMembers, .moveMembers, .useVad, .prioritySpeaker]

/-- Every permission that a channel can grant. -/
def allChannel : Permissions :=
  (allText.union allVoice).union
    (ofList [.createInstantInvite, .manageRoles, .manageChannels, .addReactions, .viewAuditLog])

/-- What reading a guild's ban list takes. -/
def banRead : Permissions := only .banMembers

/-! ## Membership -/

theorem mem_union (s t : Permissions) (p : Permission) :
    (s.union t).has p = (s.has p || t.has p) := by
  simp [union, has]

theorem mem_inter (s t : Permissions) (p : Permission) :
    (s.inter t).has p = (s.has p && t.has p) := by
  simp [inter, has]

theorem not_mem_none (p : Permission) : none.has p = false := by
  simp [none, has]

theorem mem_all (p : Permission) : all.has p = true := by
  cases p <;> decide

theorem mem_ofBits (bits : UInt64) (p : Permission) :
    (ofBits bits).has p = bits.toBitVec.getLsbD p.index := by
  have := mem_all p
  simp only [has] at this
  simp [ofBits, has, this]

theorem mem_compl (s : Permissions) (p : Permission) : s.compl.has p = !s.has p := by
  rw [compl, mem_ofBits, has]
  have : p.index < 64 := by cases p <;> decide
  simp [this]

end Permissions

end GuildRelay
