import GuildRelay.Proofs.Cache.History
import GuildRelay.Proofs.Cache.Outcome
/-!
# Channels keep their newest messages

A message is put in front of those of its channel, and what then lies behind the last position that
is retained is cut off. However often this is done, what is left is the beginning of one long list,
in which every message stands that has come since the channel was deleted: `Applied.received` reads
this list off the log, and `World.Follows.newest_messages` says that a lookup finds the beginning
of it.

Only two kinds of events are about messages, and the others leave them alone whether they succeed
or fail (`Cache.leads_messages_alone`). Messages do not expire, so nothing is asked of the settings.
But whether a channel is deleted may depend on what has expired; the log tells whether it was.
-/

namespace GuildRelay

/-- How many messages of a channel are retained. A list has no positions beyond the last one, so
that a larger number makes no difference. -/
def CacheSettings.retained (settings : CacheSettings) : Nat :=
  min settings.maxChannelMessages (Cache.lastPosition + 1)

/-- The event brings a message or ends a channel. -/
def Event.isOnMessages : Event → Bool
  | .messageCreate _ => true
  | .channelDelete _ => true
  | _ => false

/-- The messages of a channel, from the latest one back to when the channel was last deleted. -/
def Applied.received (channelId : String) : List Applied → List Message
  | [] => []
  | a :: log =>
    match a.event with
    | .messageCreate m =>
      if m.channelId = channelId then m :: received channelId log else received channelId log
    | .channelDelete c =>
      if c.id = channelId ∧ a.succeeded then [] else received channelId log
    | _ => received channelId log

namespace Applied

variable (channelId : String) (result : Except CacheError (Option String)) (log : List Applied)

theorem received_messageCreate (m : Message) :
    received channelId (⟨.messageCreate m, result⟩ :: log)
      = if m.channelId = channelId then m :: received channelId log
        else received channelId log := rfl

theorem received_channelDelete (c : Channel) :
    received channelId (⟨.channelDelete c, result⟩ :: log)
      = if c.id = channelId ∧ result.isOk then [] else received channelId log := rfl

theorem received_of_other {e : Event} (he : e.isOnMessages = false) :
    received channelId (⟨e, result⟩ :: log) = received channelId log := by
  cases e <;> first | rfl | cases he

end Applied

/-- Cutting a list that was cut before is cutting the whole of it. -/
theorem take_cons_take {α : Type} (n : Nat) (a : α) (as : List α) :
    (a :: as.take n).take n = (a :: as).take n := by
  cases n with
  | zero => rfl
  | succ n =>
      rw [List.take_succ_cons, List.take_succ_cons, List.take_take, Nat.min_eq_left n.le_succ]

namespace Tables

theorem messages_addMessage {settings : CacheSettings} (hpos : settings.maxChannelMessages ≠ 0)
    (t : Tables) (m : Message) (channelId : String) :
    (t.addMessage settings m).messages channelId =
      if channelId = m.channelId then (m :: t.messages m.channelId).take settings.retained
      else t.messages channelId := by
  have hretained : min (settings.maxChannelMessages - 1) Cache.lastPosition + 1
      = settings.retained := by
    unfold CacheSettings.retained
    omega
  simp only [addMessage, setMessages, slice_zero, hretained]

theorem messages_removeMember (t : Tables) (g : Guild) (userId : String) :
    (t.removeMember g userId).messages = t.messages := by
  unfold removeMember
  split <;> rfl

theorem messages_takeReady (t : Tables) (botId : String) (r : Ready) :
    (t.takeReady botId r).messages = t.messages :=
  List.foldlRecOn r.guilds _ (motive := fun t' : Tables => t'.messages = t.messages) rfl
    fun _ h _ _ => h

end Tables

namespace Cache

open GuildRelay.Action Tables

variable {s : Surroundings} {settings : CacheSettings} {t : Tables}

/-! ## Events that leave messages alone -/

theorem leads_addMember_messages (hs : s.Allows settings) {m : Member} (hm : m.IsWellNamed)
    (ht : t.Sound) : (addMember settings m).Leads s t fun _ t' => t'.messages = t.messages :=
  leads_addMember hs hm ht (fun _ => rfl) fun _ _ _ _ => rfl

theorem leads_changeGuild_messages (hs : s.Allows settings) {guildId : String}
    (change : Guild → Guild) (hid : ∀ g, (change g).id = g.id) (hguild : PlainId guildId)
    (ht : t.Sound) :
    (guild guildId >>= fun g => write settings (.guild g.id) (change g)).Leads s t
      fun _ t' => t'.messages = t.messages :=
  leads_changeGuild hs hid hguild ht (fun _ => rfl) fun _ _ => rfl

/-- Actions one after the other leave messages alone, if each one does from sound tables. -/
theorem leads_forM_messages {β : Type} {f : β → CacheAction Unit} {bs : List β} (e : Event)
    (ht : t.Sound)
    (hmoves : ∀ b ∈ bs, ∀ t : Tables, t.Sound → (f b).Leads s t fun _ t' => Moves e t t')
    (hkeeps : ∀ b ∈ bs, ∀ t : Tables, t.Sound →
      (f b).Leads s t fun _ t' => t'.messages = t.messages) :
    (bs.forM f).Leads s t fun _ t' => t'.messages = t.messages := by
  refine .forM_of_invariant (I := fun t' => t'.Sound ∧ t'.messages = t.messages)
    (fun _ h => h.2) ⟨ht, rfl⟩ fun b hb t' ⟨ht', hsame⟩ => ?_
  refine ((hmoves b hb t' ht').and (hkeeps b hb t' ht')).mono ?_
  rintro (_ | _) t'' ⟨hmoved, hkept⟩
  · exact hkept.trans hsame
  · exact ⟨hmoved.sound ht', hkept.trans hsame⟩

theorem leads_addPresence_messages (hs : s.Allows settings) {guildId : String} {p : Presence}
    (hguild : PlainId guildId) (hp : PlainId p.user.id) (ht : t.Sound) :
    (addPresence settings guildId p).Leads s t fun _ t' => t'.messages = t.messages := by
  refine leads_addPresence hs hguild hp ht (fun _ => rfl) (fun _ _ _ => rfl) fun g m hg _ hm => ?_
  have hset := ht.setPresence hg p
  exact leads_addMember_messages hs (hm.isWellNamed ht hguild hp) hset

/-- Events that neither bring a message nor end a channel leave all messages alone, whether they
succeed or fail. -/
theorem leads_messages_alone (hs : s.Allows settings) {botId : String} {e : Event}
    (hother : e.isOnMessages = false) (he : e.IsWellNamed) (ht : t.Sound) :
    (update settings botId e).Leads s t fun _ t' => t'.messages = t.messages := by
  cases e with
  | messageCreate m => cases hother
  | channelDelete c => cases hother
  | ready r =>
      refine (leads_applyReady_updated hs he).mono fun _ t' h => ?_
      rw [h, messages_takeReady]
  | guildCreate g | guildUpdate g => exact leads_addGuild hs he fun _ _ => rfl
  | guildDelete g => exact leads_removeGuild he ht fun _ _ => rfl
  | guildMemberAdd m | guildMemberUpdate m => exact leads_addMember_messages hs he ht
  | guildMemberRemove m =>
      exact leads_removeMember hs he ht (fun _ => rfl)
        fun g _ => messages_removeMember t g m.user.id
  | guildMembersChunk guildId members =>
      have hnamed : ∀ m ∈ members, { m with guildId }.IsWellNamed := fun m hm => ⟨he.1, he.2 m hm⟩
      exact leads_forM_messages (.guildMembersChunk guildId members) ht
        (fun m hm _ ht' => leads_addMember_moves hs _ (hnamed m hm) ht')
        fun m hm _ ht' => leads_addMember_messages hs (hnamed m hm) ht'
  | guildRoleCreate guildId r | guildRoleUpdate guildId r =>
      exact leads_changeGuild_messages hs (·.addRole r) (fun _ => rfl) he ht
  | guildRoleDelete guildId roleId =>
      exact leads_changeGuild_messages hs (·.removeRole roleId) (fun _ => rfl) he ht
  | guildEmojisUpdate guildId emojis =>
      exact leads_forM_messages (.guildEmojisUpdate guildId emojis) ht
        (fun emoji _ _ ht' => leads_changeGuild_moves hs _ (·.addEmoji emoji) (fun _ => rfl)
          (fun _ => rfl) (fun _ => rfl) (fun _ => rfl) he ht')
        fun emoji _ _ ht' => leads_changeGuild_messages hs (·.addEmoji emoji) (fun _ => rfl) he ht'
  | guildBanAdd guildId u => exact leads_addBan he ht (fun _ => rfl) fun _ => rfl
  | guildBanRemove guildId u => exact leads_removeBan he ht (fun _ => rfl) fun _ => rfl
  | channelCreate c | channelUpdate c =>
      exact leads_addChannel hs he ht (fun _ _ _ => rfl) (fun _ _ => rfl) fun _ _ _ _ _ => rfl
  | channelPinsUpdate p => exact leads_updatePins hs he ht (fun _ => rfl) fun _ _ => rfl
  | presenceUpdate guildId p => exact leads_addPresence_messages hs he.1 he.2 ht
  | _ => exact .pure rfl

/-! ## One event -/

/-- An event that ends a channel drops its messages, unless it fails. -/
theorem leads_removeChannel_messages (hs : s.Allows settings) {c : Channel} (hc : c.IsWellNamed)
    (ht : t.Sound) :
    (removeChannel settings c).Leads s t fun r t' => ∀ channelId, t'.messages channelId =
      if c.id = channelId ∧ r.isOk then [] else t.messages channelId := by
  have hgone : ∀ t' : Tables, t'.messages = t.messages → ∀ channelId,
      (t'.removeChannel c.id).messages channelId =
        if c.id = channelId ∧ (Except.ok () : Except CacheError Unit).isOk then []
        else t.messages channelId := by
    intro t' hsame channelId
    show (if channelId = c.id then [] else t'.messages channelId) = _
    rw [hsame]
    by_cases h : channelId = c.id <;> simp [h, eq_comm, Except.isOk, Except.toBool]
  have hkept : ∀ channelId, t.messages channelId =
      if c.id = channelId ∧ (Except.error .notFound : Except CacheError Unit).isOk then []
      else t.messages channelId := fun channelId =>
    (if_neg fun h => nomatch h.2).symm
  exact leads_removeChannel hs hc ht (fun _ => hkept) (fun _ _ _ => hgone t rfl)
    (fun _ _ _ _ => hkept) fun _ g _ _ _ => hgone (t.setGuild (g.removeChannel c.id)) rfl

/-- If the beginnings of what the log tells are kept before an event, so they are after it. -/
theorem leads_apply_messages (hs : s.Allows settings) {botId : String} {e : Event}
    (he : e.IsWellNamed) (ht : t.Sound) {log : List Applied}
    (hkept : ∀ c, t.messages c = (Applied.received c log).take settings.retained) :
    (apply settings botId e).Leads s t fun r t' =>
      ∀ c, t'.messages c = (Applied.received c (⟨e, r⟩ :: log)).take settings.retained := by
  refine leads_apply ?_
  cases hmessages : e.isOnMessages with
  | false =>
      refine (leads_messages_alone hs hmessages he ht).mono fun r t' hsame c => ?_
      rw [Applied.received_of_other _ _ _ hmessages, hsame, hkept]
  | true =>
      cases e with
      | messageCreate m =>
          refine leads_addMessage he (fun hzero c => ?_) fun hpos c => ?_
          · have hnothing : settings.retained = 0 := by
              rw [CacheSettings.retained, hzero, Nat.zero_min]
            rw [hkept, hnothing, List.take_zero, List.take_zero]
          · rw [messages_addMessage hpos, hkept, hkept]
            rw [Applied.received_messageCreate]
            by_cases hc : c = m.channelId
            · rw [if_pos hc, if_pos hc.symm, hc, take_cons_take]
            · rw [if_neg hc, if_neg (Ne.symm hc)]
      | channelDelete old =>
          refine (leads_removeChannel_messages hs he ht).mono fun r t' hgone c => ?_
          rw [Applied.received_channelDelete, isOk_map, hgone, hkept]
          split
          · exact List.take_nil.symm
          · rfl
      | _ => cases hmessages

/-- The messages in the tables are found as they are. -/
theorem leads_channelMessages {channelId : String} (hc : PlainId channelId) :
    (channelMessages channelId).Leads s t fun r _ => r = .ok (t.messages channelId) := by
  refine .bind (.ask hc ⟨fun _ => rfl, fun hban => nomatch hban⟩
    (fun _ => Function.update_eq_self _ _) fun _ texts _ htexts => ?_)
  have htexts : texts = (t.messages channelId).map fun m => (encode m).json :=
    (htexts (Bool.and_false _)).trans (slice_all _)
  have hread : ∀ ms : List Message,
      (ms.map fun m => (encode m).json).mapM (readText (α := Message)) = .ok ms := by
    intro ms
    induction ms with
    | nil => rfl
    | cons m ms ih =>
        rw [List.map_cons, List.mapM_cons, readText_json, ih]
        rfl
  refine ⟨t, rfl, ?_⟩
  rw [htexts]
  exact hread (t.messages channelId)

end Cache

namespace World

open Tables

variable {ns : String} {settings : CacheSettings} {log : List Applied} {w : World}

theorem answer_channelMessages {s : Surroundings} {t : Tables} (hw : w.host.Shows ns s t.content)
    {channelId : String} (hc : PlainId channelId) :
    w.answer ns (.channelMessages channelId) = .ok (t.messages channelId) :=
  answer_eq hw (q := .channelMessages channelId) (Cache.leads_channelMessages hc)

/-- The messages that are found of a channel are the newest of those that have come since it was
last deleted, as many as are retained. That is as many as the settings say, unless there are more
messages than positions in a list, which no store can hold. -/
theorem Follows.newest_messages (h : Follows ns settings Event.IsWellNamed log w)
    {channelId : String} (hc : PlainId channelId) :
    w.answer ns (.channelMessages channelId)
      = .ok ((Applied.received channelId log).take settings.retained)
    ∧ (settings.maxChannelMessages ≤ Cache.lastPosition + 1
        ∨ (Applied.received channelId log).length ≤ Cache.lastPosition + 1 →
      w.answer ns (.channelMessages channelId)
        = .ok ((Applied.received channelId log).take settings.maxChannelMessages)) := by
  obtain ⟨t, -, hkept, hw⟩ := h.exists_tables
    (I := fun log t => ∀ c, t.messages c = (Applied.received c log).take settings.retained)
    settings.surroundings_allows rfl (fun _ he => he) (fun _ => List.take_nil.symm)
    fun _ _ _ _ he ht hI => Cache.leads_apply_messages settings.surroundings_allows he ht hI
  have hanswer : w.answer ns (.channelMessages channelId)
      = .ok ((Applied.received channelId log).take settings.retained) := by
    rw [← hkept]
    exact answer_channelMessages hw.host hc
  refine ⟨hanswer, fun hfits => hanswer.trans (congrArg _ ?_)⟩
  unfold CacheSettings.retained
  rcases hfits with hfew | hshort
  · rw [Nat.min_eq_left hfew]
  · rw [← List.take_take, List.take_of_length_le hshort]

/-- A message in the channel of the small guild. -/
def sampleMessage (content : String) : Message where
  id := content
  channelId := "2"
  content := content

/-- The bot has received three messages, and nothing else. -/
def sampleChat (settings : CacheSettings) : List Applied × World :=
  ["ahoy", "land", "anchor"].foldl
    (fun (log, w) content =>
      let e := .messageCreate (sampleMessage content)
      (⟨e, w.result "relay" settings "3" e⟩ :: log, w.after "relay" settings "3" e))
    ([], { host := {} })

theorem sampleChat_follows (settings : CacheSettings) :
    Follows "relay" settings Event.IsWellNamed (sampleChat settings).1 (sampleChat settings).2 := by
  have hnamed : ∀ content, (Event.messageCreate (sampleMessage content)).IsWellNamed :=
    fun _ => show PlainId "2" by decide
  have hstart : Follows "relay" settings Event.IsWellNamed [] { host := {} } :=
    .start rfl fun _ => rfl
  exact ((hstart.after "3" (hnamed "ahoy")).after "3" (hnamed "land")).after "3" (hnamed "anchor")

/-- Where two messages are retained, the first of three is gone. -/
theorem sampleChat_newest_messages :
    (sampleChat { maxChannelMessages := 2 }).2.answer "relay" (.channelMessages "2")
      = .ok [sampleMessage "anchor", sampleMessage "land"] :=
  ((sampleChat_follows _).newest_messages (by decide)).2 (.inl (by decide))

end World

end GuildRelay
