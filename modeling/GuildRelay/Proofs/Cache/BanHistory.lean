import GuildRelay.Cache.Service
import GuildRelay.Proofs.Cache.Cuts
import GuildRelay.Proofs.Cache.Moves
/-!
# The history of a ban list

Three things write to the ban list of a guild: runs that fill it, ban events, and the end of the
guild. What the list should be is told by the fetches and the ban events alone, as they follow one
another (`BanNote`): the last list that was fetched, changed by the events that came after it
(`BanNote.bans`).

A `Chronicle` is all that may happen while every run is finished before anything else begins: the
run that is under way is kept as a program and makes one call at a time, and the notes are taken as
things happen. Its main result, `Chronicle.marked_lists_are_exact`, is about the guilds that are
marked as initialized, whichever of the writers came when. It follows the run call by call
(`Program.Records`), for a fetch is only allowed while the guild is not marked, and that is a
question about a moment within the run.
-/

namespace GuildRelay

/-! ## Notes -/

/-- What decides how a ban list should look. -/
inductive BanNote where
  | fetched (guildId : String) (userIds : List String)
  | banned (guildId userId : String)
  | unbanned (guildId userId : String)
deriving DecidableEq

namespace BanNote

/-- The ban list of a guild by the notes, of which the latest is the first: the list that was
fetched last and what happened to it since. There is none if no list was fetched. -/
def bans (guildId : String) : List BanNote → Option (List String)
  | [] => none
  | fetched g userIds :: older =>
    if g = guildId then some (insertAll userIds []) else bans guildId older
  | banned g userId :: older =>
    if g = guildId then (bans guildId older).map (insertAll [userId]) else bans guildId older
  | unbanned g userId :: older =>
    if g = guildId then (bans guildId older).map fun ids => ids.filter (· != userId)
    else bans guildId older

/-- The note says how the ban list of a guild changes, and nothing about other guilds. -/
structure Changes (note : BanNote) (guildId : String) (change : List String → List String) :
    Prop where
  self : ∀ notes, bans guildId (note :: notes) = (bans guildId notes).map change
  other : ∀ notes g, g ≠ guildId → bans g (note :: notes) = bans g notes

theorem changes_banned (guildId userId : String) :
    (banned guildId userId).Changes guildId (insertAll [userId]) :=
  ⟨fun _ => if_pos rfl, fun _ _ hne => if_neg (Ne.symm hne)⟩

theorem changes_unbanned (guildId userId : String) :
    (unbanned guildId userId).Changes guildId fun userIds => userIds.filter (· != userId) :=
  ⟨fun _ => if_pos rfl, fun _ _ hne => if_neg (Ne.symm hne)⟩

/-- The note of a fetch, if it was answered with a list. -/
def ofFetch (guildId : String) : Except CacheError (List Ban) → List BanNote
  | .ok bans => [fetched guildId (bans.map fun ban => ban.user.id)]
  | .error _ => []

end BanNote

/-- The host says that a bot may read the bans of a guild. -/
def Host.mayReadBans (h : Host) (ns botId guildId : String) : Bool :=
  match (((Cache.canReadBans botId guildId).mapKeys (Key.text ns)).runOn Host.backend h).1 with
  | .ok allowed => allowed
  | .error _ => false

/-- The note of a ban event, if the bot that receives it may read the bans of the guild. -/
def Host.banNotes (h : Host) (ns botId : String) : Event → List BanNote
  | .guildBanAdd guildId u =>
    if h.mayReadBans ns botId guildId then [.banned guildId u.id] else []
  | .guildBanRemove guildId u =>
    if h.mayReadBans ns botId guildId then [.unbanned guildId u.id] else []
  | _ => []

/-! ## Chronicles -/

/-- What may have happened to a host, with the run that is under way and the notes that were taken.
Time may pass at any moment. An event is applied, and a ban list is asked for, when no run is under
way; a run makes its next call. -/
inductive Chronicle (ns : String) (settings : CacheSettings) (hasBanSource : Bool) :
    Host → Program Key Unit → List BanNote → Prop
  | start {h : Host} : h.store = {} → (∀ n, h.faults n = none) →
      Chronicle ns settings hasBanSource h (.done ()) []
  | wait {h : Host} {run : Program Key Unit} {notes : List BanNote} {now : Nat} :
      Chronicle ns settings hasBanSource h run notes → h.now ≤ now →
      Chronicle ns settings hasBanSource { h with now } run notes
  | event {h h' : Host} {notes : List BanNote} {e : Event} {botId : String}
      {asked : Except CacheError (Option String)} :
      Chronicle ns settings hasBanSource h (.done ()) notes → e.IsWellNamed →
      ((Cache.apply settings botId e).mapKeys (Key.text ns)).runOn Host.backend h = (asked, h') →
      Chronicle ns settings hasBanSource h'
        (Cache.backfillIfAsked hasBanSource botId (asked.toOption.getD none))
        (h.banNotes ns botId e ++ notes)
  | request {h : Host} {notes : List BanNote} {guildId : String} (botId : String) :
      Chronicle ns settings hasBanSource h (.done ()) notes → PlainId guildId →
      Chronicle ns settings hasBanSource h
        ((ExceptT.run (Cache.initializeBans guildId botId)).andThen fun _ => .done ()) notes
  | call {h : Host} {notes : List BanNote} {k : Key} {op : Operation}
      {next : Except CacheError op.Reply → Program Key Unit} :
      Chronicle ns settings hasBanSource h (.call k op next) notes →
      Chronicle ns settings hasBanSource (h.call (k.text ns) op).2
        (next (h.call (k.text ns) op).1) notes
  | fetch {h : Host} {notes : List BanNote} {guildId : String}
      {next : Except CacheError (List Ban) → Program Key Unit} :
      Chronicle ns settings hasBanSource h (.fetchBans guildId next) notes →
      Chronicle ns settings hasBanSource (h.fetchBans guildId).2
        (next (h.fetchBans guildId).1) (BanNote.ofFetch guildId (h.fetchBans guildId).1 ++ notes)

/-! ## Runs that are noted -/

namespace Program

variable {α β : Type} {s : Surroundings} {v : View} {notes : List BanNote}

/-- The program fetches no ban list. -/
def FetchesNothing : Program Key α → Prop
  | done _ => True
  | call _ _ next => ∀ reply, (next reply).FetchesNothing
  | fetchBans _ _ => False

theorem OnlyReads.fetchesNothing : ∀ {p : Program Key α}, p.OnlyReads → p.FetchesNothing
  | done _, _ => trivial
  | call _ _ _, ⟨_, hnext⟩ => fun reply => (hnext reply).fetchesNothing

/-- As `Ensures`, with the notes that are taken meanwhile. In addition the program fetches the ban
lists of those guilds only that are not marked. -/
def Records (s : Surroundings) :
    Program Key α → View → List BanNote → (α → View → List BanNote → Prop) → Prop
  | done a, v, notes, Q => Q a v notes
  | call k op next, v, notes, Q =>
    k.IsPlain ∧ op.Fits s k ∧
      ∀ live reply, (s.fading = false → live = true) →
        (s.shares k = false → reply = ((v k).answer live op).1) →
          (next (.ok reply)).Records s (Function.update v k ((v k).answer live op).2) notes Q
  | fetchBans guildId next, v, notes, Q =>
    guildId ∉ (v .banInitializedGuildIds).members ∧
      ∀ reply, (next reply).Records s v (BanNote.ofFetch guildId reply ++ notes) Q

theorem Records.mono {Q Q' : α → View → List BanNote → Prop}
    (h : ∀ a v notes, Q a v notes → Q' a v notes) :
    ∀ {p : Program Key α} {v : View} {notes : List BanNote},
      p.Records s v notes Q → p.Records s v notes Q'
  | done a, v, notes, hp => h a v notes hp
  | call _ _ _, _, _, ⟨hk, hop, hnext⟩ =>
      ⟨hk, hop, fun live reply hl hr => (hnext live reply hl hr).mono h⟩
  | fetchBans _ _, _, _, ⟨hmark, hnext⟩ => ⟨hmark, fun reply => (hnext reply).mono h⟩

theorem Records.andThen {f : α → Program Key β} {Q : β → View → List BanNote → Prop} :
    ∀ {p : Program Key α} {v : View} {notes : List BanNote},
      (p.Records s v notes fun a v' notes' => (f a).Records s v' notes' Q) →
      (p.andThen f).Records s v notes Q
  | done _, _, _, hp => hp
  | call _ _ _, _, _, ⟨hk, hop, hnext⟩ =>
      ⟨hk, hop, fun live reply hl hr => (hnext live reply hl hr).andThen⟩
  | fetchBans _ _, _, _, ⟨hmark, hnext⟩ => ⟨hmark, fun reply => (hnext reply).andThen⟩

/-- A program that fetches nothing adds nothing to the notes. -/
theorem Ensures.records {Q : α → View → List BanNote → Prop} :
    ∀ {p : Program Key α} {v : View}, p.FetchesNothing →
      (p.Ensures s v fun a v' => Q a v' notes) → p.Records s v notes Q
  | done _, _, _, hp => hp
  | call _ _ _, _, hno, ⟨hk, hop, hnext⟩ =>
      ⟨hk, hop, fun live reply hl hr => (hnext live reply hl hr).records (hno (.ok reply))⟩
  | fetchBans _ _, _, hno, _ => hno.elim

end Program

namespace Action

variable {α β : Type} {s : Surroundings} {t : Tables} {notes : List BanNote}

/-- The action fetches no ban list. -/
def FetchesNothing (a : Action Key α) : Prop :=
  (ExceptT.run a).FetchesNothing

theorem fetchesNothing_pure (x : α) : (pure x : Action Key α).FetchesNothing := trivial

theorem fetchesNothing_ask (k : Key) (op : Operation) : (ask k op).FetchesNothing :=
  fun _ => trivial

/-- From the tables and the notes the action leads to a result, tables and notes of which `Q`
holds, without a fetch for a marked guild. -/
def Records (s : Surroundings) (a : Action Key α) (t : Tables) (notes : List BanNote)
    (Q : Except CacheError α → Tables → List BanNote → Prop) : Prop :=
  (ExceptT.run a).Records s t.content notes
    fun r v notes' => ∃ t', v = t'.content ∧ Q r t' notes'

theorem Leads.records {a : Action Key α} {Q : Except CacheError α → Tables → List BanNote → Prop}
    (hno : a.FetchesNothing) (ha : a.Leads s t fun r t' => Q r t' notes) :
    a.Records s t notes Q :=
  Program.Ensures.records hno ha

theorem Records.bind {a : Action Key α} {f : α → Action Key β}
    {Q : Except CacheError β → Tables → List BanNote → Prop}
    (ha : a.Records s t notes fun r t' notes' => match r with
      | .ok x => (f x).Records s t' notes' Q
      | .error e => Q (.error e) t' notes') : (a >>= f).Records s t notes Q := by
  unfold Records
  rw [run_bind]
  refine Program.Records.andThen (Program.Records.mono ?_ ha)
  rintro (e | x) v notes' ⟨t', rfl, h⟩
  · exact ⟨t', rfl, h⟩
  · exact h

theorem records_askBans {guildId : String}
    {Q : Except CacheError (List Ban) → Tables → List BanNote → Prop}
    (hmark : guildId ∉ t.banInitializedGuildIds)
    (h : ∀ reply, Q reply t (BanNote.ofFetch guildId reply ++ notes)) :
    (askBans guildId).Records s t notes Q :=
  ⟨hmark, fun reply => ⟨t, rfl, h reply⟩⟩

/-- Actions run one after the other, until one fails. -/
theorem runOn_bind {σ : Type} {backend : Backend σ} {rename : Key → String} {st : σ}
    (a : Action Key α) (f : α → Action Key β) :
    ((a >>= f).mapKeys rename).runOn backend st
      = match (a.mapKeys rename).runOn backend st with
        | (.ok x, st') => ((f x).mapKeys rename).runOn backend st'
        | (.error e, st') => (.error e, st') := by
  show ((ExceptT.run (a >>= f)).mapKeys rename).run backend st = _
  rw [run_bind, Program.mapKeys_andThen, Program.run_andThen]
  show _ = match ((ExceptT.run a).mapKeys rename).run backend st with
    | (.ok x, st') => _
    | (.error e, st') => _
  rcases ((ExceptT.run a).mapKeys rename).run backend st with ⟨_ | _, st'⟩ <;> rfl

/-- Where an action leads, its run on a host ends. -/
theorem Leads.runOn {ns : String} {a : Action Key α} {h h' : Host} {r : Except CacheError α}
    {Q : Except CacheError α → Tables → Prop} (ha : a.Leads s t Q)
    (hv : h.Shows ns s t.content)
    (hrun : (a.mapKeys (Key.text ns)).runOn Host.backend h = (r, h')) :
    ∃ t', Q r t' ∧ h'.Shows ns s t'.content := by
  obtain ⟨_, ⟨t', rfl, hq⟩, hv'⟩ := Program.Ensures.run ha hv
  have hresult : ((ExceptT.run a).mapKeys (Key.text ns)).run Host.backend h = (r, h') := hrun
  rw [hresult] at hq hv'
  exact ⟨t', hq, hv'⟩

end Action

/-! ## Faithful ban lists -/

namespace Tables

/-- The ban lists of marked guilds are what the notes say. -/
def Faithful (t : Tables) (notes : List BanNote) : Prop :=
  ∀ g ∈ t.banInitializedGuildIds, PlainId g
    ∧ BanNote.bans g notes = some (t.guildBannedUserIds g)

variable {t t' : Tables} {notes : List BanNote} {e : Event}

theorem faithful_empty : ({} : Tables).Faithful [] :=
  fun _ h => absurd h List.not_mem_nil

/-- Only ban events change the ban list of a guild that stays marked. -/
theorem Move.faithful (h : Move e t t') (he : e.guildOfBan = none) (ht : t.Faithful notes) :
    t'.Faithful notes := by
  cases h with
  | guildGone guildId channelIds =>
      intro g hg
      obtain ⟨hmarked, hne⟩ := List.mem_filter.mp hg
      have hlist : (t.removeGuild guildId channelIds).guildBannedUserIds g
          = t.guildBannedUserIds g := if_neg (bne_iff_ne.mp hne)
      rw [hlist]
      exact ht g hmarked
  | banned userIds hguild => exact nomatch he.symm.trans hguild
  | memberGone userId hg =>
      unfold Tables.removeMember
      split <;> exact ht
  | _ => exact ht

theorem Moves.faithful (h : Moves e t t') (he : e.guildOfBan = none) (ht : t.Faithful notes) :
    t'.Faithful notes := by
  induction h with
  | refl => exact ht
  | tail _ hmove ih => exact hmove.faithful he ih

/-- A ban list that is dropped is not missed if its guild is not marked. -/
theorem Faithful.drop {guildId : String} (ht : t.Faithful notes)
    (hmark : guildId ∉ t.banInitializedGuildIds) :
    ((Index.guildBanned guildId).put [] t).Faithful notes := by
  intro g hg
  have hne : g ≠ guildId := fun h => hmark (h ▸ hg)
  have hlist : ((Index.guildBanned guildId).put [] t).guildBannedUserIds g
      = t.guildBannedUserIds g := if_neg hne
  rw [hlist]
  exact ht g hg

/-- A ban list that is dropped with the mark of its guild is not missed. -/
theorem Faithful.clear (ht : t.Faithful notes) (guildId : String) :
    (Index.banInitialized.put (t.banInitializedGuildIds.filter (· != guildId))
      ((Index.guildBanned guildId).put [] t)).Faithful notes := by
  intro g hg
  obtain ⟨hmarked, hne⟩ := List.mem_filter.mp hg
  have hlist : ((Index.guildBanned guildId).put [] t).guildBannedUserIds g
      = t.guildBannedUserIds g := if_neg (bne_iff_ne.mp hne)
  show PlainId g ∧ _ = some (((Index.guildBanned guildId).put [] t).guildBannedUserIds g)
  rw [hlist]
  exact ht g hmarked

/-- A guild may be marked when its ban list is the one that was fetched last. -/
theorem Faithful.fill {guildId : String} (ht : t.Faithful notes) (hg : PlainId guildId)
    (userIds : List String) :
    (Index.banInitialized.put (insertAll [guildId] t.banInitializedGuildIds)
      ((Index.guildBanned guildId).put (insertAll userIds []) t)).Faithful
        (.fetched guildId userIds :: notes) := by
  intro g hmem
  by_cases heq : g = guildId
  · subst heq
    refine ⟨hg, ?_⟩
    simp [BanNote.bans, Index.guildBanned, Index.banInitialized]
  · have hmarked : g ∈ t.banInitializedGuildIds := by
      rcases mem_insertAll.mp hmem with hnew | hold
      · exact absurd (List.mem_singleton.mp hnew) heq
      · exact hold
    have hlist : ((Index.guildBanned guildId).put (insertAll userIds []) t).guildBannedUserIds g
        = t.guildBannedUserIds g := if_neg heq
    obtain ⟨hplain, hbans⟩ := ht g hmarked
    refine ⟨hplain, ?_⟩
    show (if guildId = g then _ else _)
      = some (((Index.guildBanned guildId).put (insertAll userIds []) t).guildBannedUserIds g)
    rw [if_neg (Ne.symm heq), hlist, hbans]

/-- The ban list may be changed as a note says. -/
theorem Faithful.change {guildId : String} {note : BanNote} {change : List String → List String}
    (ht : t.Faithful notes) (hnote : note.Changes guildId change) :
    ((Index.guildBanned guildId).put (change (t.guildBannedUserIds guildId)) t).Faithful
      (note :: notes) := by
  intro g hmarked
  obtain ⟨hplain, hbans⟩ := ht g hmarked
  refine ⟨hplain, ?_⟩
  by_cases heq : g = guildId
  · subst heq
    rw [hnote.self, hbans]
    simp [Index.guildBanned]
  · have hlist : ((Index.guildBanned guildId).put (change (t.guildBannedUserIds guildId))
        t).guildBannedUserIds g = t.guildBannedUserIds g := if_neg heq
    rw [hnote.other _ g heq, hlist, hbans]

end Tables

namespace Cache

open GuildRelay.Action Tables

variable {s : Surroundings} {settings : CacheSettings} {t : Tables} {notes : List BanNote}

theorem fetchesNothing_canReadBans (botId guildId : String) :
    (canReadBans botId guildId).FetchesNothing :=
  Program.OnlyReads.fetchesNothing (onlyReads_canReadBans botId guildId)

/-- Asking for a ban list keeps all lists faithful, however the question and the fetch are
answered. -/
theorem records_initializeBans (hs : s.banRuns = false) {guildId : String} (hg : PlainId guildId)
    (botId : String) (ht : t.Sound) (hfaithful : t.Faithful notes) :
    (initializeBans guildId botId).Records s t notes
      fun _ t' notes' => t'.Sound ∧ t'.Faithful notes' := by
  have hshares : s.shares .banInitializedGuildIds = false := by
    rw [Surroundings.shares, hs, Bool.false_and]
  refine .bind (Leads.records (fetchesNothing_canReadBans botId guildId)
    (leads_canReadBans hg ht fun allowed _ => ?_))
  cases allowed with
  | false =>
      refine .bind (Leads.records (fetchesNothing_ask _ _)
        (leads_dropIndex (Index.guildBanned guildId) hg ?_))
      refine Leads.records (fetchesNothing_ask _ _)
        (leads_removeId Index.banInitialized guildId trivial ?_)
      exact ⟨{ ht with }, hfaithful.clear guildId⟩
  | true =>
      refine .bind (Leads.records (fetchesNothing_ask _ _) (.ask trivial
        ⟨fun _ => rfl, fun _ => rfl⟩ (fun _ => Function.update_eq_self _ _)
        fun live reply _ hreply => ?_))
      have hreply : reply = t.banInitializedGuildIds.contains guildId := hreply hshares
      cases hmark : t.banInitializedGuildIds.contains guildId with
      | true =>
          rw [hreply, hmark]
          exact Leads.records (fetchesNothing_pure ()) (.pure ⟨ht, hfaithful⟩)
      | false =>
          rw [hreply, hmark]
          have hmark : guildId ∉ t.banInitializedGuildIds := by
            simpa using hmark
          refine .bind (Leads.records (fetchesNothing_ask _ _)
            (leads_dropIndex (Index.guildBanned guildId) hg ?_))
          refine .bind (records_askBans hmark fun fetched => ?_)
          cases fetched with
          | error e => exact ⟨{ ht with }, hfaithful.drop hmark⟩
          | ok bans =>
              refine .bind (Leads.records (fetchesNothing_ask _ _)
                (leads_addIds (Index.guildBanned guildId) _ hg ?_))
              refine Leads.records (fetchesNothing_ask _ _)
                (leads_addIds Index.banInitialized [guildId] trivial ?_)
              refine ⟨{ ht with }, ?_⟩
              have hfill := (hfaithful.drop hmark).fill hg (bans.map fun ban => ban.user.id)
              have hempty : (Index.guildBanned guildId).get
                  ((Index.guildBanned guildId).put [] t) = [] := if_pos rfl
              rw [hempty]
              exact hfill

/-- The view is that of sound tables with faithful ban lists. -/
def ShowsFaithful (v : View) (notes : List BanNote) : Prop :=
  ∃ t : Tables, v = t.content ∧ t.Sound ∧ t.Faithful notes

theorem records_attemptBackfill (hs : s.banRuns = false) {guildId : String} (hg : PlainId guildId)
    (botId : String) (attempts : Nat) (ht : t.Sound) (hfaithful : t.Faithful notes) :
    (attemptBackfill guildId botId attempts).Records s t.content notes
      fun _ => ShowsFaithful := by
  induction attempts generalizing t notes with
  | zero => exact ⟨t, rfl, ht, hfaithful⟩
  | succ attempts ih =>
      refine .andThen ((records_initializeBans hs hg botId ht hfaithful).mono ?_)
      rintro r _ notes' ⟨t', rfl, ht', hfaithful'⟩
      cases r with
      | ok _ => exact ⟨t', rfl, ht', hfaithful'⟩
      | error e =>
          simp only
          split
          · exact ih ht' hfaithful'
          · exact ⟨t', rfl, ht', hfaithful'⟩

/-- A guild whose ban list is looked at after an event has a plain id. -/
theorem plainId_of_bansToCheck {e : Event} (he : e.IsWellNamed) {guildId : String}
    (h : bansToCheck e = some guildId) : PlainId guildId := by
  cases e with
  | guildCreate g => exact Option.some.inj h ▸ he.1
  | guildUpdate g => exact Option.some.inj h ▸ he.1
  | guildRoleCreate g r => exact Option.some.inj (Option.ite_none_right_eq_some.mp h).2 ▸ he
  | guildRoleUpdate g r => exact Option.some.inj (Option.ite_none_right_eq_some.mp h).2 ▸ he
  | guildRoleDelete g r => exact Option.some.inj h ▸ he
  | _ => cases h

theorem records_backfillIfAsked (hs : s.banRuns = false) (hasBanSource : Bool) (botId : String)
    {asked : Option String} (hasked : ∀ g, asked = some g → PlainId g) (ht : t.Sound)
    (hfaithful : t.Faithful notes) :
    (backfillIfAsked hasBanSource botId asked).Records s t.content notes
      fun _ => ShowsFaithful := by
  unfold backfillIfAsked
  cases asked with
  | none => exact ⟨t, rfl, ht, hfaithful⟩
  | some g =>
      simp only
      split
      · exact records_attemptBackfill hs (hasked g rfl) botId backfillAttempts ht hfaithful
      · exact ⟨t, rfl, ht, hfaithful⟩

variable {ns : String} {h : Host}

/-- What a bot may read is told by a run that changes nothing. -/
theorem run_canReadBans (hv : h.Shows ns s t.content) (ht : t.Sound) (botId : String)
    {guildId : String} (hg : PlainId guildId) :
    ∃ h', ((canReadBans botId guildId).mapKeys (Key.text ns)).runOn Host.backend h
        = (.ok (h.mayReadBans ns botId guildId), h')
      ∧ h'.Shows ns s t.content := by
  have hleads : (canReadBans botId guildId).Leads s t
      fun r t' => (∃ allowed, r = .ok allowed) ∧ t' = t :=
    leads_canReadBans hg ht fun allowed _ => ⟨⟨allowed, rfl⟩, rfl⟩
  cases hrun : ((canReadBans botId guildId).mapKeys (Key.text ns)).runOn Host.backend h with
  | mk r h' =>
      obtain ⟨_, ⟨⟨allowed, rfl⟩, rfl⟩, hv'⟩ := hleads.runOn hv hrun
      have hmay : h.mayReadBans ns botId guildId = allowed := by
        rw [Host.mayReadBans, hrun]
      rw [hmay]
      exact ⟨h', rfl, hv'⟩

/-- A change of the tables that is made if the bot may read bans. -/
theorem run_ifMayReadBans (hv : h.Shows ns s t.content) (ht : t.Sound) {botId guildId : String}
    (hg : PlainId guildId) {change : CacheAction Unit} {t' : Tables}
    (hchange : change.Leads s t fun r t'' => r = .ok () ∧ t'' = t')
    {asked : Except CacheError (Option String)} {h' : Host}
    (hrun : (((do if ← canReadBans botId guildId then change : CacheAction Unit) >>=
        fun _ => pure none : CacheAction (Option String)).mapKeys (Key.text ns)).runOn
          Host.backend h = (asked, h')) :
    asked = .ok none
      ∧ h'.Shows ns s (if h.mayReadBans ns botId guildId then t' else t).content := by
  obtain ⟨h₁, hread, hv₁⟩ := run_canReadBans hv ht botId hg
  rw [runOn_bind, runOn_bind, hread] at hrun
  cases hmay : h.mayReadBans ns botId guildId with
  | false =>
      rw [hmay] at hrun
      cases hrun
      exact ⟨rfl, hv₁⟩
  | true =>
      cases hdone : (change.mapKeys (Key.text ns)).runOn Host.backend h₁ with
      | mk r h₂ =>
          obtain ⟨_, ⟨rfl, rfl⟩, hv₂⟩ := hchange.runOn hv₁ hdone
          rw [hmay] at hrun
          simp only [if_true] at hrun
          rw [hdone] at hrun
          cases hrun
          exact ⟨rfl, hv₂⟩

/-- An event comes to moves, and the guild that it asks a run for has a plain id. -/
theorem run_apply_moves (hallows : s.Allows settings) (hv : h.Shows ns s t.content)
    (ht : t.Sound) (botId : String) {e : Event} (he : e.IsWellNamed)
    {asked : Except CacheError (Option String)} {h' : Host}
    (hrun : ((apply settings botId e).mapKeys (Key.text ns)).runOn Host.backend h = (asked, h')) :
    (∀ g, asked.toOption.getD none = some g → PlainId g)
      ∧ ∃ t' : Tables, h'.Shows ns s t'.content ∧ Moves e t t' := by
  have hleads : (apply settings botId e).Leads s t fun r t' =>
      (∀ g, r.toOption.getD none = some g → PlainId g) ∧ Moves e t t' := by
    refine leads_apply ((leads_update hallows he ht).mono fun r t' hmoves => ⟨?_, hmoves⟩)
    intro g hg
    cases r with
    | error _ => cases hg
    | ok _ => exact plainId_of_bansToCheck he hg
  obtain ⟨t', ⟨hplain, hmoves⟩, hv'⟩ := hleads.runOn hv hrun
  exact ⟨hplain, t', hv', hmoves⟩

/-- A ban event changes the ban list of its guild as its note says, or nothing if the bot may not
read the bans. -/
theorem run_apply_ban (hv : h.Shows ns s t.content) (ht : t.Sound) (botId : String) {e : Event}
    (he : e.IsWellNamed) (hban : e.guildOfBan ≠ none) {asked : Except CacheError (Option String)}
    {h' : Host}
    (hrun : ((apply settings botId e).mapKeys (Key.text ns)).runOn Host.backend h = (asked, h')) :
    asked = .ok none ∧ ∃ guildId note change, BanNote.Changes note guildId change
      ∧ h.banNotes ns botId e = (if h.mayReadBans ns botId guildId then [note] else [])
      ∧ h'.Shows ns s (if h.mayReadBans ns botId guildId then
          (Index.guildBanned guildId).put (change (t.guildBannedUserIds guildId)) t
        else t).content := by
  cases e with
  | guildBanAdd guildId u =>
      obtain ⟨rfl, hv'⟩ := run_ifMayReadBans hv ht he
        (leads_addIds (Index.guildBanned guildId) [u.id] he ⟨rfl, rfl⟩) hrun
      exact ⟨rfl, guildId, _, _, BanNote.changes_banned guildId u.id, rfl, hv'⟩
  | guildBanRemove guildId u =>
      obtain ⟨rfl, hv'⟩ := run_ifMayReadBans hv ht he
        (leads_removeId (Index.guildBanned guildId) u.id he ⟨rfl, rfl⟩) hrun
      exact ⟨rfl, guildId, _, _, BanNote.changes_unbanned guildId u.id, rfl, hv'⟩
  | _ => exact absurd rfl hban

end Cache

/-! ## Exact ban lists -/

namespace Chronicle

open Tables

variable {ns : String} {settings : CacheSettings} {hasBanSource : Bool} {h : Host}
variable {run : Program Key Unit} {notes : List BanNote}

/-- The run that is under way will leave faithful ban lists. -/
theorem records (hc : Chronicle ns settings hasBanSource h run notes) :
    ∃ v, h.Shows ns settings.surroundings.quiet v
      ∧ run.Records settings.surroundings.quiet v notes fun _ => Cache.ShowsFaithful := by
  have hallows : settings.surroundings.quiet.Allows settings := settings.surroundings_allows
  induction hc with
  | start hstore hfaults =>
      refine ⟨_, .of_empty hstore hfaults, {}, ?_, sound_empty, faithful_empty⟩
      exact funext fun k => by cases k <;> rfl
  | wait _ _ ih =>
      obtain ⟨v, hv, hrun⟩ := ih
      exact ⟨v, hv.wait _, hrun⟩
  | @event h h' notes e botId asked _ he happly ih =>
      obtain ⟨_, hv, t, rfl, ht, hfaithful⟩ := ih
      by_cases hban : e.guildOfBan = none
      · obtain ⟨hplain, t', hv', hmoves⟩ :=
          Cache.run_apply_moves hallows hv ht botId he happly
        have ht' := hmoves.sound ht
        have hfaithful' := hmoves.faithful hban hfaithful
        have hnotes : h.banNotes ns botId e = [] := by
          cases e <;> first | rfl | cases hban
        rw [hnotes]
        exact ⟨_, hv', Cache.records_backfillIfAsked rfl hasBanSource botId hplain ht' hfaithful'⟩
      · obtain ⟨rfl, guildId, note, change, hchange, hnotes, hv'⟩ :=
          Cache.run_apply_ban hv ht botId he hban happly
        rw [hnotes]
        cases hmay : h.mayReadBans ns botId guildId with
        | false =>
            rw [hmay] at hv'
            exact ⟨_, hv', t, rfl, ht, hfaithful⟩
        | true =>
            rw [hmay] at hv'
            exact ⟨_, hv', _, rfl, { ht with }, hfaithful.change hchange⟩
  | request botId _ hg ih =>
      obtain ⟨_, hv, t, rfl, ht, hfaithful⟩ := ih
      refine ⟨_, hv, .andThen ((Cache.records_initializeBans rfl hg botId ht hfaithful).mono ?_)⟩
      rintro _ _ notes' ⟨t', rfl, hend⟩
      exact ⟨t', rfl, hend⟩
  | call _ ih =>
      obtain ⟨v, hv, hk, hop, hnext⟩ := ih
      obtain ⟨live, reply, hlive, hreply, hok, hafter⟩ := hv.call hk hop
      refine ⟨_, hafter, ?_⟩
      rw [hok]
      exact hnext live reply hlive hreply
  | fetch _ ih =>
      obtain ⟨v, hv, -, hnext⟩ := ih
      exact ⟨v, hv.fetchBans _, hnext _⟩

/-- Whenever no run is under way, the ban list of every guild that is marked as initialized is the
one that was fetched last, with the changes by all ban events since whose bot could read the bans
when the event came. No ban list is fetched while its guild is marked. -/
theorem marked_lists_are_exact (hc : Chronicle ns settings hasBanSource h run notes) :
    (run = .done () → ∀ guildId ∈ h.members ns .banInitializedGuildIds,
        BanNote.bans guildId notes = some (h.members ns (.guildBannedUserIds guildId)))
      ∧ ∀ guildId next, run = .fetchBans guildId next →
        guildId ∉ h.members ns .banInitializedGuildIds := by
  obtain ⟨v, hv, hrun⟩ := hc.records
  have hmarks : h.members ns .banInitializedGuildIds = (v .banInitializedGuildIds).members :=
    hv.members_eq trivial rfl
  constructor
  · rintro rfl guildId hmarked
    obtain ⟨t, rfl, -, hfaithful⟩ := hrun
    rw [hmarks] at hmarked
    obtain ⟨hg, hbans⟩ := hfaithful guildId hmarked
    rw [hbans]
    exact congrArg some (hv.members_index (Index.guildBanned guildId) hg rfl).symm
  · rintro guildId next rfl
    rw [hmarks]
    exact hrun.1

/-! ## A small chronicle -/

/-- The notes after a run that nothing interrupts. -/
def notesAfter (ns : String) : Program Key Unit → Host → List BanNote → List BanNote
  | .done _, _, notes => notes
  | .call k op next, h, notes =>
    notesAfter ns (next (h.call (k.text ns) op).1) (h.call (k.text ns) op).2 notes
  | .fetchBans guildId next, h, notes =>
    notesAfter ns (next (h.fetchBans guildId).1) (h.fetchBans guildId).2
      (BanNote.ofFetch guildId (h.fetchBans guildId).1 ++ notes)

/-- A run that is under way may be finished. -/
theorem finish : ∀ {run : Program Key Unit} {h : Host} {notes : List BanNote},
    Chronicle ns settings hasBanSource h run notes →
      Chronicle ns settings hasBanSource ((run.mapKeys (Key.text ns)).run Host.backend h).2
        (.done ()) (notesAfter ns run h notes)
  | .done _, _, _, hc => hc
  | .call _ _ _, _, _, hc => hc.call.finish
  | .fetchBans _ _, _, _, hc => hc.fetch.finish

/-- A host whose ban lists name one user. -/
def sampleHost : Host where
  banLists _ _ := .ok [{ user := { id := "7" } }]

/-- What is asked for when a guild has become known to the bot that owns it, and the host then. -/
def sampleGuild : Except CacheError (Option String) × Host :=
  ((Cache.apply {} "3" (.guildCreate { id := "1", ownerId := "3" })).mapKeys
    (Key.text "relay")).runOn Host.backend sampleHost

theorem asked_sampleGuild : sampleGuild.1.toOption.getD none = some "1" := by
  decide +kernel

/-- The run that fills the ban list of the guild, and the host then. -/
def sampleFilled : Unit × Host :=
  ((Cache.backfillBans "1" "3").mapKeys (Key.text "relay")).run Host.backend sampleGuild.2

/-- What is asked for after somebody else has been banned, and the host then. -/
def sampleBanned : Except CacheError (Option String) × Host :=
  ((Cache.apply {} "3" (.guildBanAdd "1" { id := "8" })).mapKeys (Key.text "relay")).runOn
    Host.backend sampleFilled.2

theorem sample_marked_lists_are_exact :
    ∃ notes, Chronicle "relay" {} true sampleBanned.2 (.done ()) notes
      ∧ "1" ∈ sampleBanned.2.members "relay" .banInitializedGuildIds
      ∧ BanNote.bans "1" notes
        = some (sampleBanned.2.members "relay" (.guildBannedUserIds "1")) := by
  have hplain : PlainId "1" := by decide
  have hstart : Chronicle "relay" {} true sampleHost (.done ()) [] := .start rfl fun _ => rfl
  have hguild := hstart.event (e := .guildCreate { id := "1", ownerId := "3" })
    ⟨hplain, by decide, by decide⟩ (Prod.eta sampleGuild).symm
  rw [asked_sampleGuild] at hguild
  have hbanned := hguild.finish.event (e := .guildBanAdd "1" { id := "8" }) hplain
    (Prod.eta sampleBanned).symm
  have hend : sampleBanned.1.toOption.getD none = none
      ∧ "1" ∈ sampleBanned.2.members "relay" .banInitializedGuildIds := by
    decide +kernel
  obtain ⟨hasked, hmarked⟩ := hend
  rw [hasked] at hbanned
  exact ⟨_, hbanned, hmarked, hbanned.marked_lists_are_exact.1 rfl "1" hmarked⟩

end Chronicle

end GuildRelay
