import GuildRelay.Proofs.Cache.BanCheck
/-!
# Ban data of guilds whose bans may not be read

The ban list of a guild is cleared by the first run that finds that the bot may not read it. Such a
run is asked for by events that may have taken the permission away, but not by all of them: a member
event may take a role from the bot, and a presence or a role event may do as much, and no run is
asked for. A `Watch` follows the hosts after the events that one bot receives, each with the run
that it asks for, and keeps the guilds where the bot lost the permission unnoticed.

`Watch.readable_or_lost` says that ban data is kept only of guilds whose bans the bot may read and
of those guilds. The next run for such a guild clears it, whatever happened before.
-/

namespace GuildRelay

namespace Tables

variable {t t' : Tables} {e : Event} {guildId : String}

/-- Something is kept about the bans of a guild: it is marked, or somebody is on its list. -/
def HasBanData (t : Tables) (guildId : String) : Prop :=
  guildId ∈ t.banInitializedGuildIds ∨ t.guildBannedUserIds guildId ≠ []

/-- Only ban events bring ban data about. -/
theorem Move.hasBanData (h : Move e t t') (he : e.guildOfBan = none)
    (hdata : t'.HasBanData guildId) : t.HasBanData guildId := by
  cases h with
  | guildGone gone channelIds =>
      rcases hdata with hmark | hlist
      · exact .inl (List.mem_filter.mp hmark).1
      · refine .inr fun hempty => hlist ?_
        show (if guildId = gone then [] else t.guildBannedUserIds guildId) = []
        rw [hempty, ite_self]
  | banned userIds hguild => exact nomatch he.symm.trans hguild
  | memberGone userId hg =>
      unfold Tables.removeMember at hdata
      split at hdata <;> exact hdata
  | _ => exact hdata

theorem Moves.hasBanData (h : Moves e t t') (he : e.guildOfBan = none)
    (hdata : t'.HasBanData guildId) : t.HasBanData guildId := by
  induction h with
  | refl => exact hdata
  | tail _ hmove ih => exact ih (hmove.hasBanData he hdata)

theorem hasBanData_put_list {other : String} (hne : guildId ≠ other) (userIds : List String) :
    ((Index.guildBanned other).put userIds t).HasBanData guildId ↔ t.HasBanData guildId := by
  have hlist : ((Index.guildBanned other).put userIds t).guildBannedUserIds guildId
      = t.guildBannedUserIds guildId := if_neg hne
  unfold HasBanData
  rw [hlist]
  exact Iff.rfl

theorem hasBanData_mark {other : String} (hne : guildId ≠ other)
    (hdata : (Index.banInitialized.put (insertAll [other] t.banInitializedGuildIds) t).HasBanData
      guildId) : t.HasBanData guildId := by
  refine hdata.imp_left fun hmark => ?_
  rcases mem_insertAll.mp hmark with hnew | hold
  · exact absurd (List.mem_singleton.mp hnew) hne
  · exact hold

theorem hasBanData_clear {other : String}
    (hdata : (Index.banInitialized.put (t.banInitializedGuildIds.filter (· != other))
      ((Index.guildBanned other).put [] t)).HasBanData guildId) :
    guildId ≠ other ∧ t.HasBanData guildId := by
  have hne : guildId ≠ other := by
    rintro rfl
    rcases hdata with hmark | hlist
    · exact bne_iff_ne.mp (List.mem_filter.mp hmark).2 rfl
    · exact hlist (if_pos rfl)
  refine ⟨hne, ?_⟩
  rcases hdata with hmark | hlist
  · exact .inl (List.mem_filter.mp hmark).1
  · exact (hasBanData_put_list hne []).mp (.inr hlist)

end Tables

/-! ## Runs for a ban list -/

/-- Others may write to ban data that nobody writes to. -/
theorem Host.Shows.of_quiet {ns : String} {s : Surroundings} {h : Host} {v : View}
    (hv : h.Shows ns s.quiet v) : h.Shows ns s v where
  faultless := hv.faultless
  other := hv.other
  plain k hk :=
    have hcell := hv.plain k hk
    ⟨hcell.lasting, fun _ => hcell.same rfl, hcell.onlySet⟩

/-- A program that does no harm leaves all values as they are. -/
theorem Program.Harmless.value_run {ns : String} {s : Surroundings} {v : View} {α : Type}
    {p : Program Key α} (hp : p.Harmless) (hs : s.banRuns = true) {h : Host}
    (hv : h.Shows ns s v) :
    ((p.mapKeys (Key.text ns)).run Host.backend h).2.value ns = h.value ns := by
  induction p generalizing h with
  | done a => rfl
  | call k op next ih =>
      obtain ⟨hop, hnext⟩ := hp
      refine (ih _ (hnext _) (hv.call_harmless hs hop)).trans ?_
      rcases hop with hread | ⟨hk, hban, hset⟩
      · exact Host.value_call_of_isRead hv.faultless hread
      · refine Host.value_call hv.faultless (.inr hset) fun _ => ?_
        have hcell := ((hv.plain k hk).onlySet hban).1
        rw [Host.value, Host.content, Cell.liveValue, hcell]
  | fetchBans guildId next ih => exact ih _ (hp _) (hv.fetchBans guildId)

namespace Cache

open GuildRelay.Action Tables

variable {s : Surroundings} {settings : CacheSettings} {t : Tables} {guildId : String}

/-- The ban data of other guilds is what it was, or gone. -/
def SparesOthers (guildId : String) (t t' : Tables) : Prop :=
  t'.Sound ∧ ∀ g, g ≠ guildId → t'.HasBanData g → t.HasBanData g

theorem leads_askBans {R : Except CacheError (List Ban) → Tables → Prop}
    (h : ∀ reply, R reply t) : (askBans guildId).Leads s t R :=
  fun reply => ⟨t, rfl, h reply⟩

theorem leads_fillBans (hg : PlainId guildId) (ht : t.Sound) :
    (fillBans guildId).Leads s t fun _ => SparesOthers guildId t := by
  have hlist : ∀ (t₁ : Tables) userIds, SparesOthers guildId t t₁ →
      SparesOthers guildId t ((Index.guildBanned guildId).put userIds t₁) :=
    fun _ userIds ht₁ => ⟨{ ht₁.1 with }, fun g hne hdata =>
      ht₁.2 g hne ((hasBanData_put_list hne userIds).mp hdata)⟩
  have hcleared := hlist t [] ⟨ht, fun _ _ => id⟩
  refine .bind (.ask trivial ⟨fun _ => rfl, fun _ => rfl⟩ (fun _ => Function.update_eq_self _ _)
    fun _ reply _ _ => ?_)
  cases reply with
  | true => exact .pure ⟨ht, fun _ _ => id⟩
  | false =>
      refine .bind (leads_dropIndex (Index.guildBanned guildId) hg ?_)
      refine .bind (leads_askBans fun reply => ?_)
      cases reply with
      | error e => exact hcleared
      | ok bans =>
          refine .bind (leads_addIds (Index.guildBanned guildId) _ hg ?_)
          refine leads_addIds Index.banInitialized [guildId] trivial ?_
          have hfilled := hlist _ (insertAll (bans.map fun ban => ban.user.id)
            ((Index.guildBanned guildId).get ((Index.guildBanned guildId).put [] t))) hcleared
          exact ⟨{ hfilled.1 with }, fun g hne hdata => hfilled.2 g hne (hasBanData_mark hne hdata)⟩

theorem leads_clearBans (hg : PlainId guildId) (ht : t.Sound) :
    (clearBans guildId).Leads s t fun r t' => r = .ok () ∧ t'.Sound
      ∧ ∀ g, t'.HasBanData g → g ≠ guildId ∧ t.HasBanData g := by
  refine .bind (leads_dropIndex (Index.guildBanned guildId) hg ?_)
  refine leads_removeId Index.banInitialized guildId trivial ⟨rfl, { ht with }, fun g hdata => ?_⟩
  exact hasBanData_clear hdata

variable {ns : String} {h h' : Host}

/-- A bot that may not read the bans of a guild clears what is kept about them. -/
theorem run_initializeBans_banData (hv : h.Shows ns s t.content) (ht : t.Sound)
    (hg : PlainId guildId) (botId : String) {r : Except CacheError Unit}
    (hrun : ((initializeBans guildId botId).mapKeys (Key.text ns)).runOn Host.backend h
      = (r, h')) :
    ∃ t', h'.Shows ns s t'.content ∧ SparesOthers guildId t t'
      ∧ (h.mayReadBans ns botId guildId = false → r = .ok () ∧ ¬t'.HasBanData guildId) := by
  obtain ⟨h₁, hread, hv₁⟩ := run_canReadBans hv ht botId hg
  rw [initializeBans_eq, runOn_bind, hread] at hrun
  cases hmay : h.mayReadBans ns botId guildId with
  | true =>
      rw [hmay] at hrun
      obtain ⟨t', hspares, hv'⟩ := (leads_fillBans hg ht).runOn hv₁ hrun
      exact ⟨t', hv', hspares, nofun⟩
  | false =>
      rw [hmay] at hrun
      obtain ⟨t', ⟨rfl, ht', hdata⟩, hv'⟩ := (leads_clearBans hg ht).runOn hv₁ hrun
      exact ⟨t', hv', ⟨ht', fun g _ hg => (hdata g hg).2⟩,
        fun _ => ⟨rfl, fun hself => (hdata guildId hself).1 rfl⟩⟩

/-- So does a run in the background, however often it is tried. -/
theorem run_attemptBackfill_banData (hg : PlainId guildId) (botId : String) (attempts : Nat)
    (hv : h.Shows ns s t.content) (ht : t.Sound) :
    ∃ t', (((attemptBackfill guildId botId attempts).mapKeys (Key.text ns)).run
        Host.backend h).2.Shows ns s t'.content ∧ SparesOthers guildId t t'
      ∧ (attempts ≠ 0 → h.mayReadBans ns botId guildId = false → ¬t'.HasBanData guildId) := by
  induction attempts generalizing h t with
  | zero => exact ⟨t, hv, ⟨ht, fun _ _ => id⟩, fun hzero => absurd rfl hzero⟩
  | succ attempts ih =>
      unfold attemptBackfill
      rw [Program.mapKeys_andThen, Program.run_andThen]
      cases hrun : ((ExceptT.run (initializeBans guildId botId)).mapKeys (Key.text ns)).run
          Host.backend h with
      | mk r h₁ =>
          obtain ⟨t₁, hv₁, hspares, hdenied⟩ := run_initializeBans_banData hv ht hg botId hrun
          have hdone : ∃ t', h₁.Shows ns s t'.content ∧ SparesOthers guildId t t'
              ∧ (attempts + 1 ≠ 0 → h.mayReadBans ns botId guildId = false →
                ¬t'.HasBanData guildId) :=
            ⟨t₁, hv₁, hspares, fun _ hmay => (hdenied hmay).2⟩
          cases r with
          | ok _ => exact hdone
          | error e =>
              simp only
              split
              · obtain ⟨t₂, hv₂, hspares₂, -⟩ := ih hv₁ hspares.1
                refine ⟨t₂, hv₂, ⟨hspares₂.1, fun g hne hdata =>
                  hspares.2 g hne (hspares₂.2 g hne hdata)⟩, fun _ hmay => ?_⟩
                exact nomatch (hdenied hmay).1
              · exact hdone

end Cache

/-! ## Watches -/

/-- A bot could read the bans of a guild before and cannot afterwards. -/
def Host.Loses (ns botId : String) (before after : Host) (guildId : String) : Prop :=
  before.mayReadBans ns botId guildId = true ∧ after.mayReadBans ns botId guildId = false

/-- The hosts after the events that one bot receives, each with the run that it asks for, and the
guilds where the bot lost the permission to read the bans since the last run. -/
inductive Watch (ns : String) (settings : CacheSettings) (botId : String) :
    Host → (String → Prop) → Prop
  | start {h : Host} : h.store = {} → (∀ n, h.faults n = none) →
      Watch ns settings botId h fun _ => False
  | wait {h : Host} {lost : String → Prop} {now : Nat} : Watch ns settings botId h lost →
      h.now ≤ now →
      Watch ns settings botId { h with now }
        fun g => lost g ∨ h.Loses ns botId { h with now } g
  | event {h h' : Host} {lost : String → Prop} {e : Event}
      {asked : Except CacheError (Option String)} : Watch ns settings botId h lost →
      e.IsWellNamed →
      ((Cache.apply settings botId e).mapKeys (Key.text ns)).runOn Host.backend h = (asked, h') →
      Watch ns settings botId
        (((Cache.backfillIfAsked true botId (asked.toOption.getD none)).mapKeys (Key.text ns)).run
          Host.backend h').2
        fun g => asked.toOption.getD none ≠ some g ∧ (lost g ∨ h.Loses ns botId h' g)

namespace Cache

open GuildRelay.Action Tables

variable {s : Surroundings} {settings : CacheSettings} {t : Tables} {ns : String} {h h' : Host}

/-- An event brings ban data about where the bot may read the bans, and nowhere else. -/
theorem run_apply_banData (hallows : s.Allows settings) (hv : h.Shows ns s t.content)
    (ht : t.Sound) (botId : String) {e : Event} (he : e.IsWellNamed)
    {asked : Except CacheError (Option String)}
    (hrun : ((apply settings botId e).mapKeys (Key.text ns)).runOn Host.backend h = (asked, h')) :
    (∀ g, asked.toOption.getD none = some g → PlainId g)
      ∧ ∃ t' : Tables, h'.Shows ns s t'.content ∧ t'.Sound
        ∧ ∀ g, t'.HasBanData g → t.HasBanData g ∨ h.mayReadBans ns botId g = true := by
  obtain ⟨hplain, t', hv', hmoves⟩ := run_apply_moves hallows hv ht botId he hrun
  by_cases hban : e.guildOfBan = none
  · exact ⟨hplain, t', hv', hmoves.sound ht, fun g hdata => .inl (hmoves.hasBanData hban hdata)⟩
  obtain ⟨rfl, guildId, -, change, -, -, hv'⟩ := run_apply_ban hv ht botId he hban hrun
  refine ⟨nofun, ?_⟩
  cases hmay : h.mayReadBans ns botId guildId with
  | false =>
      rw [hmay] at hv'
      exact ⟨t, hv', ht, fun g hdata => .inl hdata⟩
  | true =>
      rw [hmay] at hv'
      refine ⟨_, hv', { ht with }, fun g hdata => ?_⟩
      by_cases heq : g = guildId
      · exact .inr (heq ▸ hmay)
      · exact .inl ((hasBanData_put_list heq _).mp hdata)

/-- A run changes nothing about what the bot may read, and where the bot may not read bans nothing
is left of them. -/
theorem run_backfillIfAsked_banData (hs : s.banRuns = true) (hv : h.Shows ns s.quiet t.content)
    (ht : t.Sound) {botId : String} (hbot : botId ≠ "") {asked : Option String}
    (hplain : ∀ g, asked = some g → PlainId g) :
    ∃ (h' : Host) (t' : Tables),
      ((backfillIfAsked true botId asked).mapKeys (Key.text ns)).run Host.backend h = ((), h')
      ∧ h'.Shows ns s.quiet t'.content ∧ t'.Sound
      ∧ (∀ g, h'.mayReadBans ns botId g = h.mayReadBans ns botId g)
      ∧ ∀ g, t'.HasBanData g →
        (asked ≠ some g ∧ t.HasBanData g)
          ∨ (asked = some g ∧ h.mayReadBans ns botId g = true) := by
  cases asked with
  | none => exact ⟨h, t, rfl, hv, ht, fun _ => rfl, fun g hdata => .inl ⟨nofun, hdata⟩⟩
  | some guildId =>
      have hg := hplain guildId rfl
      have hrun : backfillIfAsked true botId (some guildId)
          = attemptBackfill guildId botId backfillAttempts := by
        simp [backfillIfAsked, hbot, backfillBans]
      obtain ⟨t', hv', hspares, hdenied⟩ :=
        run_attemptBackfill_banData hg botId backfillAttempts hv ht
      have hvalue := (harmless_attemptBackfill hg botId backfillAttempts).value_run hs hv.of_quiet
      rw [hrun]
      refine ⟨_, t', rfl, hv', hspares.1, fun g => ?_, fun g hdata => ?_⟩
      · exact Host.mayReadBans_congr hv.faultless hv'.faultless hvalue
      · by_cases heq : g = guildId
        · subst heq
          refine .inr ⟨rfl, ?_⟩
          rw [← Bool.not_eq_false]
          exact fun hmay => hdenied nofun hmay hdata
        · exact .inl ⟨fun hsome => heq (Option.some.inj hsome).symm, hspares.2 g heq hdata⟩

end Cache

namespace Watch

open Tables

variable {ns : String} {settings : CacheSettings} {botId : String} {h : Host}
variable {lost : String → Prop}

theorem exists_tables (hw : Watch ns settings botId h lost) (hbot : botId ≠ "") :
    ∃ t : Tables, h.Shows ns settings.surroundings.quiet t.content ∧ t.Sound
      ∧ ∀ g, t.HasBanData g → h.mayReadBans ns botId g = true ∨ lost g := by
  -- Whoever could read the bans before either still can, or loses the permission now.
  have hkeeps : ∀ {before after : Host} {lost : String → Prop} {g : String},
      before.mayReadBans ns botId g = true ∨ lost g →
      after.mayReadBans ns botId g = true ∨ (lost g ∨ before.Loses ns botId after g) := by
    intro before after lost g hbefore
    cases hafter : after.mayReadBans ns botId g with
    | true => exact .inl rfl
    | false => exact .inr (hbefore.elim (fun hmay => .inr ⟨hmay, hafter⟩) .inl)
  have hallows : settings.surroundings.quiet.Allows settings := settings.surroundings_allows
  induction hw with
  | start hstore hfaults =>
      refine ⟨{}, ?_, sound_empty, fun g hdata => ?_⟩
      · have hview : ({} : Tables).content = fun _ => ⟨none, [], []⟩ :=
          funext fun k => by cases k <;> rfl
        rw [hview]
        exact .of_empty hstore hfaults
      · exact hdata.elim (fun hmark => absurd hmark List.not_mem_nil) fun hlist => absurd rfl hlist
  | wait _ _ ih =>
      obtain ⟨t, hv, ht, hdata⟩ := ih
      exact ⟨t, hv.wait _, ht, fun g hg => hkeeps (hdata g hg)⟩
  | event _ he happly ih =>
      obtain ⟨t, hv, ht, hdata⟩ := ih
      obtain ⟨hplain, t₁, hv₁, ht₁, hdata₁⟩ :=
        Cache.run_apply_banData hallows hv ht botId he happly
      obtain ⟨h₂, t₂, hrun, hv₂, ht₂, hmay₂, hdata₂⟩ :=
        Cache.run_backfillIfAsked_banData rfl hv₁ ht₁ hbot hplain
      rw [hrun]
      refine ⟨t₂, hv₂, ht₂, fun g hg => ?_⟩
      rw [hmay₂]
      rcases hdata₂ g hg with ⟨hnot, hold⟩ | ⟨-, hmay⟩
      · have hbefore : _ ∨ _ := (hdata₁ g hold).elim (hdata g) .inl
        exact (hkeeps hbefore).imp_right fun hlost => ⟨hnot, hlost⟩
      · exact .inl hmay

/-- Ban data is kept only of guilds whose bans the bot may read, and of those where it lost the
permission since the last run without asking for another. -/
theorem readable_or_lost (hw : Watch ns settings botId h lost) (hbot : botId ≠ "")
    {guildId : String} (hg : PlainId guildId)
    (hdata : guildId ∈ h.members ns .banInitializedGuildIds
      ∨ h.members ns (.guildBannedUserIds guildId) ≠ []) :
    h.mayReadBans ns botId guildId = true ∨ lost guildId := by
  obtain ⟨t, hv, -, hreadable⟩ := hw.exists_tables hbot
  have hmarks : h.members ns .banInitializedGuildIds = t.banInitializedGuildIds :=
    hv.members_index Index.banInitialized trivial rfl
  have hlist : h.members ns (.guildBannedUserIds guildId) = t.guildBannedUserIds guildId :=
    hv.members_index (Index.guildBanned guildId) hg rfl
  rw [hmarks, hlist] at hdata
  exact hreadable guildId hdata

/-! ## A small watch -/

/-- The ban list of a guild has been filled for the bot that owns it. -/
theorem sample_filled : ∃ lost, Watch "relay" {} "3" Chronicle.sampleFilled.2 lost := by
  have hplain : PlainId "1" := by decide
  have hstart : Watch "relay" {} "3" Chronicle.sampleHost _ := .start rfl fun _ => rfl
  have hguild := hstart.event (e := .guildCreate { id := "1", ownerId := "3" })
    ⟨hplain, by decide, by decide⟩ (Prod.eta Chronicle.sampleGuild).symm
  have hfill : Cache.backfillIfAsked true "3" (some "1") = Cache.backfillBans "1" "3" := by
    simp [Cache.backfillIfAsked]
  rw [Chronicle.asked_sampleGuild, hfill] at hguild
  exact ⟨_, hguild⟩

/-- A snapshot in which the guild has another owner. -/
def sampleReady : Ready where
  user := { id := "3" }
  guilds := [{ id := "1", ownerId := "9" }]

/-- What is asked for after the snapshot, and the host then. -/
def sampleReset : Except CacheError (Option String) × Host :=
  ((Cache.apply {} "3" (.ready sampleReady)).mapKeys (Key.text "relay")).runOn Host.backend
    Chronicle.sampleFilled.2

/-- The bot has lost the permission, no run has been asked for, and the guild is still marked. -/
theorem sample_lost : ∃ lost, Watch "relay" {} "3" sampleReset.2 lost
    ∧ "1" ∈ sampleReset.2.members "relay" .banInitializedGuildIds
    ∧ sampleReset.2.mayReadBans "relay" "3" "1" = false := by
  have hnamed : (Event.ready sampleReady).IsWellNamed := by
    refine ⟨by decide, ?_, fun c hc => absurd hc List.not_mem_nil⟩
    exact List.forall_mem_singleton.mpr ⟨by decide, by decide, by decide⟩
  obtain ⟨lost, hfilled⟩ := sample_filled
  have hready := hfilled.event hnamed (Prod.eta sampleReset).symm
  have hreset : sampleReset.1.toOption.getD none = none
      ∧ "1" ∈ sampleReset.2.members "relay" .banInitializedGuildIds
      ∧ sampleReset.2.mayReadBans "relay" "3" "1" = false := by
    decide +kernel
  have hnothing : ∀ h : Host, (((Cache.backfillIfAsked true "3" none).mapKeys
      (Key.text "relay")).run Host.backend h).2 = h := fun _ => rfl
  rw [hreset.1, hnothing] at hready
  exact ⟨_, hready, hreset.2⟩

theorem sample_readable_or_lost : ∃ lost, Watch "relay" {} "3" sampleReset.2 lost ∧ lost "1" := by
  obtain ⟨lost, hw, hmark, hmay⟩ := sample_lost
  have hreadable := hw.readable_or_lost (by decide) (by decide) (.inl hmark)
  rw [hmay] at hreadable
  exact ⟨lost, hw, hreadable.resolve_left Bool.false_ne_true⟩

end Watch

end GuildRelay
