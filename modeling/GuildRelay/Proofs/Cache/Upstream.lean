import GuildRelay.Proofs.Cache.BanHistory
import GuildRelay.Proofs.Cache.Outcome
import GuildRelay.Proofs.Cache.Scripts
/-!
# What the source of ban lists can change

Ban lists come from outside, and nothing but ban data depends on them. The statement is about two
hosts that handle the same events while their sources answer as they like. Both keep showing one and
the same view in surroundings where others write to ban data.

Two things go into it. A handler reads no ban data, so that on hosts with one view it gets the same
answers, comes to the same result and leaves one view behind (`Program.Ensures.run_pair`). And a run
for a ban list, with all its attempts, writes nothing else, so that the view survives it on either
host (`Program.Harmless.shows_run`).
-/

namespace GuildRelay

/-! ## Two hosts with one view -/

namespace Program

variable {α : Type} {ns : String} {s : Surroundings}

/-- A program that reads no ban data comes to one result on hosts that show one view, and leaves one
view behind. -/
theorem Ensures.run_pair {Q : α → View → Prop} (hf : s.fading = false) :
    ∀ {p : Program Key α} {v : View} {h h' : Host}, p.Ensures s v Q → p.IgnoresBans →
      h.Shows ns s v → h'.Shows ns s v →
      ∃ a v', Q a v'
        ∧ ((p.mapKeys (Key.text ns)).run Host.backend h).1 = a
        ∧ ((p.mapKeys (Key.text ns)).run Host.backend h).2.Shows ns s v'
        ∧ ((p.mapKeys (Key.text ns)).run Host.backend h').1 = a
        ∧ ((p.mapKeys (Key.text ns)).run Host.backend h').2.Shows ns s v'
  | done a, v, _, _, hQ, _, hv, hv' => ⟨a, v, hQ, rfl, hv, rfl, hv'⟩
  | call k op next, v, h, h', ⟨hk, hop, hnext⟩, ⟨hsilent, hignores⟩, hv, hv' => by
      obtain ⟨live, reply, hlive, hreply, hok, hafter⟩ := hv.call hk hop
      obtain ⟨live', reply', hlive', hreply', hok', hafter'⟩ := hv'.call hk hop
      obtain rfl := hlive hf
      obtain rfl := hlive' hf
      -- Either the view tells the answer, or the answer tells nothing.
      have hsame : reply' = reply := by
        cases hs : s.shares k with
        | false => exact (hreply' hs).trans (hreply hs).symm
        | true => exact Operation.reply_unique (hsilent (Bool.and_eq_true_iff.mp hs).2) _ _
      subst hsame
      have hrest := (hnext _ _ hlive hreply).run_pair hf (hignores _) hafter hafter'
      simp only [mapKeys, Program.run, Host.backend, hok, hok']
      exact hrest

/-- A program that does no harm leaves the view as it is. -/
theorem Harmless.shows_run (hs : s.banRuns = true) {v : View} :
    ∀ {p : Program Key α} {h : Host}, p.Harmless → h.Shows ns s v →
      ((p.mapKeys (Key.text ns)).run Host.backend h).2.Shows ns s v
  | done _, _, _, hv => hv
  | call _ _ _, _, ⟨hop, hnext⟩, hv => (hnext _).shows_run hs (hv.call_harmless hs hop)
  | fetchBans guildId _, _, hnext, hv => (hnext _).shows_run hs (hv.fetchBans guildId)

end Program

namespace Cache

open Tables

variable {ns : String} {settings : CacheSettings}

theorem harmless_backfillIfAsked (hasBanSource : Bool) (botId : String) {asked : Option String}
    (hasked : ∀ g, asked = some g → PlainId g) :
    (backfillIfAsked hasBanSource botId asked).Harmless := by
  cases asked with
  | none => exact trivial
  | some guildId =>
      simp only [backfillIfAsked]
      split
      · exact harmless_attemptBackfill (hasked guildId rfl) botId _
      · exact trivial

/-! ## Histories -/

/-- What events come to that bots receive one after the other: the result of each, and the host when
it has been handled. -/
def handleAll (ns : String) (settings : CacheSettings) (hasBanSource : Bool) :
    List (String × Event) → Host → List (Except CacheError Unit × Host)
  | [], _ => []
  | (botId, e) :: events, h =>
    let handled := ((handle settings hasBanSource botId e).mapKeys (Key.text ns)).run Host.backend h
    handled :: handleAll ns settings hasBanSource events handled.2

/-- An event that is handled on hosts with one view has one result and leaves one view behind,
whatever their sources answer. -/
theorem handle_pair (hexpiry : settings.expiry = none) {t : Tables} (ht : t.Sound) (botId : String)
    {e : Event} (he : e.IsWellNamed) (hasSource hasSource' : Bool) {h h' : Host}
    (hv : h.Shows ns settings.surroundings t.content)
    (hv' : h'.Shows ns settings.surroundings t.content) :
    let handled := ((handle settings hasSource botId e).mapKeys (Key.text ns)).run Host.backend h
    let handled' := ((handle settings hasSource' botId e).mapKeys (Key.text ns)).run Host.backend h'
    handled.1 = handled'.1 ∧ ∃ t' : Tables, t'.Sound
      ∧ handled.2.Shows ns settings.surroundings t'.content
      ∧ handled'.2.Shows ns settings.surroundings t'.content := by
  have hf := CacheSettings.not_fading hexpiry
  have hleads : (apply settings botId e).Leads settings.surroundings t fun r t' =>
      (∀ asked, r = .ok asked → asked = bansToCheck e) ∧ t' = t.updated settings botId e := by
    refine leads_apply ((leads_update_updated hf settings.surroundings_allows he ht).mono ?_)
    rintro (error | _) t' rfl
    · exact ⟨nofun, rfl⟩
    · exact ⟨fun _ h => (Except.ok.inj h).symm, rfl⟩
  obtain ⟨r, _, ⟨t', rfl, hasked, rfl⟩, hr, hw, hr', hw'⟩ :=
    Program.Ensures.run_pair hf hleads (scripted_apply settings botId e).ignoresBans hv hv'
  unfold handle
  simp only [Program.mapKeys_andThen, Program.run_andThen, hr, hr']
  have hsound := ht.updated settings botId he
  cases r with
  | error error => exact ⟨rfl, _, hsound, hw, hw'⟩
  | ok asked =>
      have hplain : ∀ g, asked = some g → PlainId g := fun g hg =>
        plainId_of_bansToCheck he ((hasked asked rfl).symm.trans hg)
      simp only [Program.mapKeys_andThen, Program.run_andThen]
      exact ⟨rfl, _, hsound,
        (harmless_backfillIfAsked hasSource botId hplain).shows_run rfl hw,
        (harmless_backfillIfAsked hasSource' botId hplain).shows_run rfl hw'⟩

/-- Two outcomes of an event differ in ban data at most. -/
def AgreesButBans (ns : String) (x x' : Except CacheError Unit × Host) : Prop :=
  x.1 = x'.1 ∧ ∀ name, (∀ k : Key, k.IsPlain → k.isBan = true → k.text ns ≠ name) →
    x.2.content name = x'.2.content name

theorem agreesButBans_of_shows (hexpiry : settings.expiry = none) {v : View}
    {x x' : Except CacheError Unit × Host} (hresult : x.1 = x'.1)
    (hv : x.2.Shows ns settings.surroundings v) (hv' : x'.2.Shows ns settings.surroundings v) :
    AgreesButBans ns x x' := by
  refine ⟨hresult, fun name hname => ?_⟩
  refine hv'.content_congr_of_plain hv (CacheSettings.not_fading hexpiry) fun k hk htext => ?_
  exact ⟨Bool.eq_false_iff.mpr fun hban => hname k hk hban htext, rfl⟩

theorem handleAll_pair (hexpiry : settings.expiry = none) (hasSource hasSource' : Bool) :
    ∀ {events : List (String × Event)} {t : Tables} {h h' : Host},
      (∀ x ∈ events, x.2.IsWellNamed) → t.Sound →
      h.Shows ns settings.surroundings t.content → h'.Shows ns settings.surroundings t.content →
      List.Forall₂ (AgreesButBans ns) (handleAll ns settings hasSource events h)
        (handleAll ns settings hasSource' events h')
  | [], _, _, _, _, _, _, _ => .nil
  | (botId, e) :: events, t, h, h', hevents, ht, hv, hv' => by
      obtain ⟨hfirst, hrest⟩ := List.forall_mem_cons.mp hevents
      obtain ⟨hresult, t', ht', hw, hw'⟩ :=
        handle_pair hexpiry ht botId hfirst hasSource hasSource' hv hv'
      exact .cons (agreesButBans_of_shows hexpiry hresult hw hw')
        (handleAll_pair hexpiry hasSource hasSource' hrest ht' hw hw')

/-- Two caches that start empty and handle the same events, with any sources of ban lists or none,
come to the same results all along, and after each event they keep the same under every name that is
not that of ban data. -/
theorem ban_sources_change_only_ban_data (hexpiry : settings.expiry = none)
    {events : List (String × Event)} (hevents : ∀ x ∈ events, x.2.IsWellNamed)
    (hasSource hasSource' : Bool) {h h' : Host} (hstore : h.store = {}) (hstore' : h'.store = {})
    (hfaults : ∀ n, h.faults n = none) (hfaults' : ∀ n, h'.faults n = none) :
    List.Forall₂ (AgreesButBans ns) (handleAll ns settings hasSource events h)
      (handleAll ns settings hasSource' events h') := by
  refine handleAll_pair hexpiry hasSource hasSource' hevents sound_empty ?_ ?_
  · exact content_empty ▸ .of_empty hstore hfaults
  · exact content_empty ▸ .of_empty hstore' hfaults'

/-- A source that tells of a ban is believed, and that is all it changes. -/
theorem sample_source_changes_only_ban_data :
    let events := [("3", Event.guildCreate { id := "1", ownerId := "3" })]
    let told := handleAll "relay" {} true events
      { banLists := fun _ _ => .ok [{ user := { id := "9" } }] }
    let untold := handleAll "relay" {} false events {}
    told.map (·.2.members "relay" (.guildBannedUserIds "1")) = [["9"]]
      ∧ untold.map (·.2.members "relay" (.guildBannedUserIds "1")) = [[]]
      ∧ List.Forall₂ (AgreesButBans "relay") told untold := by
  refine ⟨by decide +kernel, by decide +kernel, ?_⟩
  refine ban_sources_change_only_ban_data rfl ?_ true false rfl rfl (fun _ => rfl) fun _ => rfl
  refine List.forall_mem_singleton.mpr ⟨by decide, ?_, ?_⟩ <;> decide

end Cache

end GuildRelay
