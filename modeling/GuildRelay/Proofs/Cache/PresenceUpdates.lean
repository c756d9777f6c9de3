import GuildRelay.Proofs.Cache.RolesAndEmojis
/-!
# Presences accumulate

Updates of a presence are partial, and a guild record keeps one presence of each user, into which
they are merged one after the other. `Presence.accumulated` tells the outcome without merging: whose
presence it is comes from the first update, roles and activity from the last, and every other field
from the last update that fills it in. `World.Continues.presence_accumulates` says that this is what
a lookup finds, whatever other events come in between.

Most of these write the guild record again, with the list of presences in it. Those that bring no
guild leave the list alone (`Event.spares_presenceOf`), and a guild that comes without the list
takes over the cached one (`Tables.presenceOf_takeGuild`).
-/

namespace GuildRelay

/-! ## What updates come to -/

/-- The last of the texts that is not blank, or the blank text. -/
def lastFilled (texts : List String) : String :=
  (texts.filter fun text => !text.isEmpty).getLastD ""

theorem lastFilled_concat (texts : List String) (text : String) :
    lastFilled (texts ++ [text]) = unlessBlank text (lastFilled texts) := by
  unfold lastFilled unlessBlank
  by_cases h : text.isEmpty = true <;> simp [h]

theorem lastFilled_singleton (text : String) : lastFilled [text] = text := by
  by_cases h : text = "" <;> simp [lastFilled, h]

namespace Presence

/-- What a presence and the updates that follow it come to. -/
def accumulated (first : Presence) (rest : List Presence) : Presence where
  user :=
    { id := first.user.id
      username := lastFilled ((first :: rest).map (·.user.username))
      discriminator := lastFilled ((first :: rest).map (·.user.discriminator))
      avatar := lastFilled ((first :: rest).map (·.user.avatar))
      bot := first.user.bot }
  status := ((first :: rest).filterMap (·.status)).getLast?
  nick := lastFilled ((first :: rest).map (·.nick))
  roles := (rest.getLastD first).roles
  game := (rest.getLastD first).game

theorem accumulated_nil (first : Presence) : first.accumulated [] = first := by
  obtain ⟨user, status, nick, roles, game⟩ := first
  cases status <;> simp [accumulated, lastFilled_singleton]

/-- One more update is merged into what was there. -/
theorem accumulated_concat (first : Presence) (rest : List Presence) (p : Presence) :
    first.accumulated (rest ++ [p]) = (first.accumulated rest).updated p := by
  have hfilled : ∀ field : Presence → String, lastFilled ((first :: (rest ++ [p])).map field)
      = unlessBlank (field p) (lastFilled ((first :: rest).map field)) := by
    intro field
    rw [← lastFilled_concat, ← List.cons_append, List.map_append]
    rfl
  have hstatus : ((first :: (rest ++ [p])).filterMap (·.status)).getLast?
      = p.status.or ((first :: rest).filterMap (·.status)).getLast? := by
    rw [← List.cons_append, List.filterMap_append, List.getLast?_append]
    cases hp : p.status <;> simp [hp]
  simp only [accumulated, updated, User.updated, hfilled, hstatus, List.getLastD_concat]

/-- What presences in order come to, of which there may be none. -/
def gathered : List Presence → Option Presence
  | [] => none
  | first :: rest => some (first.accumulated rest)

theorem gathered_concat (told : List Presence) (p : Presence) :
    gathered (told ++ [p]) = some ((gathered told).elim p (·.updated p)) := by
  cases told with
  | nil => exact congrArg some (accumulated_nil p)
  | cons first rest => exact congrArg some (accumulated_concat first rest p)

end Presence

/-! ## Presences in a guild record -/

namespace Guild

/-- The presence of a user in a guild. -/
def presenceOf (userId : String) (g : Guild) : Option Presence :=
  g.presenceList.find? fun p => p.user.id == userId

theorem presenceOf_addPresence (userId : String) (p : Presence) (g : Guild) :
    (g.addPresence p).presenceOf userId
      = if p.user.id = userId then some ((g.presenceOf userId).elim p (·.updated p))
        else g.presenceOf userId :=
  @find?_changeOrAdd Presence (·.user.id) p (·.updated p) userId (fun _ h => h) g.presenceList

/-- A guild that comes without presences takes over the cached ones. -/
theorem presenceOf_carryOver (userId : String) {g : Guild} (hg : g.presences = none)
    (cached : Guild) :
    (g.fillIds.carryOver (some cached)).presenceOf userId = cached.presenceOf userId := by
  have hlist : (g.fillIds.carryOver (some cached)).presences = cached.presences := by
    show g.presences.or cached.presences = cached.presences
    rw [hg, Option.none_or]
  unfold presenceOf presenceList
  rw [hlist]

end Guild

/-! ## Events -/

namespace Event

/-- The presence of a user in a guild that the event tells. -/
def presenceOf? (guildId userId : String) : Event → Option Presence
  | .presenceUpdate g p => if g = guildId ∧ p.user.id = userId then some p else none
  | _ => none

/-- The event neither takes the guild away nor brings a list of presences for it. -/
def KeepsPresences (guildId : String) : Event → Prop
  | .ready r => ∀ g ∈ r.guilds, g.id ≠ guildId
  | .guildCreate g => g.id = guildId → g.presences = none
  | .guildUpdate g => g.id = guildId → g.presences = none
  | .guildDelete g => g.id ≠ guildId
  | _ => True

/-- Events that bring no guild and tell no presence leave the presences in all guilds alone. -/
theorem spares_presenceOf (userId : String) {e : Event} (hwhole : e.replacesGuilds = false)
    (hother : ∀ guildId p, e ≠ .presenceUpdate guildId p) : e.Spares (Guild.presenceOf userId) := by
  cases e with
  | ready | guildCreate | guildUpdate | guildDelete => cases hwhole
  | presenceUpdate guildId p => exact absurd rfl (hother guildId p)
  | guildMemberAdd | guildMemberUpdate | guildMembersChunk => exact fun _ _ => rfl
  | guildMemberRemove | guildRoleCreate | guildRoleUpdate | guildRoleDelete => exact fun _ => rfl
  | guildEmojisUpdate => exact fun _ _ _ => rfl
  | channelCreate | channelUpdate => exact fun _ _ => rfl
  | channelDelete => exact fun _ => rfl
  | _ => trivial

end Event

/-! ## Presences in the tables -/

namespace Tables

variable {t : Tables}

theorem guild_changeGuild (ht : t.Sound) (change : Guild → Guild) (hid : ∀ g, (change g).id = g.id)
    (guildId id : String) :
    (t.changeGuild guildId change).guild id
      = if id = guildId then (t.guild id).map change else t.guild id := by
  cases hg : t.guild guildId with
  | none =>
      rw [changeGuild_of_none hg]
      split
      · next h => rw [h, hg]; rfl
      · rfl
  | some g =>
      rw [changeGuild_eq hg]
      show (if id = (change g).id then some (change g) else t.guild id) = _
      rw [hid, ht.guild_id hg]
      split
      · next h => rw [h, hg]; rfl
      · rfl

theorem guild_takeReady {botId guildId : String} {r : Ready} (hr : ∀ g ∈ r.guilds, g.id ≠ guildId) :
    (t.takeReady botId r).guild guildId = t.guild guildId := by
  refine List.foldlRecOn r.guilds _
    (motive := fun t' : Tables => t'.guild guildId = t.guild guildId) rfl ?_
  intro t' h g hg
  exact (if_neg (hr g hg).symm).trans h

theorem presenceOf_takeGuild {botId guildId : String} (userId : String) {g cached : Guild}
    (hg : g.id = guildId → g.presences = none) (hcached : t.guild guildId = some cached) :
    ((t.takeGuild botId g (t.guild g.id)).guild guildId).map (Guild.presenceOf userId)
      = (t.guild guildId).map (Guild.presenceOf userId) := by
  show (if guildId = (g.fillIds.carryOver (t.guild g.id)).id
    then some (g.fillIds.carryOver (t.guild g.id)) else t.guild guildId).map _ = _
  rw [Guild.carryOver_id]
  show (if guildId = g.id then _ else _ : Option Guild).map _ = _
  split
  · next h =>
    rw [← h, hcached]
    exact congrArg some (Guild.presenceOf_carryOver userId (hg h.symm) cached)
  · rfl

/-- What becomes of the presence of a user: it takes in what the event tells of it. -/
theorem presenceOf_updated (ht : t.Sound) (settings : CacheSettings) (botId : String) {e : Event}
    (he : e.IsWellNamed) {guildId userId : String} (hkeeps : e.KeepsPresences guildId)
    {told : Option Presence}
    (htold : (t.guild guildId).map (Guild.presenceOf userId) = some told) :
    ((t.updated settings botId e).guild guildId).map (Guild.presenceOf userId)
      = some ((e.presenceOf? guildId userId).elim told fun p =>
          some (told.elim p (·.updated p))) := by
  obtain ⟨cached, hcached, hfound⟩ := Option.map_eq_some_iff.mp htold
  cases e with
  | ready r =>
      simp only [updated, guild_takeReady hkeeps]
      exact htold
  | guildCreate g | guildUpdate g => exact (presenceOf_takeGuild userId hkeeps hcached).trans htold
  | guildDelete g =>
      have hother : guildId ≠ g.id := Ne.symm hkeeps
      show (if guildId = g.id then none else t.guild guildId).map _ = _
      rw [if_neg hother]
      exact htold
  | presenceUpdate g p =>
      have hsame : (t.changeGuild g (·.addPresence p)).SameField (Guild.presenceOf userId)
          (t.takePresence g p) := sameField_changeGuild_takePresence ht (fun _ _ => rfl) g p
      show ((t.takePresence g p).guild guildId).map _
        = some ((if g = guildId ∧ p.user.id = userId then some p else none).elim told _)
      rw [hsame, guild_changeGuild ht (·.addPresence p) fun _ => rfl]
      by_cases hg : g = guildId
      · rw [if_pos hg.symm, hcached, Option.map_some, Option.map_some,
          Guild.presenceOf_addPresence, hfound]
        by_cases huser : p.user.id = userId
        · rw [if_pos huser, if_pos ⟨hg, huser⟩]
          rfl
        · rw [if_neg huser, if_neg fun h => huser h.2]
          rfl
      · rw [if_neg (Ne.symm hg), if_neg fun h => hg h.1]
        exact htold
  | _ =>
      refine (sameField_updated ht settings botId he ?_ guildId).trans htold
      refine Event.spares_presenceOf userId rfl ?_
      rintro _ _ ⟨⟩

end Tables

/-! ## From one world to a later one -/

namespace World

open Tables

/-- The worlds that events lead to from a world, with the events in order. -/
inductive Continues (ns : String) (settings : CacheSettings) (allowed : Event → Prop)
    (start : World) : List Event → World → Prop
  | refl : Continues ns settings allowed start [] start
  | shift {es : List Event} {w w' : World} : Continues ns settings allowed start es w →
      Shifts ns w w' → Continues ns settings allowed start es w'
  | event {es : List Event} {w w' : World} {e : Event}
      {result : Except CacheError (Option String)} (botId : String) :
      Continues ns settings allowed start es w → allowed e →
      Runs ns (ExceptT.run (Cache.apply settings botId e)) w result w' →
      Continues ns settings allowed start (es ++ [e]) w'

namespace Continues

variable {ns : String} {settings : CacheSettings} {allowed : Event → Prop}
variable {start w w' : World} {es : List Event}

theorem after (h : Continues ns settings allowed start es w) (botId : String) {e : Event}
    (he : allowed e) :
    Continues ns settings allowed start (es ++ [e]) (w.after ns settings botId e) :=
  h.event botId he (runs_of_run _ w)

/-- What holds of no events and the first tables and is kept by every event holds of all events and
the last tables. -/
theorem exists_updated {I : List Event → Tables → Prop} (hexpiry : settings.expiry = none)
    (hnamed : ∀ e, allowed e → e.IsWellNamed)
    (hstart : ∃ t : Tables, t.Sound ∧ I [] t ∧ start.Shows ns settings.surroundings t.content)
    (hevent : ∀ e botId es t, allowed e → t.Sound → I es t →
      I (es ++ [e]) (t.updated settings botId e))
    (h : Continues ns settings allowed start es w) :
    ∃ t : Tables, t.Sound ∧ I es t ∧ w.Shows ns settings.surroundings t.content := by
  induction h with
  | refl => exact hstart
  | shift _ hshift ih =>
      obtain ⟨t, ht, hI, hw⟩ := ih
      exact ⟨t, ht, hI, hw.shift rfl hshift⟩
  | @event es _ _ e _ botId _ he hruns ih =>
      obtain ⟨t, ht, hI, hw⟩ := ih
      obtain ⟨_, rfl, hw'⟩ := hruns.leads rfl (Cache.leads_apply_updated
        (CacheSettings.not_fading hexpiry) settings.surroundings_allows (hnamed e he) ht) hw
      exact ⟨_, ht.updated settings botId (hnamed e he), hevent e botId es t he ht hI, hw'⟩

/-- From a world in which a guild is cached without a presence of the user, a lookup finds what the
presences of the user come to that events told since. No other event makes a difference, as long as
none takes the guild away or brings a list of presences for it. -/
theorem presence_accumulates (hstart : Reachable ns settings Event.IsWellNamed start)
    (hexpiry : settings.expiry = none) {guildId userId : String} (hguild : PlainId guildId)
    {g : Guild} (hcached : start.host.record ns (.guild guildId) = some g)
    (hfresh : ∀ p ∈ g.presenceList, p.user.id ≠ userId)
    (h : Continues ns settings (fun e => e.IsWellNamed ∧ e.KeepsPresences guildId) start es w)
    {first : Presence} {rest : List Presence}
    (htold : es.filterMap (·.presenceOf? guildId userId) = first :: rest) :
    w.answer ns (.presence guildId userId) = .ok (first.accumulated rest) := by
  have hf := CacheSettings.not_fading hexpiry
  obtain ⟨t₀, ht₀, hw₀⟩ := hstart.exists_sound settings.surroundings_allows rfl fun _ he => he
  have hbefore : (t₀.guild guildId).map (Guild.presenceOf userId) = some none := by
    have hsame : t₀.guild guildId = some g :=
      (hw₀.host.record_eq (Slot.guild guildId) hguild hf).symm.trans hcached
    have hnone : g.presenceOf userId = none := by
      refine List.find?_eq_none.mpr fun p hp => ?_
      simpa using hfresh p hp
    rw [hsame, Option.map_some, hnone]
  -- The presence in the tables is what the events so far come to.
  obtain ⟨t, ht, hI, hw⟩ := h.exists_updated hexpiry (fun _ he => he.1)
    (I := fun es t => (t.guild guildId).map (Guild.presenceOf userId)
      = some (Presence.gathered (es.filterMap (·.presenceOf? guildId userId))))
    ⟨t₀, ht₀, hbefore, hw₀⟩ fun e botId es t he ht hI => by
      rw [presenceOf_updated ht settings botId he.1 he.2 hI, List.filterMap_append]
      cases hp : e.presenceOf? guildId userId with
      | none => simp [hp]
      | some p => simp [hp, Presence.gathered_concat]
  rw [htold] at hI
  obtain ⟨g', hg', hfound⟩ := Option.map_eq_some_iff.mp hI
  refine answer_eq hw.host (q := .presence guildId userId) ?_
  refine (Cache.leads_findInGuild (Guild.presenceOf userId) hf hguild ht).mono fun r _ hr => ?_
  rw [hr, hg', Option.bind_some, hfound]
  rfl

end Continues

/-- The member of the small guild comes online. -/
def samplePresence : Presence where
  user := { id := "3", username := "ada" }
  status := some .online
  roles := ["7"]

/-- The same member goes idle, and the update says no more than that. -/
def sampleIdle : Presence where
  user := { id := "3" }
  status := some .idle

/-- The small world after both, between which the guild was renamed. -/
def sampleAfterPresences : World :=
  ((sample.after "relay" {} "3" (.presenceUpdate "1" samplePresence)).after "relay" {} "3"
    sampleRename).after "relay" {} "3" (.presenceUpdate "1" sampleIdle)

theorem sample_presence_accumulates :
    (∃ g : Guild, sample.host.record "relay" (.guild "1") = some g
      ∧ ∀ p ∈ g.presenceList, p.user.id ≠ "3")
    ∧ sampleAfterPresences.answer "relay" (.presence "1" "3")
      = .ok { user := { id := "3", username := "ada" }, status := some .idle } := by
  have hguild : PlainId "1" := by decide
  have hcached : sample.host.record "relay" (.guild "1") = some sampleGuild.fillIds :=
    sample_keepsTables.record rfl (Slot.guild "1") hguild
  have hfresh : ∀ p ∈ sampleGuild.fillIds.presenceList, p.user.id ≠ "3" := fun _ h => nomatch h
  have hpresence : ∀ p : Presence, p.user.id = "3" →
      (Event.presenceUpdate "1" p).IsWellNamed ∧ (Event.presenceUpdate "1" p).KeepsPresences "1" :=
    fun p hp => ⟨⟨hguild, hp ▸ by decide⟩, trivial⟩
  have hrename : sampleRename.IsWellNamed ∧ sampleRename.KeepsPresences "1" :=
    ⟨⟨hguild, by decide, by decide⟩, fun _ => rfl⟩
  have h : Continues "relay" {} (fun e => e.IsWellNamed ∧ e.KeepsPresences "1") sample
      [.presenceUpdate "1" samplePresence, sampleRename, .presenceUpdate "1" sampleIdle]
      sampleAfterPresences :=
    ((Continues.refl.after "3" (hpresence samplePresence rfl)).after "3" hrename).after "3"
      (hpresence sampleIdle rfl)
  have htold : ([.presenceUpdate "1" samplePresence, sampleRename, .presenceUpdate "1" sampleIdle] :
      List Event).filterMap (·.presenceOf? "1" "3") = [samplePresence, sampleIdle] := rfl
  refine ⟨⟨_, hcached, hfresh⟩, ?_⟩
  exact h.presence_accumulates (sample_reachable sampleGuild_isWellNamed) rfl hguild hcached hfresh
    htold

end World

end GuildRelay
