import GuildRelay.Proofs.Cache.Lookups
import GuildRelay.Proofs.Cache.Moves
/-!
# Histories of events

What the cache answers is often told best by the events that were applied, rather than by the
records that they left behind. `World.Follows` is `World.Reachable` with a log: the events with
their results, the latest of them first (`World.reachable_iff_follows`).
`World.Follows.exists_tables` is the induction over such a log, for a relation between the log and
the tables that every event keeps; `World.answer` is what a lookup finds in the end.

The result of an event belongs to the log, for an event that has failed should not count.
-/

namespace GuildRelay

/-- An event with the result of applying it. -/
structure Applied where
  event : Event
  result : Except CacheError (Option String)

namespace Applied

/-- The event went through. -/
def succeeded (a : Applied) : Bool :=
  a.result.isOk

theorem succeeded_mk (e : Event) (result : Except CacheError (Option String)) :
    Applied.succeeded ⟨e, result⟩ = result.isOk := rfl

end Applied

theorem isOk_map {ε α β : Type} (f : α → β) (r : Except ε α) : (r.map f).isOk = r.isOk := by
  cases r <;> rfl

namespace World

open Tables

/-- The worlds that a log of events leads to, of which the latest is the first. -/
inductive Follows (ns : String) (settings : CacheSettings) (allowed : Event → Prop) :
    List Applied → World → Prop
  | start {h : Host} : h.store = {} → (∀ n, h.faults n = none) →
      Follows ns settings allowed [] { host := h }
  | shift {log : List Applied} {w w' : World} : Follows ns settings allowed log w →
      Shifts ns w w' → Follows ns settings allowed log w'
  | event {log : List Applied} {w w' : World} {e : Event}
      {result : Except CacheError (Option String)} (botId : String) :
      Follows ns settings allowed log w → allowed e →
      Runs ns (ExceptT.run (Cache.apply settings botId e)) w result w' →
      Follows ns settings allowed (⟨e, result⟩ :: log) w'

/-- What a lookup finds. -/
def answer (w : World) (ns : String) (q : Lookup) : Except CacheError q.Result :=
  ((q.action.mapKeys (Key.text ns)).runOn Host.backend w.host).1

variable {ns : String} {s : Surroundings} {settings : CacheSettings} {allowed : Event → Prop}
variable {log : List Applied} {w : World} {t : Tables}

/-- Every world that events lead to has a log. -/
theorem reachable_iff_follows :
    Reachable ns settings allowed w ↔ ∃ log, Follows ns settings allowed log w := by
  constructor
  · intro h
    induction h with
    | start hstore hfaults => exact ⟨[], .start hstore hfaults⟩
    | shift _ hshift ih =>
        obtain ⟨log, hlog⟩ := ih
        exact ⟨log, .shift hlog hshift⟩
    | event botId _ he hruns ih =>
        obtain ⟨log, hlog⟩ := ih
        exact ⟨_, .event botId hlog he hruns⟩
  · rintro ⟨log, h⟩
    induction h with
    | start hstore hfaults => exact .start hstore hfaults
    | shift _ hshift ih => exact .shift ih hshift
    | event botId _ he hruns ih => exact .event botId ih he hruns

theorem Follows.after (h : Follows ns settings allowed log w) (botId : String) {e : Event}
    (he : allowed e) :
    Follows ns settings allowed (⟨e, w.result ns settings botId e⟩ :: log)
      (w.after ns settings botId e) :=
  h.event botId he (runs_of_run _ w)

/-- What holds of the empty log and the empty tables and is kept by every event holds of the log
and the tables of every world. -/
theorem Follows.exists_tables {I : List Applied → Tables → Prop} (hs : s.Allows settings)
    (hbans : s.banRuns = true) (hnamed : ∀ e, allowed e → e.IsWellNamed) (hstart : I [] {})
    (hevent : ∀ e botId log t, allowed e → t.Sound → I log t →
      (Cache.apply settings botId e).Leads s t fun result t' => I (⟨e, result⟩ :: log) t')
    (h : Follows ns settings allowed log w) :
    ∃ t : Tables, t.Sound ∧ I log t ∧ w.Shows ns s t.content := by
  induction h with
  | start hstore hfaults =>
      refine ⟨{}, sound_empty, hstart, ?_, by simp⟩
      rw [content_empty]
      exact .of_empty hstore hfaults
  | shift _ hshift ih =>
      obtain ⟨t, ht, hI, hw⟩ := ih
      exact ⟨t, ht, hI, hw.shift hbans hshift⟩
  | @event _ _ _ e _ botId _ he hruns ih =>
      obtain ⟨t, ht, hI, hw⟩ := ih
      have hmoves : (Cache.apply settings botId e).Leads s t fun _ t' => Moves e t t' :=
        Cache.leads_apply (Cache.leads_update hs (hnamed e he) ht)
      obtain ⟨t', ⟨hmoved, hI'⟩, hw'⟩ :=
        hruns.leads hbans (hmoves.and (hevent e botId _ t he ht hI)) hw
      exact ⟨t', hmoved.sound ht, hI', hw'⟩

/-- A lookup finds what its action leads to. -/
theorem answer_eq (hw : w.host.Shows ns s t.content) {q : Lookup}
    {found : Except CacheError q.Result} (hq : q.action.Leads s t fun r _ => r = found) :
    w.answer ns q = found := by
  obtain ⟨_, ⟨_, _, hfound⟩, -⟩ := Program.Ensures.run hq hw
  exact hfound

/-- An event ends as its action leads to. -/
theorem exists_result (hw : w.host.Shows ns s t.content) {botId : String} {e : Event}
    {Q : Except CacheError (Option String) → Tables → Prop}
    (he : (Cache.apply settings botId e).Leads s t Q) :
    ∃ t', Q (w.result ns settings botId e) t' := by
  obtain ⟨_, ⟨t', _, hq⟩, -⟩ := Program.Ensures.run he hw
  exact ⟨t', hq⟩

/-! ## The log of the small world -/

/-- The guild has become known to a bot, and that is all. -/
def sampleLog : List Applied :=
  let e := .guildCreate sampleGuild
  [⟨e, ({ host := {} } : World).result "relay" {} "3" e⟩]

theorem sample_follows (h : allowed (.guildCreate sampleGuild)) :
    Follows "relay" {} allowed sampleLog sample :=
  (Follows.start rfl fun _ => rfl).after "3" h

end World

end GuildRelay
