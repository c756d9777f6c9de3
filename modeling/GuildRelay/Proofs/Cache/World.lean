import GuildRelay.Cache.Service
import GuildRelay.Proofs.Cache.View
/-!
# Events and what happens beside them

Events are applied one after the other, but they are not alone: time passes, and the runs in the
background that fill ban lists make their calls whenever they like. A `World` is a host with the ban
runs that are under way. `World.Shifts` is one step of the surroundings, `World.Runs` is a run of a
program with any such steps before, between and after its calls, and `World.Reachable` are the
worlds that events lead to from an empty store.

Ban runs read records but write only ban data (`Program.Harmless`, proved of every run by
`harmless_attemptBackfill`), so a world goes on showing the same view while the surroundings shift.
`World.Reachable.exists_view` is the induction over everything that may happen: what holds of the
empty view and is kept by every event holds in every world.
-/

namespace GuildRelay

namespace Operation

/-- The operation changes nothing. -/
def isRead : Operation → Bool
  | get => true
  | setMembers => true
  | isSetMember _ => true
  | rangeList _ _ => true
  | _ => false

end Operation

theorem Cell.answer_of_isRead {op : Operation} (h : op.isRead = true) (now : Nat) (c : Cell) :
    (c.answer now op).2 = c := by
  cases op <;> first | rfl | cases h

/-! ## Runs in the background -/

namespace Program

variable {α β : Type}

/-- The program only reads, except for ban data. -/
def Harmless : Program Key α → Prop
  | done _ => True
  | call k op next =>
    (op.isRead = true ∨ (k.IsPlain ∧ k.isBan = true ∧ op.isOnSet = true)) ∧
      ∀ reply, (next reply).Harmless
  | fetchBans _ next => ∀ reply, (next reply).Harmless

theorem Harmless.andThen {f : α → Program Key β} (hf : ∀ a, (f a).Harmless) :
    ∀ {p : Program Key α}, p.Harmless → (p.andThen f).Harmless
  | done a, _ => hf a
  | call _ _ _, ⟨hop, hnext⟩ => ⟨hop, fun reply => (hnext reply).andThen hf⟩
  | fetchBans _ _, hp => fun reply => (hp reply).andThen hf

end Program

namespace Action

variable {α β : Type}

/-- The action only reads, except for ban data. -/
def Harmless (a : Action Key α) : Prop :=
  (ExceptT.run a).Harmless

theorem Harmless.bind {a : Action Key α} {f : α → Action Key β} (ha : a.Harmless)
    (hf : ∀ x, (f x).Harmless) : (a >>= f).Harmless := by
  unfold Harmless
  rw [run_bind]
  refine Program.Harmless.andThen (fun r => ?_) ha
  cases r with
  | ok x => exact hf x
  | error e => trivial

theorem harmless_pure (x : α) : (pure x : Action Key α).Harmless := trivial

theorem Harmless.found {a : Action Key α} (ha : a.Harmless) : a.found.Harmless :=
  Program.Harmless.andThen (fun r => by rcases r with (_ | _) | _ <;> trivial) ha

theorem harmless_ask_read {k : Key} {op : Operation} (hop : op.isRead = true) :
    (ask k op).Harmless :=
  ⟨.inl hop, fun _ => trivial⟩

theorem harmless_ask_ban {k : Key} {op : Operation} (hk : k.IsPlain) (hban : k.isBan = true)
    (hop : op.isOnSet = true) : (ask k op).Harmless :=
  ⟨.inr ⟨hk, hban, hop⟩, fun _ => trivial⟩

end Action

namespace Cache

open GuildRelay.Action

theorem harmless_read {α : Type} [Decode α] (k : Key) : (read k : CacheAction α).Harmless := by
  refine (harmless_ask_read rfl).bind fun text => ?_
  cases text <;> trivial

theorem harmless_canReadBans (botId guildId : String) : (canReadBans botId guildId).Harmless := by
  refine .bind (.found ?_) fun permissions => ?_
  · refine .bind (harmless_read _) fun g => ?_
    split
    · exact harmless_pure _
    · exact .bind (harmless_read _) fun m => harmless_pure _
  · cases permissions <;> exact harmless_pure _

theorem harmless_initializeBans {guildId : String} (hg : PlainId guildId) (botId : String) :
    (initializeBans guildId botId).Harmless := by
  refine (harmless_canReadBans botId guildId).bind fun allowed => ?_
  cases allowed with
  | false =>
      exact .bind (harmless_ask_ban hg rfl rfl) fun _ => harmless_ask_ban trivial rfl rfl
  | true =>
      refine .bind (harmless_ask_read rfl) fun initialized => ?_
      cases initialized with
      | true => exact harmless_pure _
      | false =>
          refine .bind (harmless_ask_ban hg rfl rfl) fun _ => ?_
          refine .bind (fun _ => trivial) fun bans => ?_
          exact .bind (harmless_ask_ban hg rfl rfl) fun _ => harmless_ask_ban trivial rfl rfl

/-- A ban run does no harm, however often it is tried again. -/
theorem harmless_attemptBackfill {guildId : String} (hg : PlainId guildId) (botId : String) :
    ∀ attempts, (attemptBackfill guildId botId attempts).Harmless
  | 0 => trivial
  | attempts + 1 => by
      refine Program.Harmless.andThen (fun r => ?_) (harmless_initializeBans hg botId)
      cases r with
      | ok _ => trivial
      | error e =>
          simp only
          split
          · exact harmless_attemptBackfill hg botId attempts
          · trivial

end Cache

/-! ## Worlds -/

/-- A host with the ban runs that are under way. -/
structure World where
  host : Host
  banRuns : List (Program Key Unit) := []

namespace World

/-- One step of the surroundings: time passes, a ban run starts or one of them makes its next call.
A run that is cancelled makes no more calls. -/
inductive Shifts (ns : String) : World → World → Prop
  | wait {w : World} {now : Nat} : w.host.now ≤ now →
      Shifts ns w { w with host := { w.host with now } }
  | start {w : World} {guildId : String} (botId : String) (attempts : Nat) : PlainId guildId →
      Shifts ns w
        { w with banRuns := Cache.attemptBackfill guildId botId attempts :: w.banRuns }
  | call {w : World} {before after : List (Program Key Unit)} {k : Key} {op : Operation}
      {next : Except CacheError op.Reply → Program Key Unit} :
      w.banRuns = before ++ .call k op next :: after →
      Shifts ns w ⟨(w.host.call (k.text ns) op).2,
        before ++ next (w.host.call (k.text ns) op).1 :: after⟩
  | fetch {w : World} {before after : List (Program Key Unit)} {guildId : String}
      {next : Except CacheError (List Ban) → Program Key Unit} :
      w.banRuns = before ++ .fetchBans guildId next :: after →
      Shifts ns w ⟨(w.host.fetchBans guildId).2,
        before ++ next (w.host.fetchBans guildId).1 :: after⟩

/-- A program runs in a world to a result, and leaves another world behind. -/
inductive Runs (ns : String) {α : Type} : Program Key α → World → α → World → Prop
  | done {w : World} {a : α} : Runs ns (.done a) w a w
  | call {w w' : World} {a : α} {k : Key} {op : Operation}
      {next : Except CacheError op.Reply → Program Key α} :
      Runs ns (next (w.host.call (k.text ns) op).1)
        { w with host := (w.host.call (k.text ns) op).2 } a w' →
      Runs ns (.call k op next) w a w'
  | fetch {w w' : World} {a : α} {guildId : String}
      {next : Except CacheError (List Ban) → Program Key α} :
      Runs ns (next (w.host.fetchBans guildId).1)
        { w with host := (w.host.fetchBans guildId).2 } a w' →
      Runs ns (.fetchBans guildId next) w a w'
  | shift {w w' w'' : World} {a : α} {p : Program Key α} :
      Shifts ns w w' → Runs ns p w' a w'' → Runs ns p w a w''

/-- The worlds that a cache with some settings may be in after events of some kind. -/
inductive Reachable (ns : String) (settings : CacheSettings) (allowed : Event → Prop) :
    World → Prop
  | start {h : Host} : h.store = {} → (∀ n, h.faults n = none) →
      Reachable ns settings allowed { host := h }
  | shift {w w' : World} : Reachable ns settings allowed w → Shifts ns w w' →
      Reachable ns settings allowed w'
  | event {w w' : World} {e : Event} {result : Except CacheError (Option String)}
      (botId : String) : Reachable ns settings allowed w → allowed e →
      Runs ns (ExceptT.run (Cache.apply settings botId e)) w result w' →
      Reachable ns settings allowed w'

/-- The world after an event during which nothing else happens. -/
def after (w : World) (ns : String) (settings : CacheSettings) (botId : String) (e : Event) :
    World :=
  let action := (Cache.apply settings botId e).mapKeys (Key.text ns)
  { w with host := (action.runOn Host.backend w.host).2 }

/-- The result of an event during which nothing else happens. -/
def result (w : World) (ns : String) (settings : CacheSettings) (botId : String) (e : Event) :
    Except CacheError (Option String) :=
  (((Cache.apply settings botId e).mapKeys (Key.text ns)).runOn Host.backend w.host).1

theorem runs_of_run {ns : String} {α : Type} : ∀ (p : Program Key α) (w : World),
    Runs ns p w ((p.mapKeys (Key.text ns)).run Host.backend w.host).1
      { w with host := ((p.mapKeys (Key.text ns)).run Host.backend w.host).2 }
  | .done _, _ => .done
  | .call _ _ _, _ => .call (runs_of_run _ _)
  | .fetchBans _ _, _ => .fetch (runs_of_run _ _)

theorem Reachable.after {ns : String} {settings : CacheSettings} {allowed : Event → Prop}
    {w : World} {e : Event} (h : Reachable ns settings allowed w) (botId : String)
    (he : allowed e) : Reachable ns settings allowed (w.after ns settings botId e) :=
  h.event botId he (runs_of_run _ w)

/-! ## Worlds that show a view -/

/-- The host shows the view, and the ban runs will not change that. -/
structure Shows (ns : String) (s : Surroundings) (w : World) (v : View) : Prop where
  host : w.host.Shows ns s v
  banRuns : ∀ p ∈ w.banRuns, p.Harmless

variable {ns : String} {s : Surroundings} {w w' : World} {v : View}

end World

theorem Host.Shows.of_update {ns : String} {s : Surroundings} {h : Host} {v : View} {k : Key}
    {x : Host.Content} (hk : s.shares k = true) (hv : h.Shows ns s (Function.update v k x)) :
    h.Shows ns s v := by
  refine ⟨hv.faultless, fun k' hk' => ?_, hv.other⟩
  have hcell := hv.plain k' hk'
  by_cases hkk : k' = k
  · subst hkk
    exact ⟨hcell.lasting, fun h => absurd (hk.symm.trans h) Bool.noConfusion, hcell.onlySet⟩
  · rwa [Function.update_of_ne hkk] at hcell

/-- What ban runs call changes nothing that others rely on. -/
theorem Host.Shows.call_harmless {ns : String} {s : Surroundings} {h : Host} {v : View}
    (hs : s.banRuns = true) (hv : h.Shows ns s v) {k : Key} {op : Operation}
    (hop : op.isRead = true ∨ (k.IsPlain ∧ k.isBan = true ∧ op.isOnSet = true)) :
    (h.call (k.text ns) op).2.Shows ns s v := by
  rcases hop with hread | ⟨hk, hban, hset⟩
  · have hsame : ∀ name, (h.call (k.text ns) op).2.store.cell name = h.store.cell name := by
      intro name
      simp only [Host.call, hv.faultless, Store.cell_answer]
      split
      · next heq => rw [Cell.answer_of_isRead hread, heq]
      · rfl
    refine ⟨?_, fun k' hk' => ?_, fun name hname => ?_⟩
    · simpa only [Host.call, hv.faultless] using hv.faultless
    · rw [hsame]
      exact hv.plain k' hk'
    · rw [hsame]
      exact hv.other name hname
  · have hfits : op.Fits s k := by
      refine ⟨fun _ => ?_, fun _ => hset⟩
      cases op <;> first | rfl | cases hset
    obtain ⟨live, reply, -, -, -, hafter⟩ := hv.call hk hfits
    exact hafter.of_update (by rw [Surroundings.shares, hs, hban, Bool.and_self])

/-- A host with an empty store shows the empty view. -/
theorem Host.Shows.of_empty {ns : String} {s : Surroundings} {h : Host} (hstore : h.store = {})
    (hfaults : ∀ n, h.faults n = none) : h.Shows ns s fun _ => ⟨none, [], []⟩ := by
  refine ⟨hfaults, fun k _ => ?_, fun name _ => ?_⟩
  · rw [hstore]
    exact ⟨fun _ v hv => absurd hv (Option.not_mem_none v), fun _ => ⟨rfl, rfl, rfl⟩,
      fun _ => ⟨rfl, rfl⟩⟩
  · rw [hstore]
    rfl

/-- Time changes nothing about what is kept. -/
theorem Host.Shows.wait {ns : String} {s : Surroundings} {h : Host} {v : View}
    (hv : h.Shows ns s v) (now : Nat) : { h with now }.Shows ns s v :=
  ⟨hv.faultless, hv.plain, hv.other⟩

namespace World

variable {ns : String} {s : Surroundings} {w w' : World} {v : View}

/-- The surroundings do not change what a world shows. -/
theorem Shows.shift (hs : s.banRuns = true) (hv : w.Shows ns s v) (h : Shifts ns w w') :
    w'.Shows ns s v := by
  obtain ⟨hhost, hruns⟩ := hv
  cases h with
  | wait _ => exact ⟨hhost.wait _, hruns⟩
  | start botId attempts hg =>
      exact ⟨hhost, List.forall_mem_cons.mpr
        ⟨Cache.harmless_attemptBackfill hg botId attempts, hruns⟩⟩
  | call heq =>
      simp only [heq, List.forall_mem_append, List.forall_mem_cons] at hruns
      obtain ⟨hbefore, ⟨hop, hnext⟩, hafter⟩ := hruns
      refine ⟨hhost.call_harmless hs hop, ?_⟩
      simp only [List.forall_mem_append, List.forall_mem_cons]
      exact ⟨hbefore, hnext _, hafter⟩
  | fetch heq =>
      simp only [heq, List.forall_mem_append, List.forall_mem_cons] at hruns
      obtain ⟨hbefore, hnext, hafter⟩ := hruns
      refine ⟨hhost.fetchBans _, ?_⟩
      simp only [List.forall_mem_append, List.forall_mem_cons]
      exact ⟨hbefore, hnext _, hafter⟩

/-- What a program ensures holds at its end, whatever happened beside it. -/
theorem Runs.ensures {α : Type} {p : Program Key α} {a : α} {Q : α → View → Prop}
    (hs : s.banRuns = true) (h : Runs ns p w a w') (hp : p.Ensures s v Q) (hv : w.Shows ns s v) :
    ∃ v', Q a v' ∧ w'.Shows ns s v' := by
  induction h generalizing v with
  | done => exact ⟨v, hp, hv⟩
  | call _ ih =>
      obtain ⟨hk, hop, hnext⟩ := hp
      obtain ⟨live, reply, hlive, hreply, hok, hafter⟩ := hv.host.call hk hop
      refine ih ?_ ⟨hafter, hv.banRuns⟩
      rw [hok]
      exact hnext live reply hlive hreply
  | fetch _ ih => exact ih (hp _) ⟨hv.host.fetchBans _, hv.banRuns⟩
  | shift hshift _ ih => exact ih hp (hv.shift hs hshift)

/-- What holds of the empty view and is kept by every event holds of some view in every world. -/
theorem Reachable.exists_view {settings : CacheSettings} {allowed : Event → Prop}
    (hs : s.banRuns = true) {I : View → Prop} (hstart : I fun _ => ⟨none, [], []⟩)
    (hevent : ∀ e botId v, allowed e → I v →
      (ExceptT.run (Cache.apply settings botId e)).Ensures s v fun _ v' => I v')
    (h : Reachable ns settings allowed w) : ∃ v, I v ∧ w.Shows ns s v := by
  induction h with
  | start hstore hfaults => exact ⟨_, hstart, .of_empty hstore hfaults, by simp⟩
  | shift _ hshift ih =>
      obtain ⟨v, hI, hv⟩ := ih
      exact ⟨v, hI, hv.shift hs hshift⟩
  | event botId _ hallowed hruns ih =>
      obtain ⟨v, hI, hv⟩ := ih
      exact hruns.ensures hs (hevent _ botId v hallowed hI) hv

end World

end GuildRelay
