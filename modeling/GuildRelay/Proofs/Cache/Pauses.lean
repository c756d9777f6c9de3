import GuildRelay.Proofs.Cache.Cuts
/-!
# Runs with pauses

A run in the background takes its time: it waits before it tries again, and between any two of its
calls time passes. `Program.Finishes` is such a run with nobody beside it, on a host whose calls may
fail. It is taken apart the way the program was put together, at a sequence (`Finishes.of_bind`) and
at a single call (`Finishes.of_ask`), which says all that a call may do.

Two things follow from the calls of a program alone (`Program.Makes`): which calls the host has a
record of afterwards, and under which names nothing has changed. What a failed call leads to is
followed to the result (`Program.FailsInto`), so the result tells whether calls have failed.
-/

namespace GuildRelay

/-! ## Single calls -/

namespace Host

variable {h h' h'' : Host} {ns : String} {k : Key} {op : Operation}

/-- What a call may have done: it failed and changed nothing, or the store answered it. -/
structure Called (ns : String) (k : Key) (op : Operation) (h : Host)
    (reply : Except CacheError op.Reply) (h' : Host) : Prop where
  calls : h'.calls = ⟨k.text ns, op⟩ :: h.calls
  fetches : h'.fetches = h.fetches
  faults : h'.faults = h.faults
  banLists : h'.banLists = h.banLists
  outcome : (∃ e, h.faults h.calls.length = some e ∧ reply = .error e ∧ h'.store = h.store)
    ∨ ∃ now, h.faults h.calls.length = none
      ∧ reply = .ok ((h.store.cell (k.text ns)).answer now op).1
      ∧ h'.store = (h.store.answer now (k.text ns) op).2

theorem called_call (ns : String) (k : Key) (op : Operation) (h : Host) (now : Nat) :
    Called ns k op h ({ h with now }.call (k.text ns) op).1
      ({ h with now }.call (k.text ns) op).2 := by
  cases hfault : h.faults h.calls.length with
  | some e =>
      simp only [call, hfault]
      exact ⟨rfl, rfl, rfl, rfl, .inl ⟨e, hfault, rfl, rfl⟩⟩
  | none =>
      simp only [call, hfault]
      exact ⟨rfl, rfl, rfl, rfl, .inr ⟨now, hfault, rfl, rfl⟩⟩

theorem members_of_cell {k : Key} (hcell : h'.store.cell (k.text ns) = h.store.cell (k.text ns)) :
    h'.members ns k = h.members ns k :=
  congrArg Cell.members hcell

namespace Called

variable {reply : Except CacheError op.Reply} {name : String}

theorem failed {e : CacheError} (hc : Called ns k op h (.error e) h') :
    h.faults h.calls.length = some e ∧ h'.store = h.store := by
  rcases hc.outcome with ⟨e', hfault, hreply, hstore⟩ | ⟨now, -, hreply, -⟩
  · cases hreply
    exact ⟨hfault, hstore⟩
  · cases hreply

theorem passed {answer : op.Reply} (hc : Called ns k op h (.ok answer) h') :
    ∃ now, h.faults h.calls.length = none
      ∧ answer = ((h.store.cell (k.text ns)).answer now op).1
      ∧ h'.store.cell (k.text ns) = ((h.store.cell (k.text ns)).answer now op).2 := by
  rcases hc.outcome with ⟨e, -, hreply, -⟩ | ⟨now, hfault, hreply, hstore⟩
  · cases hreply
  · refine ⟨now, hfault, Except.ok.inj hreply, ?_⟩
    rw [hstore, Store.cell_answer, if_pos rfl]

/-- A call that reads, or is about another name, changes nothing under a name. -/
theorem cell_eq (hc : Called ns k op h reply h') (hop : op.isRead = true ∨ k.text ns ≠ name) :
    h'.store.cell name = h.store.cell name := by
  rcases hc.outcome with ⟨e, -, -, hstore⟩ | ⟨now, -, -, hstore⟩
  · rw [hstore]
  · rw [hstore, Store.cell_answer]
    split
    · next heq =>
      subst heq
      exact Cell.answer_of_isRead (hop.resolve_right fun h => h rfl) _ _
    · rfl

end Called

/-- No call between two moments of a host has failed. -/
def Undisturbed (h h' : Host) : Prop :=
  ∀ n, h.calls.length ≤ n → n < h'.calls.length → h.faults n = none

theorem Undisturbed.trans (hfaults : h'.faults = h.faults) (h₁ : h.Undisturbed h')
    (h₂ : h'.Undisturbed h'') : h.Undisturbed h'' := by
  intro n hn hn'
  by_cases hlt : n < h'.calls.length
  · exact h₁ n hn hlt
  · rw [← hfaults]
    exact h₂ n (by omega) hn'

theorem Called.undisturbed {answer : op.Reply} (hc : Called ns k op h (.ok answer) h') :
    h.Undisturbed h' := by
  obtain ⟨-, hfault, -, -⟩ := hc.passed
  intro n hn hn'
  rw [hc.calls, List.length_cons] at hn'
  rw [show n = h.calls.length by omega]
  exact hfault

end Host

/-! ## Runs -/

namespace Program

variable {α β : Type} {ns : String} {h h' h'' : Host}

/-- Started on a host, the program may end with a result and leave another host behind. Before each
of its calls some time may have passed. -/
inductive Finishes (ns : String) : Program Key α → Host → α → Host → Prop
  | done (a : α) (h : Host) : Finishes ns (.done a) h a h
  | call {k : Key} {op : Operation} {next : Except CacheError op.Reply → Program Key α}
      {h h' : Host} {a : α} (now : Nat) : h.now ≤ now →
      Finishes ns (next ({ h with now }.call (k.text ns) op).1)
        ({ h with now }.call (k.text ns) op).2 a h' →
      Finishes ns (.call k op next) h a h'
  | fetch {guildId : String} {next : Except CacheError (List Ban) → Program Key α}
      {h h' : Host} {a : α} (now : Nat) : h.now ≤ now →
      Finishes ns (next ({ h with now }.fetchBans guildId).1)
        ({ h with now }.fetchBans guildId).2 a h' →
      Finishes ns (.fetchBans guildId next) h a h'

/-- A run during which no time passes. -/
theorem finishes_run (ns : String) : ∀ (p : Program Key α) (h : Host),
    p.Finishes ns h ((p.mapKeys (Key.text ns)).run Host.backend h).1
      ((p.mapKeys (Key.text ns)).run Host.backend h).2
  | done a, h => .done a h
  | call _ _ _, h => .call h.now (Nat.le_refl _) (finishes_run ns _ _)
  | fetchBans _ _, h => .fetch h.now (Nat.le_refl _) (finishes_run ns _ _)

namespace Finishes

theorem of_andThen {f : α → Program Key β} {b : β} : ∀ {p : Program Key α} {h : Host},
    (p.andThen f).Finishes ns h b h' →
      ∃ a h₁, p.Finishes ns h a h₁ ∧ (f a).Finishes ns h₁ b h'
  | .done a, h, hrun => ⟨a, h, .done a h, hrun⟩
  | .call k op next, h, hrun => by
      obtain ⟨now, hnow, hrest⟩ : ∃ now, h.now ≤ now
          ∧ ((next ({ h with now }.call (k.text ns) op).1).andThen f).Finishes ns
            ({ h with now }.call (k.text ns) op).2 b h' := by
        cases hrun with | call now hnow hrest => exact ⟨now, hnow, hrest⟩
      obtain ⟨a, h₁, hfirst, hthen⟩ := hrest.of_andThen
      exact ⟨a, h₁, .call now hnow hfirst, hthen⟩
  | .fetchBans guildId next, h, hrun => by
      obtain ⟨now, hnow, hrest⟩ : ∃ now, h.now ≤ now
          ∧ ((next ({ h with now }.fetchBans guildId).1).andThen f).Finishes ns
            ({ h with now }.fetchBans guildId).2 b h' := by
        cases hrun with | fetch now hnow hrest => exact ⟨now, hnow, hrest⟩
      obtain ⟨a, h₁, hfirst, hthen⟩ := hrest.of_andThen
      exact ⟨a, h₁, .fetch now hnow hfirst, hthen⟩

theorem faults_eq {p : Program Key α} {a : α} (hrun : p.Finishes ns h a h') :
    h'.faults = h.faults := by
  induction hrun with
  | done => rfl
  | @call k op _ h _ _ now _ _ ih => exact ih.trans (Host.called_call ns k op h now).faults
  | fetch _ _ _ ih => exact ih

end Finishes

theorem Finishes.banLists_eq {p : Program Key α} {a : α} (hrun : p.Finishes ns h a h') :
    h'.banLists = h.banLists := by
  induction hrun with
  | done => rfl
  | @call k op _ h _ _ now _ _ ih => exact ih.trans (Host.called_call ns k op h now).banLists
  | fetch _ _ _ ih => exact ih

/-! ## Calls that a program makes -/

/-- Every call that the program may make is as `P` says. -/
def Makes (P : Key → Operation → Prop) : Program Key α → Prop
  | done _ => True
  | call k op next => P k op ∧ ∀ reply, (next reply).Makes P
  | fetchBans _ next => ∀ reply, (next reply).Makes P

theorem Makes.andThen {P : Key → Operation → Prop} {f : α → Program Key β}
    (hf : ∀ a, (f a).Makes P) : ∀ {p : Program Key α}, p.Makes P → (p.andThen f).Makes P
  | done a, _ => hf a
  | call _ _ _, ⟨hop, hnext⟩ => ⟨hop, fun reply => (hnext reply).andThen hf⟩
  | fetchBans _ _, hnext => fun reply => (hnext reply).andThen hf

theorem OnlyReads.makes {P : Key → Operation → Prop} (hP : ∀ k op, op.isRead = true → P k op) :
    ∀ {p : Program Key α}, p.OnlyReads → p.Makes P
  | done _, _ => trivial
  | call k op _, ⟨hop, hnext⟩ => ⟨hP k op hop, fun reply => (hnext reply).makes hP⟩

/-- The host keeps a record of the calls. -/
theorem Makes.calls {P : Key → Operation → Prop} {p : Program Key α} {a : α} (hp : p.Makes P)
    (hrun : p.Finishes ns h a h') : ∃ made, h'.calls = made ++ h.calls
      ∧ ∀ c ∈ made, ∃ k, c.key = k.text ns ∧ P k c.op := by
  induction hrun with
  | done => exact ⟨[], rfl, fun _ hc => absurd hc List.not_mem_nil⟩
  | @call k op _ h _ _ now _ _ ih =>
      obtain ⟨hop, hnext⟩ := hp
      obtain ⟨made, hcalls, hmade⟩ := ih (hnext _)
      refine ⟨made ++ [⟨k.text ns, op⟩], ?_, ?_⟩
      · rw [hcalls, (Host.called_call ns k op h now).calls, List.append_assoc]
        rfl
      · intro c hc
        rcases List.mem_append.mp hc with hc | hc
        · exact hmade c hc
        · obtain rfl := List.mem_singleton.mp hc
          exact ⟨k, rfl, hop⟩
  | fetch _ _ _ ih => exact ih (hp _)

/-- Under a name that a program only reads there is in the end what was there before. -/
theorem Makes.cell_eq {P : Key → Operation → Prop} {p : Program Key α} {a : α} {name : String}
    (hp : p.Makes P) (hP : ∀ k op, P k op → op.isRead = true ∨ k.text ns ≠ name)
    (hrun : p.Finishes ns h a h') : h'.store.cell name = h.store.cell name := by
  induction hrun with
  | done => rfl
  | @call k op _ h _ _ now _ _ ih =>
      obtain ⟨hop, hnext⟩ := hp
      exact (ih (hnext _)).trans ((Host.called_call ns k op h now).cell_eq (hP k op hop))
  | fetch _ _ _ ih => exact ih (hp _)

/-! ## What a failed call leads to -/

/-- Whatever the replies are, the result is as `Q` says. -/
def EndsIn (Q : α → Prop) : Program Key α → Prop
  | done a => Q a
  | call _ _ next => ∀ reply, (next reply).EndsIn Q
  | fetchBans _ next => ∀ reply, (next reply).EndsIn Q

/-- Once a call has failed, the result is as `Q` says. -/
def FailsInto (Q : α → Prop) : Program Key α → Prop
  | done _ => True
  | call _ _ next =>
    (∀ e, (next (.error e)).EndsIn Q) ∧ ∀ reply, (next (.ok reply)).FailsInto Q
  | fetchBans _ next => ∀ reply, (next reply).FailsInto Q

theorem EndsIn.andThen {Q : α → Prop} {Q' : β → Prop} {f : α → Program Key β}
    (hf : ∀ a, Q a → (f a).EndsIn Q') :
    ∀ {p : Program Key α}, p.EndsIn Q → (p.andThen f).EndsIn Q'
  | done a, hp => hf a hp
  | call _ _ _, hp => fun reply => (hp reply).andThen hf
  | fetchBans _ _, hp => fun reply => (hp reply).andThen hf

theorem FailsInto.andThen {Q : α → Prop} {Q' : β → Prop} {f : α → Program Key β}
    (hQ : ∀ a, Q a → (f a).EndsIn Q') (hf : ∀ a, (f a).FailsInto Q') :
    ∀ {p : Program Key α}, p.FailsInto Q → (p.andThen f).FailsInto Q'
  | done a, _ => hf a
  | call _ _ _, ⟨herror, hok⟩ =>
      ⟨fun e => (herror e).andThen hQ, fun reply => (hok reply).andThen hQ hf⟩
  | fetchBans _ _, hp => fun reply => (hp reply).andThen hQ hf

theorem EndsIn.result {Q : α → Prop} {p : Program Key α} {a : α} (hp : p.EndsIn Q)
    (hrun : p.Finishes ns h a h') : Q a := by
  induction hrun with
  | done => exact hp
  | call _ _ _ ih => exact ih (hp _)
  | fetch _ _ _ ih => exact ih (hp _)

theorem FailsInto.undisturbed {Q : α → Prop} {p : Program Key α} {a : α} (hp : p.FailsInto Q)
    (hrun : p.Finishes ns h a h') (ha : ¬Q a) : h.Undisturbed h' := by
  induction hrun with
  | done => exact fun n hn hn' => absurd hn' (by omega)
  | @call k op next h _ _ now _ hrest ih =>
      obtain ⟨herror, hok⟩ := hp
      have hcalled := Host.called_call ns k op h now
      generalize ({ h with now }.call (k.text ns) op).1 = reply at hrest ih hcalled
      cases reply with
      | error e => exact absurd ((herror e).result hrest) ha
      | ok answer => exact hcalled.undisturbed.trans hcalled.faults (ih (hok answer) ha)
  | fetch _ _ _ ih => exact ih (hp _) ha

end Program

/-! ## Actions -/

namespace Action

open Program (Finishes)

variable {α β : Type} {ns : String} {h h' : Host}

theorem finishes_of_pure {x : α} {r : Except CacheError α}
    (hrun : (ExceptT.run (pure x : Action Key α)).Finishes ns h r h') : r = .ok x ∧ h' = h := by
  cases hrun
  exact ⟨rfl, rfl⟩

/-- A sequence has ended with its first part, or the rest has run from there. -/
theorem finishes_of_bind {a : Action Key α} {f : α → Action Key β} {r : Except CacheError β}
    (hrun : (ExceptT.run (a >>= f)).Finishes ns h r h') :
    (∃ e, r = .error e ∧ (ExceptT.run a).Finishes ns h (.error e) h')
      ∨ ∃ x h₁, (ExceptT.run a).Finishes ns h (.ok x) h₁
        ∧ (ExceptT.run (f x)).Finishes ns h₁ r h' := by
  rw [run_bind] at hrun
  obtain ⟨r₁, h₁, hfirst, hrest⟩ := hrun.of_andThen
  cases r₁ with
  | error e =>
      cases hrest
      exact .inl ⟨e, rfl, hfirst⟩
  | ok x => exact .inr ⟨x, h₁, hfirst, hrest⟩

theorem called_of_finishes {k : Key} {op : Operation} {r : Except CacheError op.Reply}
    (hrun : (ExceptT.run (ask k op)).Finishes ns h r h') : h.Called ns k op r h' := by
  cases hrun with
  | call now _ hrest =>
      cases hrest
      exact Host.called_call ns k op h now

theorem fetched_of_finishes {guildId : String} {r : Except CacheError (List Ban)}
    (hrun : (ExceptT.run (askBans guildId)).Finishes ns h r h') :
    r = h.banLists h.fetches guildId
      ∧ ∃ now, h' = { h with now, fetches := guildId :: h.fetches } := by
  cases hrun with
  | fetch now _ hrest =>
      cases hrest
      exact ⟨rfl, now, rfl⟩

/-- Every call that the action may make is as `P` says. -/
def Makes (P : Key → Operation → Prop) (a : Action Key α) : Prop :=
  (ExceptT.run a).Makes P

namespace Makes

variable {P P' : Key → Operation → Prop}

theorem pure (x : α) : (Pure.pure x : Action Key α).Makes P :=
  trivial

theorem ask {k : Key} {op : Operation} (hop : P k op) : (Action.ask k op).Makes P :=
  ⟨hop, fun _ => trivial⟩

theorem askBans (guildId : String) : (Action.askBans guildId).Makes P :=
  fun _ => trivial

theorem bind {a : Action Key α} {f : α → Action Key β} (ha : a.Makes P)
    (hf : ∀ x, (f x).Makes P) : (a >>= f).Makes P := by
  unfold Makes
  rw [run_bind]
  refine Program.Makes.andThen (fun r => ?_) ha
  cases r with
  | ok x => exact hf x
  | error e => trivial

theorem found {a : Action Key α} (ha : a.Makes P) : a.found.Makes P :=
  Program.Makes.andThen (fun r => by rcases r with (_ | _) | _ <;> trivial) ha

theorem forM {f : β → Action Key Unit} {bs : List β} (hf : ∀ b, (f b).Makes P) :
    (bs.forM f).Makes P := by
  induction bs with
  | nil => exact pure ()
  | cons b bs ih => exact bind (hf b) fun _ => ih

end Makes

/-- A failed call makes the action fail. -/
def NeedsReplies (a : Action Key α) : Prop :=
  (ExceptT.run a).FailsInto fun r => ∃ e, r = .error e

namespace NeedsReplies

theorem pure (x : α) : (Pure.pure x : Action Key α).NeedsReplies :=
  trivial

theorem ask (k : Key) (op : Operation) : (Action.ask k op).NeedsReplies :=
  ⟨fun e => ⟨e, rfl⟩, fun _ => trivial⟩

theorem askBans (guildId : String) : (Action.askBans guildId).NeedsReplies :=
  fun _ => trivial

theorem bind {a : Action Key α} {f : α → Action Key β} (ha : a.NeedsReplies)
    (hf : ∀ x, (f x).NeedsReplies) : (a >>= f).NeedsReplies := by
  unfold NeedsReplies
  rw [run_bind]
  refine Program.FailsInto.andThen ?_ (fun r => ?_) ha
  · rintro r ⟨e, rfl⟩
    exact ⟨e, rfl⟩
  · cases r with
    | ok x => exact hf x
    | error e => trivial

end NeedsReplies

end Action

end GuildRelay
