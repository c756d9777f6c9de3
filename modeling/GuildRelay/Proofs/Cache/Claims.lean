import GuildRelay.Cache.Bans
import GuildRelay.Cache.Claim
import GuildRelay.Proofs.Cache.Scripts
import GuildRelay.Proofs.Event.Codec
/-!
# Claims

Consumers that may receive the same event claim it in the store into which events are folded and
ban lists are filled. A `Desk` is that store with everything under way on it: runs make their calls
in any order, consumers claim in between, time passes, and any call may fail. Beside them stands
what no step reads, the claims that were granted.

`Desk.isNew_once` is what consumers rely on: of the claims of one key, one is granted if none was
granted within the window before it. The invariant behind it, `Desk.Keeps`, says that the mark under
the name of a claim is live for just as long as some claim that was granted lasts. Handlers and ban
runs spare those names (`Action.Scripted.sparesClaims`), and no two events share one unless their
digests do.
-/

namespace GuildRelay

/-! ## Names of claims -/

theorem Digest.hexDigit_ne_colon : ∀ n < 16, hexDigit n ≠ ':' := by decide

theorem Digest.colon_not_mem_hexDigits : ∀ count n, ':' ∉ hexDigits count n
  | 0, _ => List.not_mem_nil
  | count + 1, n => by
      rw [hexDigits, List.mem_append, List.mem_singleton]
      rintro (h | h)
      · exact colon_not_mem_hexDigits count (n / 16) h
      · exact hexDigit_ne_colon (n % 16) (Nat.mod_lt n (by decide)) h.symm

theorem Event.colon_not_mem_digest (e : Event) : ':' ∉ e.digest.toList := by
  unfold digest Digest.sha256Hex
  rw [String.toList_ofList, Digest.State.hex, List.mem_flatMap]
  rintro ⟨w, -, hw⟩
  exact Digest.colon_not_mem_hexDigits 8 w.toNat hw

theorem EventKind.hyphen_not_mem_name (k : EventKind) : '-' ∉ k.name.toList := by
  cases k <;> decide

namespace Cache

theorem isPlain_claimKey (e : Event) (source : String) : (claimKey e source).IsPlain :=
  ⟨e.kind.hyphen_not_mem_name, e.colon_not_mem_digest⟩

/-- Consumers claim the same key only for the same event and under the same name, unless the hash
has a collision. -/
theorem claimKey_inj {ns : String} {e e' : Event} {source source' : String}
    (hhash : e.digest = e'.digest → e.toJson = e'.toJson)
    (h : (claimKey e source).text ns = (claimKey e' source').text ns) :
    e = e' ∧ source = source' := by
  have hkey := Key.text_inj (isPlain_claimKey e source) (isPlain_claimKey e' source') h
  obtain ⟨-, hdigest, hsource⟩ := Key.claim.inj hkey
  exact ⟨Event.toJson_inj (hhash hdigest), hsource⟩

end Cache

theorem Key.text_ne_of_not_isClaim {k k' : Key} (hk : k.isClaim = true) (hk' : k'.isClaim = false)
    (ns : String) : k.text ns ≠ k'.text ns := by
  intro h
  cases k <;> cases hk
  exact claim_localName_ne hk' _ _ _ (localName_eq_of_text h)

/-! ## One claim -/

theorem Host.cell_call_of_ne (h : Host) {key name : String} (op : Operation) (hne : name ≠ key) :
    (h.call key op).2.store.cell name = h.store.cell name := by
  unfold call
  cases h.faults h.calls.length with
  | some e => rfl
  | none => exact (Store.cell_answer h.now h.store key op name).trans (if_neg hne)

theorem Host.now_call (h : Host) (key : String) (op : Operation) :
    (h.call key op).2.now = h.now := by
  unfold call
  cases h.faults h.calls.length <;> rfl

/-- The cell with the mark of a claim. -/
def Cell.marked (c : Cell) (now : Nat) : Cell :=
  { c with value := some ⟨"1", some (now + Cache.claimWindow)⟩ }

theorem Cell.liveValue_marked (c : Cell) (now moment : Nat) :
    (c.marked now).liveValue moment = none ↔ now + Cache.claimWindow ≤ moment := by
  simp [marked, liveValue, StoredValue.isLive]

theorem Cell.answer_setIfAbsent (c : Cell) (now : Nat) :
    c.answer now (.setIfAbsent "1" Cache.claimWindow) =
      if c.liveValue now = none then (true, c.marked now) else (false, c) := by
  rw [Cell.answer]
  cases c.liveValue now <;> rfl

namespace Cache

open GuildRelay.Action

variable {name : String} {h : Host}

theorem run_isNew_of_fault (hfault : h.faults h.calls.length ≠ none) :
    (isNew name).run Host.backend h =
      (false, { h with calls := ⟨name, .setIfAbsent "1" claimWindow⟩ :: h.calls }) := by
  obtain ⟨e, he⟩ := Option.ne_none_iff_exists'.mp hfault
  simp only [isNew, Program.run, Host.backend, Host.call, he]

theorem run_isNew (hfault : h.faults h.calls.length = none) :
    (isNew name).run Host.backend h =
      let called := { h with calls := ⟨name, .setIfAbsent "1" claimWindow⟩ :: h.calls }
      let c := h.store.cell name
      if c.liveValue h.now = none then (true, { called with store := h.store.put name (c.marked h.now) })
      else (false, { called with store := h.store.put name c }) := by
  simp only [isNew, Program.run, Host.backend, Host.call, hfault, Store.answer,
    Cell.answer_setIfAbsent]
  by_cases hlive : (h.store.cell name).liveValue h.now = none
  · rw [if_pos hlive, if_pos hlive]
  · rw [if_neg hlive, if_neg hlive]

/-- A claim is granted if it does not fail and finds no mark. -/
theorem isNew_eq_true_iff (h : Host) (name : String) :
    ((isNew name).run Host.backend h).1 = true
      ↔ h.faults h.calls.length = none ∧ (h.store.cell name).liveValue h.now = none := by
  by_cases hfault : h.faults h.calls.length = none
  · rw [run_isNew hfault]
    by_cases hlive : (h.store.cell name).liveValue h.now = none <;> simp [hlive, hfault]
  · simp [run_isNew_of_fault hfault, hfault]

theorem now_isNew (h : Host) (name : String) :
    ((isNew name).run Host.backend h).2.now = h.now := by
  by_cases hfault : h.faults h.calls.length = none
  · rw [run_isNew hfault]
    by_cases hlive : (h.store.cell name).liveValue h.now = none <;> simp [hlive]
  · rw [run_isNew_of_fault hfault]

/-- A claim that is granted leaves a mark, and no claim changes anything else. -/
theorem cell_isNew (h : Host) (name name' : String) :
    ((isNew name).run Host.backend h).2.store.cell name' =
      if ((isNew name).run Host.backend h).1 = true ∧ name' = name
      then (h.store.cell name).marked h.now else h.store.cell name' := by
  by_cases hfault : h.faults h.calls.length = none
  · rw [run_isNew hfault]
    by_cases hlive : (h.store.cell name).liveValue h.now = none
    · simp [hlive, Store.cell_put]
    · have hsame : (if name' = name then h.store.cell name else h.store.cell name')
          = h.store.cell name' := by
        split
        · next heq => rw [heq]
        · rfl
      simpa [hlive, Store.cell_put] using hsame
  · simp [run_isNew_of_fault hfault]

/-- Ban runs spare the marks of claims. -/
theorem sparesClaims_initializeBans (guildId botId : String) :
    (ExceptT.run (initializeBans guildId botId)).SparesClaims := by
  refine sparesClaims_bind (scripted_canReadBans botId guildId).sparesClaims fun mayRead => ?_
  cases mayRead with
  | false =>
      refine Scripted.sparesClaims ?_
      exact .bind (scripted_drop rfl) fun _ => scripted_removeId rfl guildId
  | true =>
      refine sparesClaims_bind ⟨rfl, fun _ => trivial⟩ fun isFilled => ?_
      cases isFilled with
      | true => exact trivial
      | false =>
          refine sparesClaims_bind (scripted_drop rfl).sparesClaims fun _ =>
            sparesClaims_bind (fun _ => trivial) fun bans => Scripted.sparesClaims ?_
          exact .bind (scripted_addIds rfl _) fun _ => scripted_addIds rfl [guildId]

theorem sparesClaims_attemptBackfill (guildId botId : String) : ∀ attempts : Nat,
    (attemptBackfill guildId botId attempts).SparesClaims
  | 0 => trivial
  | attempts + 1 => by
      refine (sparesClaims_initializeBans guildId botId).andThen fun r => ?_
      cases r with
      | ok _ => exact trivial
      | error e =>
          dsimp only
          split
          · exact sparesClaims_attemptBackfill guildId botId attempts
          · exact trivial

end Cache

/-! ## Desks -/

/-- A claim that was granted. -/
structure Grant where
  /-- The name of the key. -/
  name : String
  moment : Nat

/-- The claim does not last any more. -/
def Grant.IsOver (g : Grant) (now : Nat) : Prop :=
  g.moment + Cache.claimWindow ≤ now

/-- A store that is shared, what is under way on it, and the claims that were granted, the latest
first. -/
structure Desk where
  host : Host
  running : List (Program Key Unit) := []
  grants : List Grant := []

namespace Desk

/-- The answer to a claim of a key, and the host after it. -/
def isNew (d : Desk) (name : String) : Bool × Host :=
  (Cache.isNew name).run Host.backend d.host

/-- The desk after a claim of a key. -/
def claim (d : Desk) (name : String) : Desk where
  host := (d.isNew name).2
  running := d.running
  grants := if (d.isNew name).1 then ⟨name, d.host.now⟩ :: d.grants else d.grants

/-- One step at a desk. Whatever is under way makes one call at a time. -/
inductive Step (ns : String) : Desk → Desk → Prop
  | wait {d : Desk} {now : Nat} : d.host.now ≤ now →
      Step ns d { d with host := { d.host with now } }
  | event {d : Desk} (settings : CacheSettings) (botId : String) (e : Event) :
      Step ns d { d with
        running := (ExceptT.run (Cache.apply settings botId e)).andThen (fun _ => .done ())
          :: d.running }
  | banRun {d : Desk} (guildId botId : String) (attempts : Nat) :
      Step ns d { d with running := Cache.attemptBackfill guildId botId attempts :: d.running }
  | call {d : Desk} {before after : List (Program Key Unit)} {k : Key} {op : Operation}
      {next : Except CacheError op.Reply → Program Key Unit} :
      d.running = before ++ .call k op next :: after →
      Step ns d { d with
        host := (d.host.call (k.text ns) op).2
        running := before ++ next (d.host.call (k.text ns) op).1 :: after }
  | fetch {d : Desk} {before after : List (Program Key Unit)} {guildId : String}
      {next : Except CacheError (List Ban) → Program Key Unit} :
      d.running = before ++ .fetchBans guildId next :: after →
      Step ns d { d with
        host := (d.host.fetchBans guildId).2
        running := before ++ next (d.host.fetchBans guildId).1 :: after }
  | claim {d : Desk} (e : Event) (source : String) :
      Step ns d (d.claim ((Cache.claimKey e source).text ns))

/-- The desks that steps lead to from an empty store. Its calls may fail at any time. -/
inductive Reachable (ns : String) : Desk → Prop
  | start {h : Host} : h.store = {} → Reachable ns { host := h }
  | step {d d' : Desk} : Reachable ns d → Step ns d d' → Reachable ns d'

/-! ## Marks and grants -/

/-- Nothing that is under way touches a mark, and under the name of a claim a mark is live until all
the claims that were granted are over. -/
structure Keeps (ns : String) (d : Desk) : Prop where
  spares : ∀ p ∈ d.running, p.SparesClaims
  marks : ∀ k : Key, k.isClaim = true → ∀ moment, d.host.now ≤ moment →
    ((d.host.store.cell (k.text ns)).liveValue moment = none
      ↔ ∀ g ∈ d.grants, g.name = k.text ns → g.IsOver moment)

variable {ns : String} {d d' : Desk}

theorem Keeps.run (h : d.Keeps ns) {p : Program Key Unit} (hp : p.SparesClaims) :
    { d with running := p :: d.running }.Keeps ns where
  spares q hq := by
    rcases List.mem_cons.mp hq with rfl | hq
    · exact hp
    · exact h.spares q hq
  marks := h.marks

theorem Keeps.resume (h : d.Keeps ns) {before after : List (Program Key Unit)}
    {p p' : Program Key Unit} (hrunning : d.running = before ++ p :: after)
    (hp : p.SparesClaims → p'.SparesClaims) :
    ∀ q ∈ before ++ p' :: after, q.SparesClaims := by
  have hspares := h.spares
  rw [hrunning] at hspares
  intro q hq
  rcases List.mem_append.mp hq with hq | hq
  · exact hspares q (List.mem_append_left _ hq)
  · rcases List.mem_cons.mp hq with rfl | hq
    · exact hp (hspares p (List.mem_append_right _ List.mem_cons_self))
    · exact hspares q (List.mem_append_right _ (List.mem_cons_of_mem _ hq))

theorem Keeps.call (h : d.Keeps ns) {before after : List (Program Key Unit)} {k : Key}
    {op : Operation} {next : Except CacheError op.Reply → Program Key Unit}
    (hrunning : d.running = before ++ .call k op next :: after) :
    Keeps ns { d with
      host := (d.host.call (k.text ns) op).2
      running := before ++ next (d.host.call (k.text ns) op).1 :: after } where
  spares := h.resume hrunning fun hp => hp.2 _
  marks k' hk' moment hmoment := by
    obtain ⟨hk, -⟩ : (Program.call k op next).SparesClaims :=
      h.spares _ (by rw [hrunning]; exact List.mem_append_right _ List.mem_cons_self)
    rw [Host.now_call] at hmoment
    rw [d.host.cell_call_of_ne op (Key.text_ne_of_not_isClaim hk' hk ns)]
    exact h.marks k' hk' moment hmoment

theorem Keeps.claim (h : d.Keeps ns) {k : Key} (hk : k.isClaim = true) :
    (d.claim (k.text ns)).Keeps ns where
  spares := h.spares
  marks k' hk' moment hmoment := by
    have hmoment : d.host.now ≤ moment := Cache.now_isNew d.host (k.text ns) ▸ hmoment
    have hold := h.marks k' hk' moment hmoment
    show ((d.isNew (k.text ns)).2.store.cell _).liveValue moment = none
      ↔ ∀ g ∈ (if (d.isNew (k.text ns)).1 then _ else _), _
    rw [isNew, Cache.cell_isNew]
    cases hgranted : ((Cache.isNew (k.text ns)).run Host.backend d.host).1 with
    | false => simpa using hold
    | true =>
        obtain ⟨-, hover⟩ := (Cache.isNew_eq_true_iff d.host _).mp hgranted
        have hover := (h.marks k hk d.host.now (Nat.le_refl _)).mp hover
        by_cases hname : k'.text ns = k.text ns
        · -- The mark that is written outlasts all claims before, for those are over already.
          rw [if_pos ⟨rfl, hname⟩, Cell.liveValue_marked]
          simp only [if_true, List.mem_cons]
          constructor
          · rintro hnow g (rfl | hg) hgname
            · exact hnow
            · exact Nat.le_trans (hover g hg (hgname.trans hname)) hmoment
          · exact fun hall => hall ⟨k.text ns, d.host.now⟩ (.inl rfl) hname.symm
        · rw [if_neg fun h => hname h.2, hold]
          simp only [if_true, List.mem_cons]
          constructor
          · rintro hall g (rfl | hg) hgname
            · exact absurd hgname.symm hname
            · exact hall g hg hgname
          · exact fun hall g hg => hall g (.inr hg)

theorem Step.keeps (hstep : Step ns d d') (h : d.Keeps ns) : d'.Keeps ns := by
  cases hstep with
  | wait hnow => exact ⟨h.spares, fun k hk moment hm => h.marks k hk moment (Nat.le_trans hnow hm)⟩
  | event settings botId e =>
      refine h.run ((Cache.scripted_apply settings botId e).sparesClaims.andThen fun _ => ?_)
      exact trivial
  | banRun guildId botId attempts => exact h.run (Cache.sparesClaims_attemptBackfill ..)
  | call hrunning => exact h.call hrunning
  | fetch hrunning => exact ⟨h.resume hrunning fun hp => hp _, h.marks⟩
  | claim e source => exact h.claim rfl

theorem Reachable.keeps (h : Reachable ns d) : d.Keeps ns := by
  induction h with
  | start hstore =>
      refine ⟨fun p hp => absurd hp List.not_mem_nil, fun k _ moment _ => ?_⟩
      simp [hstore, Store.cell, Cell.liveValue]
  | step _ hstep ih => exact hstep.keeps ih

/-- A claim is granted just if it does not fail and all that were granted before for its key are
over. One that fails changes nothing but the record of calls. Two consumers have the same key only
if they have the same event and the same name, unless the hash has a collision. -/
theorem isNew_once (h : Reachable ns d) (e : Event) (source : String) :
    let name := (Cache.claimKey e source).text ns
    ((d.isNew name).1 = true ↔ d.host.faults d.host.calls.length = none
      ∧ ∀ g ∈ d.grants, g.name = name → g.IsOver d.host.now)
    ∧ (d.host.faults d.host.calls.length ≠ none → d.isNew name = (false,
      { d.host with calls := ⟨name, .setIfAbsent "1" Cache.claimWindow⟩ :: d.host.calls }))
    ∧ ∀ e' source', (e.digest = e'.digest → e.toJson = e'.toJson) →
      name = (Cache.claimKey e' source').text ns → e = e' ∧ source = source' := by
  refine ⟨?_, fun hfault => ?_, fun e' source' => Cache.claimKey_inj⟩
  · exact (Cache.isNew_eq_true_iff d.host _).trans (and_congr_right fun _ =>
      h.keeps.marks (Cache.claimKey e source) rfl d.host.now (Nat.le_refl _))
  · exact Cache.run_isNew_of_fault hfault

/-- Of two claims of an event in one moment the first is granted and the second is not. -/
theorem isNew_once_in_a_moment :
    let name := (Cache.claimKey (.messageDelete { id := "5" }) "relay").text "project-d"
    let d : Desk := { host := {} }
    (d.isNew name).1 = true ∧ ((d.claim name).isNew name).1 = false := by
  intro name d
  have hd : Reachable "project-d" d := .start rfl
  have hfirst : (d.isNew name).1 = true :=
    (isNew_once hd _ "relay").1.mpr ⟨rfl, fun g hg => absurd hg List.not_mem_nil⟩
  refine ⟨hfirst, Bool.eq_false_iff.mpr fun hsecond => ?_⟩
  obtain ⟨-, hover⟩ := (isNew_once (hd.step (.claim _ "relay")) _ "relay").1.mp hsecond
  have hgranted : ⟨name, 0⟩ ∈ (d.claim name).grants := by
    rw [claim, hfirst]
    exact List.mem_cons_self
  have hnow : (d.claim name).host.now = 0 := Cache.now_isNew d.host name
  exact absurd (hnow ▸ hover _ hgranted rfl) (by decide : ¬ 0 + Cache.claimWindow ≤ 0)

end Desk

end GuildRelay
