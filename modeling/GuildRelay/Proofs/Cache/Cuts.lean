import GuildRelay.Proofs.Cache.Scripts
import GuildRelay.Proofs.Cache.Tables
import GuildRelay.Proofs.Cache.World
/-!
# Actions that are cut off

When a call fails, a handler ends there, and what it did before stays. `Program.Passes` says what
holds before each call of a program, so it holds of what a failure leaves behind, wherever it comes
(`Program.Passes.run_failing`). `Action.Passes` says the same of tables.

Of a single call there is nothing to prove but that the tables are right before it
(`Action.passes_single`), and an action passes on to the next from where the first one leads. What
every call of an action keeps need not be followed from call to call (`Action.Keeps`).
-/

namespace GuildRelay

namespace Host

/-- The host when nothing fails any more. -/
def recovered (h : Host) : Host :=
  { h with faults := fun _ => none }

variable {h : Host} (hfaults : ∀ n, h.faults n = none) (key : String) (op : Operation)
  (e : CacheError)

theorem call_failing_zero :
    (h.failing 0 1 e).call key op
      = (.error e, { h.failing 0 1 e with calls := ⟨key, op⟩ :: h.calls }) := by
  have hfault : (h.failing 0 1 e).faults (h.failing 0 1 e).calls.length = some e := by
    simp [failing]
  simp only [call, hfault]
  rfl

include hfaults

/-- A call before the one that fails is answered as if there were no failure. -/
theorem call_failing_succ (n : Nat) :
    (h.failing (n + 1) 1 e).call key op
      = ((h.call key op).1, (h.call key op).2.failing n 1 e) := by
  have hpass : (h.failing (n + 1) 1 e).faults (h.failing (n + 1) 1 e).calls.length = none := by
    simp only [failing, Bool.and_eq_true, decide_eq_true_eq]
    exact if_neg (by omega)
  have hlength : h.calls.length + (n + 1) = h.calls.length + 1 + n := by omega
  simp only [call, hpass, hfaults]
  simp [failing, hlength]

end Host

theorem Host.Content.answer_of_isRead {op : Operation} (h : op.isRead = true) (live : Bool)
    (c : Host.Content) : (c.answer live op).2 = c := by
  cases op <;> first | rfl | cases h

/-! ## Programs -/

namespace Program

variable {α β : Type} {s : Surroundings} {P P' : View → Prop} {v : View}

/-- Before each call of the program, `P` holds of the view. -/
def Passes (s : Surroundings) (P : View → Prop) : Program Key α → View → Prop
  | done _, _ => True
  | call k op next, v =>
    P v ∧ ∀ live reply, (s.fading = false → live = true) →
      (s.shares k = false → reply = ((v k).answer live op).1) →
        (next (.ok reply)).Passes s P (Function.update v k ((v k).answer live op).2)
  | fetchBans _ next, v => ∀ reply, (next reply).Passes s P v

theorem Passes.mono (h : ∀ v, P v → P' v) :
    ∀ {p : Program Key α} {v : View}, p.Passes s P v → p.Passes s P' v
  | done _, _, _ => trivial
  | call _ _ _, v, ⟨hv, hnext⟩ =>
      ⟨h v hv, fun live reply hl hr => (hnext live reply hl hr).mono h⟩
  | fetchBans _ _, _, hp => fun reply => (hp reply).mono h

theorem Passes.andThen {f : α → Program Key β} :
    ∀ {p : Program Key α} {v : View}, p.Passes s P v →
      (p.Ensures s v fun a v' => (f a).Passes s P v') → (p.andThen f).Passes s P v
  | done _, _, _, hf => hf
  | call _ _ _, _, ⟨hv, hnext⟩, ⟨_, _, hf⟩ =>
      ⟨hv, fun live reply hl hr => (hnext live reply hl hr).andThen (hf live reply hl hr)⟩
  | fetchBans _ _, _, hp, hf => fun reply => (hp reply).andThen (hf reply)

/-- The program is a single call. -/
def IsSingle : Program Key α → Prop
  | call _ _ next => ∀ reply, ∃ a, next reply = .done a
  | _ => False

theorem IsSingle.passes : ∀ {p : Program Key α}, p.IsSingle → P v → p.Passes s P v
  | call _ _ next, hp, hv => by
      refine ⟨hv, fun _ reply _ _ => ?_⟩
      obtain ⟨a, ha⟩ := hp (.ok reply)
      rw [ha]
      trivial

/-- The program only reads. -/
def OnlyReads : Program Key α → Prop
  | done _ => True
  | call _ op next => op.isRead = true ∧ ∀ reply, (next reply).OnlyReads
  | fetchBans _ _ => False

theorem OnlyReads.andThen {f : α → Program Key β} (hf : ∀ a, (f a).OnlyReads) :
    ∀ {p : Program Key α}, p.OnlyReads → (p.andThen f).OnlyReads
  | done a, _ => hf a
  | call _ _ _, ⟨hop, hnext⟩ => ⟨hop, fun reply => (hnext reply).andThen hf⟩

/-- A program that only reads passes nothing but what it starts from. -/
theorem OnlyReads.passes : ∀ {p : Program Key α} {v : View}, p.OnlyReads → P v → p.Passes s P v
  | done _, _, _, _ => trivial
  | call _ _ _, v, ⟨hop, hnext⟩, hv => by
      refine ⟨hv, fun live reply _ _ => (hnext (.ok reply)).passes ?_⟩
      rwa [Host.Content.answer_of_isRead hop, Function.update_eq_self]

/-- A program that ends because a call failed leaves a view behind that it passed. -/
theorem Passes.run_failing {ns : String} {e : CacheError} {Q : Except CacheError α → View → Prop}
    (he : e.isTransient = true) :
    ∀ {p : Program Key (Except CacheError α)} {v : View} {h : Host} (n : Nat),
      p.Stops → p.Passes s P v → p.Ensures s v Q → h.Shows ns s v →
      ((p.mapKeys (Key.text ns)).run Host.backend (h.failing n 1 e)).1 = .error e →
      ∃ v', P v' ∧
        ((p.mapKeys (Key.text ns)).run Host.backend (h.failing n 1 e)).2.recovered.Shows ns s v'
  | done r, _, _, _, hstops, _, _, _, hresult => by
      -- The program has come to its end before the call that was to fail.
      have hown := hstops e hresult
      exact absurd (he.symm.trans hown) Bool.noConfusion
  | call k op next, v, h, 0, ⟨hlast, _⟩, ⟨hv, _⟩, _, hshows, _ => by
      have hmiss : e ≠ .notFound := by
        rintro rfl
        cases he
      refine ⟨v, hv, ?_⟩
      simp only [mapKeys, run, Host.backend, Host.call_failing_zero, hlast e hmiss]
      exact ⟨fun _ => rfl, hshows.plain, hshows.other⟩
  | call k op next, _, h, n + 1, ⟨_, hstops⟩, ⟨_, hpasses⟩, ⟨hk, hop, hensures⟩, hshows,
      hresult => by
      obtain ⟨live, reply, hlive, hreply, hok, hafter⟩ := hshows.call hk hop
      simp only [mapKeys, run, Host.backend, Host.call_failing_succ hshows.faultless, hok]
        at hresult ⊢
      exact (hpasses live reply hlive hreply).run_failing he n (hstops reply)
        (hensures live reply hlive hreply) hafter hresult

end Program

/-! ## Actions -/

namespace Action

variable {α β : Type} {s : Surroundings} {P P' : Tables → Prop} {t : Tables}

/-- Before each call of the action, `P` holds of the tables. -/
def Passes (s : Surroundings) (a : Action Key α) (t : Tables) (P : Tables → Prop) : Prop :=
  (ExceptT.run a).Passes s (fun v => ∃ t', v = t'.content ∧ P t') t.content

/-- The action is a single call. -/
def IsSingle (a : Action Key α) : Prop :=
  (ExceptT.run a).IsSingle

theorem isSingle_ask (k : Key) (op : Operation) : (ask k op).IsSingle :=
  fun _ => ⟨_, rfl⟩

theorem passes_single {a : Action Key α} (ha : a.IsSingle) (hP : P t) : a.Passes s t P :=
  Program.IsSingle.passes ha ⟨t, rfl, hP⟩

theorem passes_pure (x : α) : (Pure.pure x : Action Key α).Passes s t P :=
  trivial

theorem Passes.mono {a : Action Key α} (ha : a.Passes s t P) (h : ∀ t', P t' → P' t') :
    a.Passes s t P' :=
  Program.Passes.mono (fun _ ⟨t', hv, hP⟩ => ⟨t', hv, h t' hP⟩) ha

/-- The action only reads. -/
def OnlyReads (a : Action Key α) : Prop :=
  (ExceptT.run a).OnlyReads

namespace OnlyReads

theorem pure (x : α) : (Pure.pure x : Action Key α).OnlyReads :=
  trivial

theorem ask {k : Key} {op : Operation} (hop : op.isRead = true) : (Action.ask k op).OnlyReads :=
  ⟨hop, fun _ => trivial⟩

theorem bind {a : Action Key α} {f : α → Action Key β} (ha : a.OnlyReads)
    (hf : ∀ x, (f x).OnlyReads) : (a >>= f).OnlyReads := by
  unfold OnlyReads
  rw [run_bind]
  refine Program.OnlyReads.andThen (fun r => ?_) ha
  cases r with
  | ok x => exact hf x
  | error e => trivial

theorem found {a : Action Key α} (ha : a.OnlyReads) : a.found.OnlyReads :=
  Program.OnlyReads.andThen (fun r => by rcases r with (_ | _) | _ <;> trivial) ha

theorem passes {a : Action Key α} (ha : a.OnlyReads) (hP : P t) : a.Passes s t P :=
  Program.OnlyReads.passes ha ⟨t, rfl, hP⟩

end OnlyReads

theorem Passes.bind {a : Action Key α} {f : α → Action Key β} (ha : a.Passes s t P)
    (hf : a.Leads s t fun r t' => match r with
      | .ok x => (f x).Passes s t' P
      | .error _ => True) : (a >>= f).Passes s t P := by
  unfold Passes
  rw [run_bind]
  refine Program.Passes.andThen ha (Program.Ensures.mono ?_ hf)
  rintro (e | x) v ⟨t', rfl, h⟩
  · trivial
  · exact h

/-- Something read from the tables at hand, and then the rest. -/
theorem OnlyReads.step {a : Action Key α} {f : α → Action Key β} (ha : a.OnlyReads) (hP : P t)
    (hf : a.Leads s t fun r t' => match r with
      | .ok x => (f x).Passes s t' P
      | .error _ => True) : (a >>= f).Passes s t P :=
  (ha.passes hP).bind hf

/-- A call from the tables at hand, and then the rest. -/
theorem IsSingle.step {a : Action Key α} {f : α → Action Key β} (ha : a.IsSingle) (hP : P t)
    (hf : a.Leads s t fun r t' => match r with
      | .ok x => (f x).Passes s t' P
      | .error _ => True) : (a >>= f).Passes s t P :=
  (passes_single ha hP).bind hf

/-- Going through a list, with tables that are computed from those before. -/
theorem Passes.forM {f : β → Action Key Unit} (step : Tables → β → Tables) {bs : List β}
    (hf : ∀ before b after, bs = before ++ b :: after →
      (f b).Passes s (before.foldl step t) P
        ∧ (f b).Leads s (before.foldl step t) fun r t' => match r with
          | .ok _ => t' = step (before.foldl step t) b
          | .error _ => True) :
    (bs.forM f).Passes s t P := by
  have hrest : ∀ after before, bs = before ++ after →
      (after.forM f).Passes s (before.foldl step t) P := by
    intro after
    induction after with
    | nil => exact fun _ _ => passes_pure ()
    | cons b after ih =>
        intro before hbs
        obtain ⟨hpasses, hleads⟩ := hf before b after hbs
        refine hpasses.bind (hleads.mono ?_)
        rintro (e | _) t' h
        · trivial
        · have hnext := ih (before ++ [b]) (by rw [hbs, List.append_assoc]; rfl)
          rw [List.foldl_append] at hnext
          rw [h]
          exact hnext
  exact hrest bs [] rfl

/-! ## What every call keeps -/

/-- Every call of the action keeps `P`. -/
def Keeps (s : Surroundings) (P : Tables → Prop) (a : Action Key α) : Prop :=
  ∀ t, P t → a.Passes s t P ∧ a.Leads s t fun _ t' => P t'

namespace Keeps

theorem pure (x : α) : Keeps s P (Pure.pure x : Action Key α) :=
  fun _ hP => ⟨passes_pure x, .pure hP⟩

theorem bind {a : Action Key α} {f : α → Action Key β} (ha : a.Keeps s P)
    (hf : ∀ x, (f x).Keeps s P) : (a >>= f).Keeps s P := by
  intro t hP
  obtain ⟨hpasses, hleads⟩ := ha t hP
  refine ⟨hpasses.bind (hleads.mono ?_), .bind (hleads.mono ?_)⟩
  · rintro (e | x) t' hP'
    · trivial
    · exact (hf x t' hP').1
  · rintro (e | x) t' hP'
    · exact hP'
    · exact (hf x t' hP').2

theorem forM {f : β → Action Key Unit} {bs : List β} (hf : ∀ b ∈ bs, (f b).Keeps s P) :
    (bs.forM f).Keeps s P := by
  induction bs with
  | nil => exact pure ()
  | cons b bs ih =>
      exact bind (hf b List.mem_cons_self) fun _ => ih fun b' hb' =>
        hf b' (List.mem_cons_of_mem _ hb')

theorem single {a : Action Key α} (ha : a.IsSingle)
    (h : ∀ t, P t → a.Leads s t fun _ t' => P t') : a.Keeps s P :=
  fun t hP => ⟨passes_single ha hP, h t hP⟩

end Keeps

end Action

/-! ## The calls of handlers -/

namespace Cache

open GuildRelay.Action Tables

variable {s : Surroundings} {settings : CacheSettings} {P : Tables → Prop}

theorem onlyReads_read {α : Type} [Decode α] (k : Key) : (read k : CacheAction α).OnlyReads := by
  refine .bind (.ask rfl) fun text => ?_
  cases text <;> trivial

theorem onlyReads_ids (k : Key) : (ids k).OnlyReads :=
  .ask rfl

theorem onlyReads_isMemberElsewhere (guildId userId : String) :
    ∀ guildIds, (isMemberElsewhere guildId userId guildIds).OnlyReads
  | [] => .pure false
  | other :: rest => by
      unfold isMemberElsewhere
      split
      · exact onlyReads_isMemberElsewhere guildId userId rest
      · refine .bind (.ask rfl) fun isMember => ?_
        cases isMember with
        | true => exact .pure true
        | false => exact onlyReads_isMemberElsewhere guildId userId rest

theorem onlyReads_canReadBans (botId guildId : String) : (canReadBans botId guildId).OnlyReads := by
  refine .bind (.found (.bind (onlyReads_read _) fun g => ?_)) fun permissions => ?_
  · split
    · exact .pure _
    · exact .bind (onlyReads_read _) fun m => .pure _
  · cases permissions <;> exact .pure _

section Records

variable {α : Type} [Encode α]

theorem isSingle_write (settings : CacheSettings) (k : Key) (a : α) :
    (write settings k a).IsSingle :=
  isSingle_ask k _

theorem isSingle_drop (k : Key) : (drop k).IsSingle :=
  isSingle_ask k _

theorem keeps_write (hs : s.Allows settings) (slot : Slot α) (a : α) (hk : slot.key.IsPlain)
    (h : ∀ t, P t → P (slot.put (some a) t)) : (write settings slot.key a).Keeps s P :=
  .single (isSingle_write settings slot.key a) fun t hP => leads_write hs slot a hk (h t hP)

theorem keeps_drop (slot : Slot α) (hk : slot.key.IsPlain)
    (h : ∀ t, P t → P (slot.put none t)) : (drop slot.key).Keeps s P :=
  .single (isSingle_drop slot.key) fun t hP => leads_drop slot hk (h t hP)

end Records

theorem isSingle_addIds (k : Key) (ids : List String) : (addIds k ids).IsSingle :=
  isSingle_ask k _

theorem isSingle_removeId (k : Key) (id : String) : (removeId k id).IsSingle :=
  isSingle_ask k _

theorem keeps_addIds (ix : Index) (ids : List String) (hk : ix.key.IsPlain)
    (h : ∀ t, P t → P (ix.put (insertAll ids (ix.get t)) t)) : (addIds ix.key ids).Keeps s P :=
  .single (isSingle_addIds ix.key ids) fun t hP => leads_addIds ix ids hk (h t hP)

theorem keeps_removeId (ix : Index) (id : String) (hk : ix.key.IsPlain)
    (h : ∀ t, P t → P (ix.put ((ix.get t).filter (· != id)) t)) : (removeId ix.key id).Keeps s P :=
  .single (isSingle_removeId ix.key id) fun t hP => leads_removeId ix id hk (h t hP)

end Cache

end GuildRelay
