import GuildRelay.Proofs.Cache.Lookups
import GuildRelay.Proofs.Redis.Mirror
/-!
# Programs on a shelf

A `Shelf` has a cell for every key, by the key itself, and says no more: neither what the keys are
called nor what kind of store it is. `Program.exec` is what a program does on a shelf.
`Program.Settles` leaves one thing open, the order in which members are listed, and asks that
something holds whatever the order; so a program is settled (`Program.SettledAt`) when its outcome
does not depend on it.

Both stores hold shelves. A store in memory does just what is done on the shelf (`Host.Holds.run`),
and a server does what it may do if members are listed in some order (`RedisHost.Holds.run`). A
typed program that lists no members is settled (`Program.Typed.settledAt`); programs that do are
settled one by one.
-/

namespace GuildRelay

/-- What is under the keys of a cache, and the guilds whose ban lists were fetched. -/
structure Shelf where
  cells : Key → Cell := fun _ => {}
  fetches : List String := []

structure Moment where
  now : Nat
  banLists : List String → String → Except CacheError (List Ban)

namespace Shelf

def reply (w : Shelf) (now : Nat) (k : Key) (op : Operation) : op.Reply :=
  ((w.cells k).answer now op).1

def after (w : Shelf) (now : Nat) (k : Key) (op : Operation) : Shelf :=
  { w with cells := Function.update w.cells k ((w.cells k).answer now op).2 }

def fetched (w : Shelf) (guildId : String) : Shelf :=
  { w with fetches := guildId :: w.fetches }

def without (w : Shelf) (ks : List Key) : Shelf :=
  { w with cells := fun k => if k ∈ ks then {} else w.cells k }

/-- Under every key there is only what it is for, and what it admits. Sets are in order. -/
structure Fits (w : Shelf) : Prop where
  whole : ∀ k, (w.cells k).whole.Fits k
  inOrder : ∀ k, (w.cells k).InOrder

variable {w : Shelf} {k : Key} {op : Operation}

theorem fits_empty : ({} : Shelf).Fits :=
  ⟨View.fits_empty, fun _ => List.Pairwise.nil⟩

theorem after_self (w : Shelf) (now : Nat) (k : Key) (op : Operation) :
    (w.after now k op).cells k = ((w.cells k).answer now op).2 :=
  Function.update_self ..

theorem after_of_ne {k' : Key} (h : k' ≠ k) (now : Nat) :
    (w.after now k op).cells k' = w.cells k' :=
  Function.update_of_ne h ..

theorem Fits.after (hw : w.Fits) (hop : op.Suits k) (now : Nat) : (w.after now k op).Fits := by
  refine ⟨fun k' => ?_, fun k' => ?_⟩ <;> by_cases hk : k' = k
  · subst hk
    rw [after_self, Cell.whole_answer]
    exact (hw.whole k').answer hop _
  · rw [after_of_ne hk]
    exact hw.whole k'
  · subst hk
    rw [after_self]
    exact (hw.inOrder k').answer now op
  · rw [after_of_ne hk]
    exact hw.inOrder k'

theorem Fits.without (hw : w.Fits) (ks : List Key) : (w.without ks).Fits := by
  refine ⟨fun k => ?_, fun k => ?_⟩ <;> simp only [Shelf.without] <;> split
  · exact View.fits_empty k
  · exact hw.whole k
  · exact List.Pairwise.nil
  · exact hw.inOrder k

theorem Fits.fetched (hw : w.Fits) (guildId : String) : (w.fetched guildId).Fits :=
  ⟨hw.whole, hw.inOrder⟩

theorem Fits.reads (hw : w.Fits) (now : Nat) : op.Reads k (w.reply now k op) := by
  unfold reply
  rw [Cell.reply_answer]
  exact (hw.whole k).reads _ op

theorem after_of_isRead (h : op.isRead = true) (now : Nat) : w.after now k op = w := by
  unfold after
  rw [Cell.answer_of_isRead h, Function.update_eq_self]

theorem after_delete (now : Nat) : w.after now k .delete = w.without [k] := by
  refine congrArg (fun cells => { w with cells }) (funext fun k' => ?_)
  by_cases h : k' = k
  · subst h
    rw [Function.update_self, if_pos (List.mem_singleton_self _)]
    rfl
  · rw [Function.update_of_ne h, if_neg (mt List.mem_singleton.mp h)]

@[simp] theorem without_nil (w : Shelf) : w.without [] = w :=
  congrArg (fun cells => { w with cells }) (funext fun _ => if_neg List.not_mem_nil)

theorem without_without (ks ks' : List Key) :
    (w.without ks).without ks' = w.without (ks ++ ks') := by
  refine congrArg (fun cells => { w with cells }) (funext fun k => ?_)
  by_cases h : k ∈ ks <;> by_cases h' : k ∈ ks' <;> simp [h, h', Shelf.without]

theorem without_perm {ks ks' : List Key} (h : ks.Perm ks') : w.without ks = w.without ks' := by
  refine congrArg (fun cells => { w with cells }) (funext fun k => ?_)
  simp only [h.mem_iff]

end Shelf

/-! ## Programs -/

namespace Program

variable {α β : Type} {m : Moment}

/-- The result of a program on a shelf, and the shelf after it. -/
def exec (m : Moment) : Program Key α → Shelf → α × Shelf
  | done a, w => (a, w)
  | call k op next, w => (next (.ok (w.reply m.now k op))).exec m (w.after m.now k op)
  | fetchBans guildId next, w => (next (m.banLists w.fetches guildId)).exec m (w.fetched guildId)

/-- In whatever order members are listed, the calls of the program suit their keys and it ends as
`Q` says. -/
def Settles (m : Moment) : Program Key α → Shelf → (α → Shelf → Prop) → Prop
  | done a, w, Q => Q a w
  | call k op next, w, Q =>
    k.IsPlain ∧ op.Suits k ∧ op.IsBounded ∧ ∀ reply, op.Alike (w.reply m.now k op) reply →
      (next (.ok reply)).Settles m (w.after m.now k op) Q
  | fetchBans guildId next, w, Q =>
    (next (m.banLists w.fetches guildId)).Settles m (w.fetched guildId) Q

theorem Settles.mono {Q Q' : α → Shelf → Prop} (h : ∀ a w, Q a w → Q' a w) :
    ∀ {p : Program Key α} {w : Shelf}, p.Settles m w Q → p.Settles m w Q'
  | done a, w, hp => h a w hp
  | call _ _ _, _, ⟨hk, hop, hb, hnext⟩ =>
      ⟨hk, hop, hb, fun reply hreply => (hnext reply hreply).mono h⟩
  | fetchBans guildId next, w, hp =>
      Settles.mono (p := next (m.banLists w.fetches guildId)) h hp

theorem Settles.andThen {f : α → Program Key β} {P : α → Shelf → Prop} {Q : β → Shelf → Prop}
    (hf : ∀ a w, P a w → (f a).Settles m w Q) :
    ∀ {p : Program Key α} {w : Shelf}, p.Settles m w P → (p.andThen f).Settles m w Q
  | done a, w, hp => hf a w hp
  | call _ _ _, _, ⟨hk, hop, hb, hnext⟩ =>
      ⟨hk, hop, hb, fun reply hreply => (hnext reply hreply).andThen hf⟩
  | fetchBans guildId next, w, hp =>
      Settles.andThen (p := next (m.banLists w.fetches guildId)) hf hp

theorem Settles.exec {Q : α → Shelf → Prop} :
    ∀ {p : Program Key α} {w : Shelf}, p.Settles m w Q → Q (p.exec m w).1 (p.exec m w).2
  | done _, _, hp => hp
  | call _ _ _, _, ⟨_, _, _, hnext⟩ => (hnext _ .rfl).exec
  | fetchBans guildId next, w, hp =>
      Settles.exec (p := next (m.banLists w.fetches guildId)) hp

theorem exec_andThen (f : α → Program Key β) : ∀ (p : Program Key α) (w : Shelf),
    (p.andThen f).exec m w = (f (p.exec m w).1).exec m (p.exec m w).2
  | done _, _ => rfl
  | call k op next, w =>
      exec_andThen f (next (.ok (w.reply m.now k op))) (w.after m.now k op)
  | fetchBans guildId next, w =>
      exec_andThen f (next (m.banLists w.fetches guildId)) (w.fetched guildId)

/-- The program ends as `P` says, and its outcome is the same in whatever order members are listed,
as far as `R` looks at the result. -/
structure SettledAt (m : Moment) (p : Program Key α) (w : Shelf) (P : α → Prop)
    (R : α → α → Prop) : Prop where
  result : P (p.exec m w).1
  fits : (p.exec m w).2.Fits
  settles : p.Settles m w fun a w' => R (p.exec m w).1 a ∧ w' = (p.exec m w).2

theorem SettledAt.mono {p : Program Key α} {w : Shelf} {P P' : α → Prop} {R R' : α → α → Prop}
    (hp : p.SettledAt m w P R) (hP : ∀ a, P a → P' a) (hR : ∀ a a', R a a' → R' a a') :
    p.SettledAt m w P' R' :=
  ⟨hP _ hp.result, hp.fits, hp.settles.mono fun a _ h => ⟨hR _ a h.1, h.2⟩⟩

theorem SettledAt.of_settles {p : Program Key α} {w w₀ : Shelf} {P : α → Prop} {a₀ : α}
    (ha : P a₀) (hw : w₀.Fits) (h : p.Settles m w fun a w' => a = a₀ ∧ w' = w₀) :
    p.SettledAt m w P Eq := by
  obtain ⟨hresult, hshelf⟩ := h.exec
  refine ⟨hresult ▸ ha, hshelf ▸ hw, h.mono fun a w' h => ?_⟩
  rw [hresult, hshelf]
  exact ⟨h.1.symm, h.2⟩

theorem SettledAt.andThen {p : Program Key α} {f : α → Program Key β} {w : Shelf} {P : α → Prop}
    {Q : β → Prop} {R : β → β → Prop} (hp : p.SettledAt m w P Eq)
    (hf : ∀ a w', P a → w'.Fits → (f a).SettledAt m w' Q R) :
    (p.andThen f).SettledAt m w Q R := by
  have hrest := hf _ _ hp.result hp.fits
  have hexec := exec_andThen (m := m) f p w
  refine ⟨?_, ?_, ?_⟩ <;> rw [hexec]
  · exact hrest.result
  · exact hrest.fits
  · refine Settles.andThen ?_ hp.settles
    rintro a w' ⟨rfl, rfl⟩
    exact hrest.settles

/-- A typed program that lists no members is settled. -/
theorem Typed.settledAt {l : Liberties} (hl : l.listing = false) (hu : l.unbounded = false)
    {P : α → Prop} : ∀ {p : Program Key α} {w : Shelf}, p.Typed l P → w.Fits → p.SettledAt m w P Eq
  | done a, w, hp, hw => ⟨hp, hw, rfl, rfl⟩
  | call k op next, w, ⟨hk, hop, hpermits, hnext⟩, hw => by
      have hrest : (next (.ok (w.reply m.now k op))).SettledAt m (w.after m.now k op) P Eq :=
        (hnext _ (hw.reads m.now)).settledAt hl hu (hw.after hop m.now)
      refine ⟨hrest.result, hrest.fits, hk, hop, hpermits.2 hu, fun reply hreply => ?_⟩
      -- Only a listing leaves its answer open, and the program makes none.
      have hsame : reply = w.reply m.now k op := by
        cases op with
        | setMembers => exact nomatch hl.symm.trans (hpermits.1 rfl)
        | _ => exact hreply.symm
      rw [hsame]
      exact hrest.settles
  | fetchBans guildId next, w, ⟨_, hnext⟩, hw =>
      have hrest : (next (m.banLists w.fetches guildId)).SettledAt m (w.fetched guildId) P Eq :=
        (hnext _).settledAt hl hu (hw.fetched guildId)
      ⟨hrest.result, hrest.fits, hrest.settles⟩

end Program

/-! ## Stores that hold a shelf -/

/-- The store in memory has what is on the shelf, and nothing else. -/
structure Host.Holds (ns : String) (m : Moment) (w : Shelf) (h : Host) : Prop where
  faultless : ∀ n, h.faults n = none
  now : h.now = m.now
  banLists : h.banLists = m.banLists
  fetches : h.fetches = w.fetches
  plain : ∀ k : Key, k.IsPlain → h.store.cell (k.text ns) = w.cells k
  other : ∀ name, (∀ k : Key, k.IsPlain → k.text ns ≠ name) → h.store.cell name = {}

/-- The server has what is on the shelf, and nothing else, and has refused nothing. -/
structure RedisHost.Holds (ns : String) (m : Moment) (w : Shelf) (d : RedisHost) : Prop where
  now : d.server.now = m.now
  banLists : d.banLists = m.banLists
  fetches : d.fetches = w.fetches
  plain : ∀ k : Key, k.IsPlain → (w.cells k).MirroredBy m.now (d.server.stored (k.text ns))
  other : ∀ name, (∀ k : Key, k.IsPlain → k.text ns ≠ name) → d.server.stored name = none
  refusesNone : d.server.RefusesNone

section Stores

variable {ns : String} {m : Moment} {w : Shelf}

theorem Host.Holds.call {h : Host} (hw : h.Holds ns m w) {k : Key} (hk : k.IsPlain)
    (op : Operation) : (h.call (k.text ns) op).1 = .ok (w.reply m.now k op)
      ∧ (h.call (k.text ns) op).2.Holds ns m (w.after m.now k op) := by
  have hreply : w.reply m.now k op = (h.store.answer h.now (k.text ns) op).1 := by
    rw [Shelf.reply, ← hw.plain k hk, ← hw.now]
    rfl
  refine ⟨?_, ?_⟩
  · simp only [Host.call, hw.faultless, hreply]
  · simp only [Host.call, hw.faultless]
    refine ⟨hw.faultless, hw.now, hw.banLists, hw.fetches, fun k' hk' => ?_, fun name hname => ?_⟩
    · rw [Store.cell_answer, hw.now]
      by_cases hkk : k' = k
      · subst hkk
        rw [if_pos rfl, hw.plain k' hk', Shelf.after_self]
      · rw [if_neg (mt (Key.text_inj hk' hk) hkk), hw.plain k' hk', Shelf.after_of_ne hkk]
    · rw [Store.cell_answer, if_neg (hname k hk).symm]
      exact hw.other name hname

theorem RedisHost.Holds.call {d : RedisHost} (hd : d.Holds ns m w) (hw : w.Fits) {k : Key}
    (hk : k.IsPlain) {op : Operation} (hop : op.Suits k) (hb : op.IsBounded) :
    (∃ reply, (d.call (k.text ns) op).1 = .ok reply ∧ op.Alike (w.reply m.now k op) reply)
      ∧ (d.call (k.text ns) op).2.Holds ns m (w.after m.now k op) := by
  have hcell := hd.plain k hk
  rw [← hd.now] at hcell
  have hmatches := RedisServer.call_matches hcell (hw.whole k) (hw.inOrder k) hop hb
  have hreply := hmatches.reply
  have hafter := hmatches.cell
  rw [hd.now] at hreply hafter
  refine ⟨hreply, hmatches.now.trans hd.now, hd.banLists, hd.fetches, fun k' hk' => ?_,
    fun name hname => ?_, hmatches.log hd.refusesNone⟩
  · by_cases hkk : k' = k
    · subst hkk
      rw [Shelf.after_self]
      exact hafter
    · rw [Shelf.after_of_ne hkk]
      have hother := hmatches.other (k'.text ns) (mt (Key.text_inj hk' hk) hkk)
      exact hother ▸ hd.plain k' hk'
  · exact (hmatches.other name (hname k hk).symm).trans (hd.other name hname)

variable {α : Type}

/-- In memory a program does what it does on the shelf. -/
theorem Host.Holds.run {Q : α → Shelf → Prop} : ∀ {p : Program Key α} {w : Shelf} {h : Host},
    p.Settles m w Q → h.Holds ns m w →
      ((p.mapKeys (Key.text ns)).run Host.backend h).1 = (p.exec m w).1
      ∧ ((p.mapKeys (Key.text ns)).run Host.backend h).2.Holds ns m (p.exec m w).2
  | .done _, _, _, _, hw => ⟨rfl, hw⟩
  | .call k op next, w, h, ⟨hk, _, _, hnext⟩, hw => by
      obtain ⟨hreply, hafter⟩ := hw.call hk op
      have hrun := Host.Holds.run (hnext (w.reply m.now k op) .rfl) hafter
      rw [← hreply] at hrun
      rw [Program.exec, ← hreply]
      exact hrun
  | .fetchBans guildId next, w, h, hp, hw => by
      have hreply : h.banLists h.fetches guildId = m.banLists w.fetches guildId := by
        rw [hw.banLists, hw.fetches]
      have hafter : (h.fetchBans guildId).2.Holds ns m (w.fetched guildId) :=
        ⟨hw.faultless, hw.now, hw.banLists, congrArg (guildId :: ·) hw.fetches, hw.plain, hw.other⟩
      have hrun := Host.Holds.run (p := next (m.banLists w.fetches guildId)) hp hafter
      rw [← hreply] at hrun
      rw [Program.exec, ← hreply]
      exact hrun

/-- On a server a program ends as settled. -/
theorem RedisHost.Holds.run {Q : α → Shelf → Prop} :
    ∀ {p : Program Key α} {w : Shelf} {d : RedisHost}, p.Settles m w Q → w.Fits → d.Holds ns m w →
      ∃ w', Q ((p.mapKeys (Key.text ns)).run RedisHost.backend d).1 w'
        ∧ ((p.mapKeys (Key.text ns)).run RedisHost.backend d).2.Holds ns m w'
  | .done _, w, _, hp, _, hd => ⟨w, hp, hd⟩
  | .call k op next, w, d, ⟨hk, hop, hb, hnext⟩, hw, hd => by
      obtain ⟨⟨reply, hreply, halike⟩, hafter⟩ := hd.call hw hk hop hb
      have hrun := RedisHost.Holds.run (hnext reply halike) (hw.after hop m.now) hafter
      rw [← hreply] at hrun
      exact hrun
  | .fetchBans guildId next, w, d, hp, hw, hd => by
      have hreply : d.banLists d.fetches guildId = m.banLists w.fetches guildId := by
        rw [hd.banLists, hd.fetches]
      have hafter : (d.fetchBans guildId).2.Holds ns m (w.fetched guildId) :=
        ⟨hd.now, hd.banLists, congrArg (guildId :: ·) hd.fetches, hd.plain, hd.other,
          hd.refusesNone⟩
      have hrun := RedisHost.Holds.run (p := next (m.banLists w.fetches guildId)) hp
        (hw.fetched guildId) hafter
      rw [← hreply] at hrun
      exact hrun

end Stores

end GuildRelay
