import GuildRelay.Proofs.Cache.Key
import GuildRelay.Store.Host
import Mathlib.Logic.Function.Basic
/-!
# What a program ensures

A `View` tells what is kept under each key, by the key itself and not by its name. A host shows a
view when the cells of all plain keys agree with it and every other cell is empty (`Host.Shows`).
Time is left out of a view: a value stays in it when it expires, and a read of it may then find
nothing.

`Program.Ensures` follows a program through views. It is demonic: the postcondition has to hold
however the surroundings behave. With `fading` a value may have expired whenever it is read, and
with `banRuns` others write to the ban data between any two calls, so that replies about it may be
anything. Every key that a program calls has to be plain, for otherwise its cell may be that of
another key.

`Program.Ensures.run` is what this is for: whatever a program ensures holds of its result and of the
host that it leaves behind. The step from one call to the next is `Host.Shows.call`.
-/

namespace GuildRelay

/-- What is kept under each key, expired or not. -/
abbrev View := Key → Host.Content

/-- What may happen beside a program. -/
structure Surroundings where
  /-- Values may expire. -/
  fading : Bool
  /-- Ban lists are being filled. -/
  banRuns : Bool

/-- The key belongs to what is known about bans. -/
def Key.isBan : Key → Bool
  | guildBannedUserIds _ => true
  | banInitializedGuildIds => true
  | _ => false

/-- Others may write to the key. -/
def Surroundings.shares (s : Surroundings) (k : Key) : Bool :=
  s.banRuns && k.isBan

namespace Operation

/-- The operation writes no value that expires. -/
def isLasting : Operation → Bool
  | set _ ttl => ttl.isNone
  | setIfAbsent _ _ => false
  | _ => true

/-- The operation is about the set, or drops everything. -/
def isOnSet : Operation → Bool
  | delete => true
  | addToSet _ => true
  | removeFromSet _ => true
  | setMembers => true
  | isSetMember _ => true
  | _ => false

/-- The operation may be asked of the key: what cannot expire is not written to expire, and ban data
is kept in sets. -/
def Fits (s : Surroundings) (k : Key) (op : Operation) : Prop :=
  (s.fading = false → op.isLasting = true) ∧ (k.isBan = true → op.isOnSet = true)

end Operation

/-- The answer to an operation, and what is kept after it. Nothing is read of a value that is not
live. -/
def Host.Content.answer (live : Bool) (c : Host.Content) :
    (op : Operation) → op.Reply × Host.Content
  | .set text _ => ((), { c with value := some text })
  | .get => (if live then c.value else none, c)
  | .delete => ((), ⟨none, [], []⟩)
  | .addToSet members => ((), { c with members := insertAll members c.members })
  | .removeFromSet member => ((), { c with members := c.members.filter (· != member) })
  | .setMembers => (c.members, c)
  | .isSetMember member => (c.members.contains member, c)
  | .pushList items => ((), { c with items := items.reverse ++ c.items })
  | .trimList start stop => ((), { c with items := slice start stop c.items })
  | .rangeList start stop => (slice start stop c.items, c)
  | .setIfAbsent text _ =>
    if live && c.value.isSome then (false, c) else (true, { c with value := some text })

/-! ## Cells and hosts that show a view -/

/-- The cell keeps what a view has under a key. -/
structure Cell.Shows (s : Surroundings) (k : Key) (c : Cell) (x : Host.Content) : Prop where
  lasting : s.fading = false → ∀ v ∈ c.value, v.expiry = none
  same : s.shares k = false →
    c.value.map (·.text) = x.value ∧ c.members = x.members ∧ c.items = x.items
  onlySet : k.isBan = true → c.value = none ∧ c.items = []

/-- The store of a host keeps what is in a view and nothing else, and its calls succeed. -/
structure Host.Shows (ns : String) (s : Surroundings) (h : Host) (v : View) : Prop where
  faultless : ∀ n, h.faults n = none
  plain : ∀ k : Key, k.IsPlain → (h.store.cell (k.text ns)).Shows s k (v k)
  other : ∀ name, (∀ k : Key, k.IsPlain → k.text ns ≠ name) → h.store.cell name = {}

/-- The value of the cell, if there is one, has not expired. -/
def Cell.isFresh (now : Nat) (c : Cell) : Bool :=
  c.value.all (·.isLive now)

theorem Cell.liveValue_eq (now : Nat) (c : Cell) :
    c.liveValue now = if c.isFresh now then c.value.map (·.text) else none := by
  obtain ⟨_ | v, ms, is⟩ := c
  · rfl
  · by_cases hv : v.isLive now = true <;> simp [Cell.liveValue, Cell.isFresh, hv]

theorem Cell.Shows.isFresh {s : Surroundings} {k : Key} {c : Cell} {x : Host.Content}
    (h : c.Shows s k x) (hs : s.fading = false) (now : Nat) : c.isFresh now = true := by
  have hold := h.lasting hs
  unfold Cell.isFresh
  cases hv : c.value with
  | none => rfl
  | some v => rw [Option.all_some, StoredValue.isLive, hold v hv]

/-- A cell answers an operation as the view does, up to values that have expired. -/
theorem Cell.Shows.reply_answer {s : Surroundings} {k : Key} {c : Cell} {x : Host.Content}
    (h : c.Shows s k x) (hk : s.shares k = false) (now : Nat) (op : Operation) :
    (c.answer now op).1 = (x.answer (c.isFresh now) op).1 := by
  obtain ⟨hvalue, hmembers, hitems⟩ := h.same hk
  cases op with
  | get => simp [Cell.answer, Host.Content.answer, Cell.liveValue_eq, hvalue]
  | setIfAbsent text ttl =>
      have : (c.liveValue now).isSome = (c.isFresh now && x.value.isSome) := by
        rw [Cell.liveValue_eq, hvalue]
        cases c.isFresh now <;> rfl
      simp only [Cell.answer, Host.Content.answer, this]
      split <;> rfl
  | _ => simp [Cell.answer, Host.Content.answer, hmembers, hitems]

/-- An operation that fits the key keeps the cell in step with the view. -/
theorem Cell.Shows.answer {s : Surroundings} {k : Key} {c : Cell} {x : Host.Content}
    (h : c.Shows s k x) {op : Operation} (hop : op.Fits s k) (now : Nat) :
    (c.answer now op).2.Shows s k (x.answer (c.isFresh now) op).2 := by
  obtain ⟨hlasting, hset⟩ := hop
  refine ⟨fun hs v hv => ?_, fun hk => ?_, fun hk => ?_⟩
  · have hold := h.lasting hs
    have hop := hlasting hs
    cases op with
    | set text ttl =>
        cases Option.mem_some.mp hv
        simpa [Operation.isLasting] using hop
    | delete => exact absurd hv (Option.not_mem_none v)
    | setIfAbsent text ttl => exact absurd hop (by simp [Operation.isLasting])
    | _ => exact hold v hv
  · obtain ⟨hvalue, hmembers, hitems⟩ := h.same hk
    cases op with
    | setIfAbsent text ttl =>
        have : (c.liveValue now).isSome = (c.isFresh now && x.value.isSome) := by
          rw [Cell.liveValue_eq, hvalue]
          cases c.isFresh now <;> rfl
        simp only [Cell.answer, Host.Content.answer, this]
        split
        · exact ⟨hvalue, hmembers, hitems⟩
        · exact ⟨rfl, hmembers, hitems⟩
    | _ => simp [Cell.answer, Host.Content.answer, hvalue, hmembers, hitems]
  · have hold := h.onlySet hk
    have hop := hset hk
    cases op <;> first | exact hold | exact ⟨rfl, rfl⟩ | cases hop

/-! ## Calls -/

section

variable {h : Host} (hfaults : ∀ n, h.faults n = none) (key : String) (op : Operation)

include hfaults

/-- A call that reaches the store. -/
theorem Host.call_of_faultless :
    h.call key op = (.ok (h.store.answer h.now key op).1,
      { h with
        store := (h.store.answer h.now key op).2
        calls := ⟨key, op⟩ :: h.calls }) := by
  simp only [call, hfaults]

theorem Host.faults_call (n : Nat) : (h.call key op).2.faults n = none := by
  rw [call_of_faultless hfaults]
  exact hfaults n

end

/-- A call to a plain key is answered from the view and changes the view under that key. -/
theorem Host.Shows.call {ns : String} {s : Surroundings} {h : Host} {v : View}
    (hv : h.Shows ns s v) {k : Key} (hk : k.IsPlain) {op : Operation} (hop : op.Fits s k) :
    ∃ live reply, (s.fading = false → live = true)
      ∧ (s.shares k = false → reply = ((v k).answer live op).1)
      ∧ (h.call (k.text ns) op).1 = .ok reply
      ∧ (h.call (k.text ns) op).2.Shows ns s
          (Function.update v k ((v k).answer live op).2) := by
  have hcell := hv.plain k hk
  refine ⟨(h.store.cell (k.text ns)).isFresh h.now, ((h.store.cell (k.text ns)).answer h.now op).1,
    fun hs => hcell.isFresh hs h.now, fun hs => hcell.reply_answer hs h.now op, ?_, ?_⟩
  · simp only [Host.call, hv.faultless, Store.reply_answer]
  · simp only [Host.call, hv.faultless]
    refine ⟨hv.faultless, fun k' hk' => ?_, fun name hname => ?_⟩
    · rw [Store.cell_answer]
      by_cases hkk : k' = k
      · subst hkk
        rw [if_pos rfl, Function.update_self]
        exact hcell.answer hop h.now
      · rw [if_neg (mt (Key.text_inj hk' hk) hkk), Function.update_of_ne hkk]
        exact hv.plain k' hk'
    · rw [Store.cell_answer, if_neg (hname k hk).symm]
      exact hv.other name hname

theorem Host.Shows.fetchBans {ns : String} {s : Surroundings} {h : Host} {v : View}
    (hv : h.Shows ns s v) (guildId : String) : (h.fetchBans guildId).2.Shows ns s v :=
  ⟨hv.faultless, hv.plain, hv.other⟩

/-! ## Programs -/

namespace Program

variable {α β : Type} {s : Surroundings}

/-- However the surroundings behave, the program calls plain keys only and ends as `Q` says. -/
def Ensures (s : Surroundings) : Program Key α → View → (α → View → Prop) → Prop
  | done a, v, Q => Q a v
  | call k op next, v, Q =>
    k.IsPlain ∧ op.Fits s k ∧
      ∀ live reply, (s.fading = false → live = true) →
        (s.shares k = false → reply = ((v k).answer live op).1) →
          (next (.ok reply)).Ensures s (Function.update v k ((v k).answer live op).2) Q
  | fetchBans _ next, v, Q => ∀ reply, (next reply).Ensures s v Q

theorem Ensures.mono {Q Q' : α → View → Prop} (h : ∀ a v, Q a v → Q' a v) :
    ∀ {p : Program Key α} {v : View}, p.Ensures s v Q → p.Ensures s v Q'
  | done a, v, hp => h a v hp
  | call _ _ _, _, ⟨hk, hop, hnext⟩ =>
      ⟨hk, hop, fun live reply hl hr => (hnext live reply hl hr).mono h⟩
  | fetchBans _ _, _, hp => fun reply => (hp reply).mono h

theorem Ensures.and {Q Q' : α → View → Prop} :
    ∀ {p : Program Key α} {v : View}, p.Ensures s v Q → p.Ensures s v Q' →
      p.Ensures s v fun a v' => Q a v' ∧ Q' a v'
  | done _, _, h, h' => ⟨h, h'⟩
  | call _ _ _, _, ⟨hk, hop, h⟩, ⟨_, _, h'⟩ =>
      ⟨hk, hop, fun live reply hl hr => (h live reply hl hr).and (h' live reply hl hr)⟩
  | fetchBans _ _, _, h, h' => fun reply => (h reply).and (h' reply)

theorem ensures_andThen {f : α → Program Key β} {Q : β → View → Prop} :
    ∀ {p : Program Key α} {v : View},
      (p.andThen f).Ensures s v Q ↔ p.Ensures s v fun a v => (f a).Ensures s v Q
  | done _, _ => Iff.rfl
  | call _ _ _, _ =>
      and_congr_right' (and_congr_right' (forall₄_congr fun _ _ _ _ => ensures_andThen))
  | fetchBans _ _, _ => forall_congr' fun _ => ensures_andThen

theorem mapKeys_andThen {κ κ' : Type} (rename : κ → κ') (f : α → Program κ β) :
    ∀ p : Program κ α,
      (p.andThen f).mapKeys rename = (p.mapKeys rename).andThen fun a => (f a).mapKeys rename
  | done _ => rfl
  | call key op _ =>
      congrArg (call (rename key) op) (funext fun _ => mapKeys_andThen rename f _)
  | fetchBans guildId _ =>
      congrArg (fetchBans guildId) (funext fun _ => mapKeys_andThen rename f _)

/-- What a program ensures holds of its result and of the host that it leaves behind. -/
theorem Ensures.run {ns : String} {Q : α → View → Prop} :
    ∀ {p : Program Key α} {v : View} {h : Host}, p.Ensures s v Q → h.Shows ns s v →
      ∃ v', Q ((p.mapKeys (Key.text ns)).run Host.backend h).1 v'
        ∧ ((p.mapKeys (Key.text ns)).run Host.backend h).2.Shows ns s v'
  | done _, v, _, hp, hv => ⟨v, hp, hv⟩
  | call k op next, _, h, ⟨hk, hop, hnext⟩, hv => by
      obtain ⟨live, reply, hlive, hreply, hok, hafter⟩ := hv.call hk hop
      have := (hnext live reply hlive hreply).run hafter
      rw [← hok] at this
      exact this
  | fetchBans guildId next, _, h, hp, hv =>
      (hp (h.banLists h.fetches guildId)).run (hv.fetchBans guildId)

end Program

namespace Action

variable {α β κ : Type}

/-- An action goes on with the result of another, and ends with its error. -/
theorem run_bind (a : Action κ α) (f : α → Action κ β) :
    ExceptT.run (a >>= f) = (ExceptT.run a).andThen fun
      | .ok x => ExceptT.run (f x)
      | .error e => .done (.error e) := by
  show Program.andThen a (ExceptT.bindCont f) = _
  congr 1
  funext r
  cases r <;> rfl

end Action

/-! ## Reading a host -/

namespace Host

/-- The value that is live under a key. -/
def value (h : Host) (ns : String) (k : Key) : Option String :=
  (h.content (k.text ns)).value

/-- The members of the set under a key. -/
def members (h : Host) (ns : String) (k : Key) : List String :=
  (h.content (k.text ns)).members

end Host

namespace Host.Shows

variable {ns : String} {s : Surroundings} {h : Host} {v : View} {k : Key}

/-- What is live is in the view. -/
theorem value_of_live (hv : h.Shows ns s v) (hk : k.IsPlain) (hs : s.shares k = false)
    {text : String} (hlive : h.value ns k = some text) : (v k).value = some text := by
  have hvalue := ((hv.plain k hk).same hs).1
  simp only [Host.value, Host.content, Cell.liveValue_eq, hvalue] at hlive
  split at hlive
  · exact hlive
  · cases hlive

theorem members_eq (hv : h.Shows ns s v) (hk : k.IsPlain) (hs : s.shares k = false) :
    h.members ns k = (v k).members :=
  ((hv.plain k hk).same hs).2.1

/-- Where nothing expires, the view has just what is live. -/
theorem content_eq (hv : h.Shows ns s v) (hk : k.IsPlain) (hs : s.shares k = false)
    (hf : s.fading = false) : h.content (k.text ns) = v k := by
  obtain ⟨hvalue, hmembers, hitems⟩ := (hv.plain k hk).same hs
  simp [Host.content, Cell.liveValue_eq, (hv.plain k hk).isFresh hf, hvalue, hmembers, hitems]

/-- Where nothing expires, hosts are the same under a name, if the views are the same under the key
with that name and others do not write to it. -/
theorem content_congr_of_plain {h' : Host} {v' : View} (hv : h.Shows ns s v)
    (hv' : h'.Shows ns s v') (hf : s.fading = false) {name : String}
    (hsame : ∀ k : Key, k.IsPlain → k.text ns = name → s.shares k = false ∧ v' k = v k) :
    h'.content name = h.content name := by
  by_cases hkey : ∃ k : Key, k.IsPlain ∧ k.text ns = name
  · obtain ⟨k, hk, htext⟩ := hkey
    obtain ⟨hs, hview⟩ := hsame k hk htext
    rw [← htext, hv'.content_eq hk hs hf, hv.content_eq hk hs hf, hview]
  · have hother : ∀ k : Key, k.IsPlain → k.text ns ≠ name := fun k hk heq => hkey ⟨k, hk, heq⟩
    rw [Host.content, Host.content, hv.other name hother, hv'.other name hother]
    rfl

/-- Where nothing expires, hosts with views that are the same under a name are the same there. -/
theorem content_congr {h' : Host} {v' : View} (hv : h.Shows ns s v) (hv' : h'.Shows ns s v')
    (hf : s.fading = false) {name : String}
    (hname : ∀ k : Key, s.shares k = true → k.text ns ≠ name)
    (hsame : ∀ k : Key, k.IsPlain → k.text ns = name → v' k = v k) :
    h'.content name = h.content name := by
  refine hv.content_congr_of_plain hv' hf fun k hk htext => ⟨?_, hsame k hk htext⟩
  rw [← Bool.not_eq_true]
  exact fun hs => hname k hs htext

/-- Where nothing expires, a view leaves no choice but for what others may write to. -/
theorem content_unique {h' : Host} (hv : h.Shows ns s v) (hv' : h'.Shows ns s v)
    (hf : s.fading = false) {name : String}
    (hname : ∀ k : Key, s.shares k = true → k.text ns ≠ name) :
    h'.content name = h.content name :=
  hv.content_congr hv' hf hname fun _ _ _ => rfl

end Host.Shows

end GuildRelay
