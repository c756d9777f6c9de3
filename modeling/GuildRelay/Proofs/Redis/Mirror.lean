import GuildRelay.Proofs.Cache.Typing
import GuildRelay.Proofs.Redis.Server
import GuildRelay.Proofs.Store.Order
/-!
# Operations on a server

A cell of a store in memory may have a value, a set and a list side by side, and a server has one of
them only. `Cell.Mirrors` says that the two have the same: the cell has one kind of thing, and the
server has it too, with the members of a set in any order.

`RedisServer.call_matches` says that an operation that suits the key is answered alike on both sides
and leaves them alike. The answers are equal, but for the members of a set (`Operation.Alike`), and
the server refuses nothing.
-/

namespace GuildRelay

/-! ## Numbers and ranges -/

theorem Text.toDigits_eq_digits (n : Nat) : Nat.toDigits 10 n = digits n := by
  induction n using Nat.strongRecOn with
  | ind n ih =>
    have hchar : ∀ d < 10, Nat.digitChar d = digitChar d := by decide
    rw [Nat.toDigits_eq_if (by decide), digits]
    split
    next h => rw [hchar n h]
    next h => rw [hchar (n % 10) (Nat.mod_lt n (by decide)), ih (n / 10) (by omega)]

theorem Text.toString_eq_intDigits (n : Int) : toString n = String.ofList (intDigits n) := by
  cases n with
  | ofNat n =>
      show toString n = _
      rw [Nat.toString_eq_ofList_toDigits, toDigits_eq_digits]
      rfl
  | negSucc n =>
      show "-" ++ toString (n + 1) = _
      rw [Nat.toString_eq_ofList_toDigits, toDigits_eq_digits, intDigits,
        if_pos (Int.negSucc_lt_zero n), ← String.toList_inj]
      simp

namespace RedisServer

theorem integerOf?_toString (n : Int) : RedisValue.integerOf? (toString n) = some n := by
  obtain ⟨d, ds, hdigits, hd⟩ := Json.digits_eq_cons n.natAbs
  have hall : (d :: ds).all Text.isDigit = true := by
    rw [← hdigits]
    exact List.all_eq_true.mpr (Text.digits_all n.natAbs)
  have hread : Text.natOf (d :: ds) = n.natAbs := by rw [← hdigits, Text.natOf_digits]
  rw [Text.toString_eq_intDigits, RedisValue.integerOf?, String.toList_ofList, Text.intDigits,
    hdigits]
  by_cases hneg : n < 0
  · simp only [if_pos hneg, hall, hread, List.isEmpty_cons, Bool.not_true, Bool.or_self,
      Bool.false_eq_true, if_false, if_true]
    congr 1
    omega
  · have hminus : d ≠ '-' := fun h => absurd (h ▸ hd) (by decide)
    have hplus : d ≠ '+' := fun h => absurd (h ▸ hd) (by decide)
    simp only [if_neg hneg]
    split
    · next h => exact absurd (List.cons.inj h).1 hminus
    · next h => exact absurd (List.cons.inj h).1 hplus
    · simp only [hall, hread, List.isEmpty_cons, Bool.not_true, Bool.or_self, Bool.false_eq_true,
        if_false]
      congr 1
      omega

theorem numberOf?_toString {n : Int} (hn : IsCountable n) : numberOf? (toString n) = some n := by
  simp only [numberOf?, integerOf?_toString]
  exact if_pos ⟨hn.1, hn.2, trivial⟩

theorem numberOf?_expiryArgument {ttl : Nat} (h : IsGranted ttl) :
    numberOf? (Operation.expiryArgument ttl) = some (ttl : Int) := by
  obtain ⟨hpos, hlow, hhigh⟩ := h
  have hword : Operation.expiryArgument ttl = toString (ttl : Int) := by
    have hnat : (UInt64.ofNat (max ttl 1)).toNat = ttl := by
      rw [UInt64.toNat_ofNat_of_lt' (by simp only [UInt64.size]; omega)]
      omega
    show toString (UInt64.ofNat (max ttl 1)).toNat = _
    rw [hnat]
    rfl
  rw [hword, numberOf?_toString ⟨hlow, hhigh⟩]

theorem rangeOf?_toString {start stop : Int} (hstart : IsCountable start)
    (hstop : IsCountable stop) :
    rangeOf? (toString start) (toString stop) = some (start, stop) := by
  simp only [rangeOf?, numberOf?_toString hstart, numberOf?_toString hstop]

theorem range_eq_slice {α : Type} (start stop : Int) (items : List α) :
    range start stop items = slice start stop items := by
  refine List.ext_getElem? fun k => ?_
  obtain ⟨first, hfirst⟩ : ∃ first : Nat,
      (if start < 0 then max 0 ((items.length : Int) + start) else start) = first :=
    ⟨_, (Int.toNat_of_nonneg (by split <;> omega)).symm⟩
  have hposition : (position items.length start).toNat = first := by
    unfold position
    split at hfirst <;> omega
  have hstop : (if stop < 0 then (items.length : Int) + stop else stop)
      = position items.length stop := rfl
  rw [getElem?_slice, hposition]
  simp only [range, hfirst, hstop]
  -- Positions behind the end have no item on either side, and the others are compared as numbers.
  by_cases hk : first + k < items.length
  · by_cases hlast : ((first + k : Nat) : Int) ≤ position items.length stop
    · rw [if_neg (by omega), if_pos hlast, List.getElem?_take, if_pos (by omega),
        List.getElem?_drop, Int.toNat_natCast]
    · rw [if_neg hlast]
      split
      · rfl
      · rw [List.getElem?_take, if_neg (by omega)]
  · have hnone : items[first + k]? = none := List.getElem?_eq_none (by omega)
    rw [hnone, ite_self]
    split
    · rfl
    · rw [List.getElem?_take, List.getElem?_drop, Int.toNat_natCast, hnone, ite_self]

/-! ## Sets -/

theorem mem_addMembers {new members : List String} {m : String} :
    m ∈ addMembers new members ↔ m ∈ new ∨ m ∈ members := by
  induction new generalizing members with
  | nil => simp [addMembers]
  | cons n new ih =>
      show m ∈ addMembers new (if n ∈ members then members else n :: members) ↔ _
      rw [ih]
      split <;> simp <;> grind

theorem nodup_addMembers {new members : List String} (h : members.Nodup) :
    (addMembers new members).Nodup := by
  induction new generalizing members with
  | nil => exact h
  | cons n new ih =>
      refine ih ?_
      show (if n ∈ members then members else n :: members).Nodup
      split
      · exact h
      · next hn => exact List.nodup_cons.mpr ⟨hn, h⟩

/-- Members are added to a set as they are in memory, up to the order. -/
theorem perm_addMembers {new members members' : List String} (horder : members.Pairwise (· < ·))
    (h : members'.Perm members) : (addMembers new members').Perm (insertAll new members) := by
  -- Neither side has repetitions, so it is enough to compare the members.
  have hnodup : members'.Nodup := h.nodup_iff.mpr (horder.imp fun hlt => ne_of_lt hlt)
  have hnodup' : (insertAll new members).Nodup :=
    (pairwise_insertAll new horder).imp fun hlt => ne_of_lt hlt
  refine (List.perm_ext_iff_of_nodup (nodup_addMembers hnodup) hnodup').mpr fun m => ?_
  rw [mem_addMembers, mem_insertAll, h.mem_iff]

end RedisServer

/-! ## Cells -/

namespace Cell

/-- What is kept under the key, expired or not. -/
def whole (c : Cell) : Host.Content :=
  ⟨c.value.map (·.text), c.members, c.items⟩

theorem reply_answer (c : Cell) (now : Nat) (op : Operation) :
    (c.answer now op).1 = (c.whole.answer (c.isFresh now) op).1 := by
  cases op with
  | get => exact c.liveValue_eq now
  | setIfAbsent text ttl =>
      have hlive : (c.liveValue now).isSome = (c.isFresh now && c.whole.value.isSome) := by
        rw [liveValue_eq]
        cases c.isFresh now <;> rfl
      simp only [answer, Host.Content.answer, hlive]
      split <;> rfl
  | _ => rfl

theorem whole_answer (c : Cell) (now : Nat) (op : Operation) :
    (c.answer now op).2.whole = (c.whole.answer (c.isFresh now) op).2 := by
  cases op with
  | setIfAbsent text ttl =>
      have hlive : (c.liveValue now).isSome = (c.isFresh now && c.whole.value.isSome) := by
        rw [liveValue_eq]
        cases c.isFresh now <;> rfl
      simp only [answer, Host.Content.answer, hlive]
      split <;> rfl
  | _ => rfl

end Cell

def StoredValue.toEntry (v : StoredValue) : RedisEntry :=
  ⟨.text v.text, v.expiry⟩

/-- A server has under a name what is in a cell, and the cell has one kind of thing only. What has
expired may be gone. -/
inductive Cell.MirroredBy (now : Nat) : Cell → Option RedisEntry → Prop
  | value {v : StoredValue} : MirroredBy now { value := some v } (some v.toEntry)
  | expired {v : StoredValue} : v.isLive now = false → MirroredBy now { value := some v } none
  | members {ms ms' : List String} : ms'.Perm ms →
      MirroredBy now { members := ms } (RedisEntry.withMembers none ms')
  | items {is : List String} : MirroredBy now { items := is } (RedisEntry.withItems none is)

namespace RedisEntry

/-- The part of an entry that has not expired. -/
def live (now : Nat) (e : Option RedisEntry) : Option RedisEntry :=
  e.filter (·.isLive now)

theorem live_toEntry (now : Nat) (v : StoredValue) :
    live now (some v.toEntry) = if v.isLive now then some v.toEntry else none := by
  have hsame : v.toEntry.isLive now = v.isLive now := rfl
  split
  · next hv => exact Option.filter_some_pos (hsame.trans hv)
  · next hv => exact Option.filter_some_neg (hsame.trans (Bool.eq_false_of_not_eq_true hv))

theorem live_withMembers (now : Nat) (ms : List String) :
    live now (withMembers none ms) = withMembers none ms := by
  cases ms <;> rfl

theorem live_withItems (now : Nat) (is : List String) :
    live now (withItems none is) = withItems none is := by
  cases is <;> rfl

theorem members?_withMembers (ms : List String) : members? (withMembers none ms) = some ms := by
  cases ms <;> rfl

theorem items?_withItems (is : List String) : items? (withItems none is) = some is := by
  cases is <;> rfl

theorem content_withMembers (ms : List String) :
    content (withMembers none ms) = ⟨none, ms, []⟩ := by
  cases ms <;> rfl

theorem content_withItems (is : List String) : content (withItems none is) = ⟨none, [], is⟩ := by
  cases is <;> rfl

theorem withMembers_withMembers (ms ms' : List String) :
    withMembers (withMembers none ms) ms' = withMembers none ms' := by
  cases ms <;> cases ms' <;> rfl

theorem withItems_withItems (is is' : List String) :
    withItems (withItems none is) is' = withItems none is' := by
  cases is <;> cases is' <;> rfl

end RedisEntry

namespace Cell.MirroredBy

open RedisEntry

variable {now : Nat} {c : Cell} {e : Option RedisEntry}

theorem nothing : MirroredBy now {} none :=
  members (.refl [])

/-- Time goes on, and what has expired stays so. -/
theorem later (h : c.MirroredBy now e) {now' : Nat} (hnow : now ≤ now') :
    c.MirroredBy now' e := by
  cases h with
  | value => exact .value
  | @expired v hv =>
      refine .expired ?_
      unfold StoredValue.isLive at hv ⊢
      cases hexpiry : v.expiry with
      | none => rw [hexpiry] at hv; cases hv
      | some moment =>
          rw [hexpiry] at hv
          simp only [decide_eq_false_iff_not] at hv ⊢
          omega
  | members h => exact .members h
  | items => exact .items

/-- What has expired may be forgotten. -/
theorem forget (h : c.MirroredBy now e) : c.MirroredBy now (live now e) := by
  cases h with
  | @value v =>
      rw [live_toEntry]
      split
      · exact .value
      · next hv => exact .expired (Bool.eq_false_of_not_eq_true hv)
  | expired hv => exact .expired hv
  | members hperm => exact (live_withMembers now _).symm ▸ .members hperm
  | items => exact (live_withItems now _).symm ▸ .items

theorem eq_value (h : c.MirroredBy now e) (hm : c.members = []) (hi : c.items = []) :
    c = { value := c.value } := by
  cases h with
  | value => rfl
  | expired _ => rfl
  | members _ => exact congrArg (fun ms => ({ members := ms } : Cell)) hm
  | items => exact congrArg (fun is => ({ items := is } : Cell)) hi

/-- Where neither a set nor a list is kept, the server has the value if it has not expired. -/
theorem live_value (h : c.MirroredBy now e) (hm : c.members = []) (hi : c.items = []) :
    (c.liveValue now = none ∧ live now e = none)
      ∨ ∃ v : StoredValue, c.liveValue now = some v.text ∧ live now e = some v.toEntry := by
  cases h with
  | @value v =>
      cases hv : v.isLive now with
      | true => exact .inr ⟨v, by simp [Cell.liveValue, hv], by simp [live_toEntry, hv]⟩
      | false => exact .inl ⟨by simp [Cell.liveValue, hv], by simp [live_toEntry, hv]⟩
  | expired hv => exact .inl ⟨by simp [Cell.liveValue, hv], rfl⟩
  | @members ms ms' hperm =>
      obtain rfl : ms = [] := hm
      obtain rfl := List.perm_nil.mp hperm
      exact .inl ⟨rfl, rfl⟩
  | @items is =>
      obtain rfl : is = [] := hi
      exact .inl ⟨rfl, rfl⟩

/-- Where neither a value nor a list is kept, the server has the set. -/
theorem live_members (h : c.MirroredBy now e) (hv : c.value = none) (hi : c.items = []) :
    c = { members := c.members } ∧
      ∃ ms, ms.Perm c.members ∧ live now e = withMembers none ms := by
  cases h with
  | value => cases hv
  | expired _ => cases hv
  | members hperm => exact ⟨rfl, _, hperm, live_withMembers now _⟩
  | @items is =>
      obtain rfl : is = [] := hi
      exact ⟨rfl, [], .refl [], rfl⟩

/-- Where neither a value nor a set is kept, the server has the list. -/
theorem live_items (h : c.MirroredBy now e) (hv : c.value = none) (hm : c.members = []) :
    c = { items := c.items } ∧ live now e = withItems none c.items := by
  cases h with
  | value => cases hv
  | expired _ => cases hv
  | @members ms ms' hperm =>
      obtain rfl : ms = [] := hm
      obtain rfl := List.perm_nil.mp hperm
      exact ⟨rfl, rfl⟩
  | items => exact ⟨rfl, live_withItems now _⟩

/-- The server shows what is in the cell. -/
theorem content (h : c.MirroredBy now e) :
    Host.Content.SameAs ⟨c.liveValue now, c.members, c.items⟩ (content (live now e)) := by
  cases h with
  | @value v =>
      simp only [live_toEntry, Cell.liveValue]
      cases v.isLive now <;> exact ⟨rfl, .refl [], rfl⟩
  | @expired v hv => exact ⟨by simp [Cell.liveValue, hv, live, RedisEntry.content], .refl [], rfl⟩
  | members hperm =>
      rw [live_withMembers, content_withMembers]
      exact ⟨rfl, hperm.symm, rfl⟩
  | items =>
      rw [live_withItems, content_withItems]
      exact ⟨rfl, .refl [], rfl⟩

end Cell.MirroredBy

namespace Host.Content.Fits

variable {k : Key} {x : Host.Content}

theorem value_eq_none (hx : x.Fits k) (hk : k.shape ≠ .value) : x.value = none :=
  Option.eq_none_iff_forall_ne_some.mpr fun text h => hk (hx.value text h).1

theorem members_eq_nil (hx : x.Fits k) (hk : k.shape ≠ .set) : x.members = [] :=
  List.eq_nil_iff_forall_not_mem.mpr fun id h => hk (hx.members id h).1

theorem items_eq_nil (hx : x.Fits k) (hk : k.shape ≠ .list) : x.items = [] :=
  List.eq_nil_iff_forall_not_mem.mpr fun text h => hk (hx.items text h).1

end Host.Content.Fits

/-! ## Calls -/

namespace Operation

/-- The answers are the same, with the members of a set in any order. -/
def Alike : (op : Operation) → op.Reply → op.Reply → Prop
  | setMembers, members, members' => members.Perm members'
  | set _ _, r, r' | get, r, r' | delete, r, r' | addToSet _, r, r' | removeFromSet _, r, r'
  | isSetMember _, r, r' | pushList _, r, r' | trimList _ _, r, r' | rangeList _ _, r, r'
  | setIfAbsent _ _, r, r' => r = r'

theorem Alike.rfl {op : Operation} {r : op.Reply} : op.Alike r r := by
  cases op <;> first | exact List.Perm.refl _ | exact Eq.refl _

end Operation

namespace RedisServer

/-- A server answers a call like a cell that it mirrors, and goes on mirroring it. -/
structure Matches (d : RedisServer) (key : String) (op : Operation) (c : Cell) : Prop where
  reply : ∃ reply, (d.call key op).1 = .ok reply ∧ op.Alike (c.answer d.now op).1 reply
  cell : (c.answer d.now op).2.MirroredBy d.now ((d.call key op).2.stored key)
  other : ∀ name, name ≠ key → (d.call key op).2.stored name = d.stored name
  now : (d.call key op).2.now = d.now
  log : d.RefusesNone → (d.call key op).2.RefusesNone

variable {d : RedisServer} {key : String} {op : Operation} {c : Cell}

theorem refusal?_of_ofValue {v : RedisValue} {reply : op.Reply} (h : op.ofValue v = .ok reply) :
    v.refusal? = none := by
  unfold Operation.ofValue at h
  split at h
  · cases h
  · assumption

/-- It is enough to look at the entry that the command is about. -/
theorem Matches.of_answer {name : String} {words : List String} {r : op.Reply}
    (hrequest : op.request key = .inr (name :: key :: words))
    (hvalue : op.ofValue (answer d.now (d.arrange d.log.length) (d.entry key) name words).1
      = .ok r)
    (hreply : op.Alike (c.answer d.now op).1 r)
    (hcell : (c.answer d.now op).2.MirroredBy d.now
      (answer d.now (d.arrange d.log.length) (d.entry key) name words).2) :
    d.Matches key op c := by
  have hcall : d.call key op = (.ok r,
      { d.put key (answer d.now (d.arrange d.log.length) (d.entry key) name words).2 with
        log := (name :: key :: words,
          (answer d.now (d.arrange d.log.length) (d.entry key) name words).1) :: d.log }) := by
    simp only [call, hrequest, execute, hvalue]
  refine ⟨⟨r, ?_, hreply⟩, ?_, fun other hother => ?_, ?_, fun hlog => ?_⟩
  · rw [hcall]
  · rw [hcall]
    show Cell.MirroredBy _ _ ((d.put key _).stored key)
    rw [stored_put, if_pos rfl]
    exact hcell
  · rw [hcall]
    exact (d.stored_put key other _).trans (if_neg hother)
  · rw [hcall]
    rfl
  · rw [hcall]
    exact List.forall_mem_cons.mpr ⟨refusal?_of_ofValue hvalue, hlog⟩

/-- Where there is nothing to do nothing is asked. -/
theorem Matches.of_nothing {r : op.Reply} (hrequest : op.request key = .inl r)
    (hreply : op.Alike (c.answer d.now op).1 r)
    (hcell : (c.answer d.now op).2.MirroredBy d.now (d.stored key)) : d.Matches key op c := by
  have hcall : d.call key op = (.ok r, d) := by simp only [call, hrequest]
  refine ⟨⟨r, ?_, hreply⟩, ?_, fun other hother => ?_, ?_, fun hlog => ?_⟩ <;> rw [hcall]
  · exact hcell
  · exact hlog

theorem setOptions_expiry (ttl : Option Nat) (h : ∀ n ∈ ttl, IsGranted n) :
    setOptions (match ttl with
      | some n => ["PX", Operation.expiryArgument n]
      | none => []) = .ok { ttl } := by
  cases ttl with
  | none => rfl
  | some n =>
      have hpos : (0 : Int) < n := by exact_mod_cast (h n rfl).1
      simp only [setOptions, numberOf?_expiryArgument (h n rfl), if_pos hpos, Int.toNat_natCast]
      rfl

/-! ### Values -/

section Values

variable (hc : c.MirroredBy d.now (d.stored key)) (hm : c.members = []) (hi : c.items = [])

include hc hm hi

theorem entry_value :
    (c.liveValue d.now = none ∧ d.entry key = none)
      ∨ ∃ v : StoredValue, c.liveValue d.now = some v.text ∧ d.entry key = some v.toEntry :=
  hc.live_value hm hi

theorem matches_get : d.Matches key .get c := by
  have hforget := hc.forget
  rcases entry_value hc hm hi with ⟨hlive, hentry⟩ | ⟨v, hlive, hentry⟩
  · have hanswer : answer d.now (d.arrange d.log.length) (d.entry key) "GET" [] = (.nil, none) := by
      rw [hentry]
      rfl
    refine .of_answer (r := none) rfl (by rw [hanswer]; rfl) hlive ?_
    rw [hanswer]
    exact hentry ▸ hforget
  · have hanswer : answer d.now (d.arrange d.log.length) (d.entry key) "GET" []
        = (.ofText v.text, some v.toEntry) := by
      rw [hentry]
      rfl
    refine .of_answer (r := some v.text) rfl ?_ hlive ?_
    · rw [hanswer]
      exact Operation.ofValue_toValue .get (some v.text)
    · rw [hanswer]
      exact hentry ▸ hforget

theorem matches_set {text : String} {ttl : Option Nat} (hb : ∀ n ∈ ttl, IsGranted n) :
    d.Matches key (.set text ttl) c := by
  have hcell : (c.answer d.now (.set text ttl)).2
      = { value := some ⟨text, ttl.map (d.now + ·)⟩ } := by
    rw [hc.eq_value hm hi]
    rfl
  have hoptions := setOptions_expiry ttl hb
  cases ttl with
  | none =>
      refine .of_answer (r := ()) rfl rfl rfl ?_
      rw [hcell]
      exact .value
  | some n =>
      have hanswer : answer d.now (d.arrange d.log.length) (d.entry key) "SET"
          [text, "PX", Operation.expiryArgument n]
          = (.okay, some (StoredValue.toEntry ⟨text, some (d.now + n)⟩)) := by
        simp only [answer]
        rw [hoptions]
        rfl
      refine .of_answer (r := ()) rfl (by rw [hanswer]; rfl) rfl ?_
      rw [hcell, hanswer]
      exact .value

theorem matches_setIfAbsent {text : String} {ttl : Nat} (hb : IsGranted ttl) :
    d.Matches key (.setIfAbsent text ttl) c := by
  have hforget := hc.forget
  have hoptions : setOptions ["NX", "PX", Operation.expiryArgument ttl]
      = .ok { ifAbsent := true, ttl := some ttl } := by
    have hexpiry := setOptions_expiry (some ttl) fun n hn => Option.mem_some.mp hn ▸ hb
    rw [setOptions, hexpiry]
    rfl
  rcases entry_value hc hm hi with ⟨hlive, hentry⟩ | ⟨v, hlive, hentry⟩
  · have hcell : c.answer d.now (.setIfAbsent text ttl)
        = (true, { value := some ⟨text, some (d.now + ttl)⟩ }) := by
      rw [Cell.answer, hlive, hc.eq_value hm hi]
      rfl
    have hanswer : answer d.now (d.arrange d.log.length) (d.entry key) "SET"
        [text, "NX", "PX", Operation.expiryArgument ttl]
        = (.okay, some (StoredValue.toEntry ⟨text, some (d.now + ttl)⟩)) := by
      simp only [answer]
      rw [hoptions, hentry]
      rfl
    refine .of_answer (r := true) rfl (by rw [hanswer]; rfl) (by rw [hcell]; rfl) ?_
    rw [hcell, hanswer]
    exact .value
  · have hcell : c.answer d.now (.setIfAbsent text ttl) = (false, c) := by
      rw [Cell.answer, hlive]
      rfl
    have hanswer : answer d.now (d.arrange d.log.length) (d.entry key) "SET"
        [text, "NX", "PX", Operation.expiryArgument ttl] = (.nil, some v.toEntry) := by
      simp only [answer]
      rw [hoptions, hentry]
      rfl
    refine .of_answer (r := false) rfl (by rw [hanswer]; rfl) (by rw [hcell]; rfl) ?_
    rw [hcell, hanswer]
    exact hentry ▸ hforget

end Values

/-! ### Sets -/

section Sets

variable (hc : c.MirroredBy d.now (d.stored key)) (hv : c.value = none) (hi : c.items = [])

include hc hv hi

theorem entry_members : c = { members := c.members } ∧
    ∃ ms, ms.Perm c.members ∧ d.entry key = RedisEntry.withMembers none ms :=
  hc.live_members hv hi

theorem matches_addToSet (new : List String) (horder : c.InOrder) :
    d.Matches key (.addToSet new) c := by
  obtain ⟨hcell, ms, hperm, hentry⟩ := entry_members hc hv hi
  cases new with
  | nil => exact .of_nothing (r := ()) rfl rfl hc
  | cons m new =>
      have hanswer : answer d.now (d.arrange d.log.length) (d.entry key) "SADD" (m :: new)
          = (.integer ((addMembers (m :: new) ms).length - ms.length),
            RedisEntry.withMembers none (addMembers (m :: new) ms)) := by
        simp only [answer, hentry, RedisEntry.members?_withMembers,
          RedisEntry.withMembers_withMembers]
      refine .of_answer (r := ()) rfl (by rw [hanswer]; rfl) rfl ?_
      rw [hanswer, hcell]
      exact .members (perm_addMembers horder hperm)

theorem matches_removeFromSet (m : String) : d.Matches key (.removeFromSet m) c := by
  obtain ⟨hcell, ms, hperm, hentry⟩ := entry_members hc hv hi
  have hanswer : answer d.now (d.arrange d.log.length) (d.entry key) "SREM" [m]
      = (.integer (ms.length - (ms.filter fun member => member ∉ [m]).length),
        RedisEntry.withMembers none (ms.filter fun member => member ∉ [m])) := by
    simp only [answer, hentry, RedisEntry.members?_withMembers,
      RedisEntry.withMembers_withMembers]
  refine .of_answer (r := ()) rfl (by rw [hanswer]; rfl) rfl ?_
  have hfilter : (ms.filter fun member => member ∉ [m]) = ms.filter (· != m) :=
    List.filter_congr fun member _ => by simp [bne, beq_eq_decide]
  rw [hanswer, hcell, hfilter]
  exact .members (hperm.filter _)

theorem matches_setMembers : d.Matches key .setMembers c := by
  have hforget := hc.forget
  obtain ⟨-, ms, hperm, hentry⟩ := entry_members hc hv hi
  have hanswer : answer d.now (d.arrange d.log.length) (d.entry key) "SMEMBERS" []
      = (.ofTexts (d.arrange d.log.length ms), RedisEntry.withMembers none ms) := by
    simp only [answer, hentry, RedisEntry.members?_withMembers]
  refine .of_answer (r := d.arrange d.log.length ms) rfl ?_ ?_ ?_
  · rw [hanswer]
    exact Operation.ofValue_toValue .setMembers _
  · exact ((d.arrange_perm _ ms).trans hperm).symm
  · rw [hanswer]
    exact hentry ▸ hforget

theorem matches_isSetMember (m : String) : d.Matches key (.isSetMember m) c := by
  have hforget := hc.forget
  obtain ⟨-, ms, hperm, hentry⟩ := entry_members hc hv hi
  have hanswer : answer d.now (d.arrange d.log.length) (d.entry key) "SISMEMBER" [m]
      = (.integer (if m ∈ ms then 1 else 0), RedisEntry.withMembers none ms) := by
    simp only [answer, hentry, RedisEntry.members?_withMembers]
  refine .of_answer (r := decide (m ∈ ms)) rfl ?_ ?_ ?_
  · rw [hanswer]
    by_cases hmem : m ∈ ms <;>
      simp only [hmem, if_true, if_false, decide_true, decide_false] <;> rfl
  · show c.members.contains m = decide (m ∈ ms)
    rw [List.contains_eq_mem]
    exact decide_eq_decide.mpr hperm.mem_iff.symm
  · rw [hanswer]
    exact hentry ▸ hforget

end Sets

/-! ### Lists -/

section Lists

variable (hc : c.MirroredBy d.now (d.stored key)) (hv : c.value = none) (hm : c.members = [])

include hc hv hm

theorem entry_items :
    c = { items := c.items } ∧ d.entry key = RedisEntry.withItems none c.items :=
  hc.live_items hv hm

theorem matches_pushList (new : List String) : d.Matches key (.pushList new) c := by
  obtain ⟨hcell, hentry⟩ := entry_items hc hv hm
  cases new with
  | nil => exact .of_nothing (r := ()) rfl rfl hc
  | cons i new =>
      have hanswer : answer d.now (d.arrange d.log.length) (d.entry key) "LPUSH" (i :: new)
          = (.integer ((i :: new).reverse ++ c.items).length,
            RedisEntry.withItems none ((i :: new).reverse ++ c.items)) := by
        simp only [answer, hentry, RedisEntry.items?_withItems, RedisEntry.withItems_withItems]
      refine .of_answer (r := ()) rfl (by rw [hanswer]; rfl) rfl ?_
      rw [hanswer, hcell]
      exact .items

theorem matches_trimList {start stop : Int} (hb : IsCountable start ∧ IsCountable stop) :
    d.Matches key (.trimList start stop) c := by
  obtain ⟨hcell, hentry⟩ := entry_items hc hv hm
  have hanswer : answer d.now (d.arrange d.log.length) (d.entry key) "LTRIM"
      [toString start, toString stop]
      = (.okay, RedisEntry.withItems none (slice start stop c.items)) := by
    simp only [answer, hentry, RedisEntry.items?_withItems, RedisEntry.withItems_withItems,
      rangeOf?_toString hb.1 hb.2, range_eq_slice]
  refine .of_answer (r := ()) rfl (by rw [hanswer]; rfl) rfl ?_
  rw [hanswer, hcell]
  exact .items

theorem matches_rangeList {start stop : Int} (hb : IsCountable start ∧ IsCountable stop) :
    d.Matches key (.rangeList start stop) c := by
  have hforget := hc.forget
  obtain ⟨-, hentry⟩ := entry_items hc hv hm
  have hanswer : answer d.now (d.arrange d.log.length) (d.entry key) "LRANGE"
      [toString start, toString stop]
      = (.ofTexts (slice start stop c.items), RedisEntry.withItems none c.items) := by
    simp only [answer, hentry, RedisEntry.items?_withItems, rangeOf?_toString hb.1 hb.2,
      range_eq_slice]
  refine .of_answer (r := slice start stop c.items) rfl ?_ rfl ?_
  · rw [hanswer]
    exact Operation.ofValue_toValue (.rangeList start stop) _
  · rw [hanswer]
    exact hentry ▸ hforget

end Lists

/-- An operation that suits the key is answered by the server like in memory. -/
theorem call_matches {k : Key} (hc : c.MirroredBy d.now (d.stored key)) (hfits : c.whole.Fits k)
    (horder : c.InOrder) (hop : op.Suits k) (hb : op.IsBounded) : d.Matches key op c := by
  have hvalue : k.shape ≠ .value → c.value = none := fun hk =>
    Option.map_eq_none_iff.mp (hfits.value_eq_none hk)
  have hmembers : k.shape ≠ .set → c.members = [] := hfits.members_eq_nil
  have hitems : k.shape ≠ .list → c.items = [] := hfits.items_eq_nil
  cases op with
  | delete => exact .of_answer (r := ()) rfl rfl rfl .nothing
  | get => exact matches_get hc (hmembers (by rw [hop]; decide)) (hitems (by rw [hop]; decide))
  | set text ttl =>
      exact matches_set hc (hmembers (by rw [hop.1]; decide)) (hitems (by rw [hop.1]; decide)) hb
  | setIfAbsent text ttl =>
      exact matches_setIfAbsent hc (hmembers (by rw [hop.1]; decide))
        (hitems (by rw [hop.1]; decide)) hb
  | addToSet new =>
      exact matches_addToSet hc (hvalue (by rw [hop.1]; decide)) (hitems (by rw [hop.1]; decide))
        new horder
  | removeFromSet m =>
      exact matches_removeFromSet hc (hvalue (by rw [hop]; decide)) (hitems (by rw [hop]; decide)) m
  | setMembers =>
      exact matches_setMembers hc (hvalue (by rw [hop]; decide)) (hitems (by rw [hop]; decide))
  | isSetMember m =>
      exact matches_isSetMember hc (hvalue (by rw [hop]; decide)) (hitems (by rw [hop]; decide)) m
  | pushList new =>
      exact matches_pushList hc (hvalue (by rw [hop.1]; decide)) (hmembers (by rw [hop.1]; decide))
        new
  | trimList start stop =>
      exact matches_trimList hc (hvalue (by rw [hop]; decide)) (hmembers (by rw [hop]; decide)) hb
  | rangeList start stop =>
      exact matches_rangeList hc (hvalue (by rw [hop]; decide)) (hmembers (by rw [hop]; decide)) hb

end RedisServer

end GuildRelay
