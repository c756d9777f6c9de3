import GuildRelay.Proofs.Rate.Window
/-!
# Forgetting buckets does not show

A keyed limiter makes the bucket of a key when the key is used first, and forgets it after it has
been left alone for some time. If an empty bucket is full again after that time, nobody can tell
this limiter from one with a bucket for every key that was there from the start and stays
(`KeyedBuckets.forgetting_does_not_show`).

The entry of a key, or its absence, is tied to the bucket that stays by `KeyedBuckets.StandsFor`:
filled up at any later moment, they are the same. An attempt sees nothing but the filled bucket, so
it keeps that up; a forgotten entry would be filled up to the capacity by then
(`TokenBucket.IsSound.refill_of_idle`), which is what a missing entry stands for.
-/

namespace GuildRelay

/-- Where every text has one entry at most, taking out others does not bring up a hidden one. -/
theorem Entries.lookup_filter {α : Type} {entries : List (String × α)}
    (h : (entries.map (·.1)).Nodup) (keep : α → Bool) (key : String) :
    (entries.filter fun entry => keep entry.2).lookup key = (entries.lookup key).filter keep := by
  induction entries with
  | nil => rfl
  | cons entry rest ih =>
      obtain ⟨key', a⟩ := entry
      obtain ⟨hnew, hrest⟩ := List.nodup_cons.mp h
      have hlookup := ih hrest
      by_cases hkey : key = key'
      · subst hkey
        have hnone : rest.lookup key = none := List.lookup_eq_none_iff.mpr fun entry hentry =>
          bne_iff_ne.mpr fun heq => hnew (List.mem_map.mpr ⟨entry, hentry, heq.symm⟩)
        rw [hnone] at hlookup
        cases hkeep : keep a <;> simp [hkeep, hlookup, Option.filter]
      · have hne : (key == key') = false := beq_eq_false_iff_ne.mpr hkey
        cases hkeep : keep a <;> simp [hkeep, List.lookup_cons, hne, hlookup]

/-! ## Filled buckets -/

namespace TokenBucket

variable {limit : RateLimit} {b b' : TokenBucket} {now : Rat}

/-- A bucket that is left alone for as long as an empty one takes to fill is full. -/
theorem IsSound.refill_of_idle (hb : b.IsSound limit)
    (hidle : (limit.capacity : Rat) ≤ (now - b.moment) * limit.rate) :
    b.refill limit now = full limit now := by
  have hfilled : (limit.capacity : Rat) ≤ (b.refill limit now).tokens :=
    le_tokens_refill (by linarith [hb.nonneg]) le_rfl
  calc b.refill limit now
      = ⟨(b.refill limit now).tokens, now⟩ := rfl
    _ = ⟨limit.capacity, now⟩ := by rw [le_antisymm (tokens_refill_le ..) hfilled]

/-- An attempt sees the filled bucket only. -/
theorem take_congr (h : b.refill limit now = b'.refill limit now) :
    b.take limit now = b'.take limit now := by
  simp only [take, h]

end TokenBucket

/-! ## Calls -/

/-- What is asked of a keyed limiter. -/
inductive LimiterCall where
  | check (key : String) (now : Rat)
  | forget (seconds now : Rat)

namespace LimiterCall

def moment : LimiterCall → Rat
  | check _ now => now
  | forget _ now => now

def check? : LimiterCall → Option (String × Rat)
  | check key now => some (key, now)
  | forget _ _ => none

end LimiterCall

namespace KeyedBuckets

open TokenBucket

variable {limit : RateLimit} {bs : KeyedBuckets} {b : TokenBucket} {key : String}
variable {start now t seconds : Rat} {calls : List LimiterCall}

/-- What the checks among some calls come to, one after the other. -/
def answers (limit : RateLimit) (bs : KeyedBuckets) : List LimiterCall → List (String × TakeResult)
  | [] => []
  | .check key now :: later =>
    (key, (bs.take limit key now).1) :: answers limit (bs.take limit key now).2 later
  | .forget seconds now :: later => answers limit (bs.forget seconds now) later

/-- The entries, one for a key at most, are sound buckets that were used up to some moment. -/
structure IsSound (limit : RateLimit) (bs : KeyedBuckets) (now : Rat) : Prop where
  nodup : (bs.entries.map (·.1)).Nodup
  sound : ∀ entry ∈ bs.entries, entry.2.IsSound limit
  past : ∀ entry ∈ bs.entries, entry.2.moment ≤ now

/-- The bucket of a key is as good as another one from some moment on. -/
def StandsFor (limit : RateLimit) (bs : KeyedBuckets) (key : String) (b : TokenBucket)
    (now : Rat) : Prop :=
  ∀ t, now ≤ t → (bs.bucket limit key t).refill limit t = b.refill limit t

/-! ## Entries stay sound -/

theorem isSound_empty (limit : RateLimit) (now : Rat) : IsSound limit {} now :=
  ⟨List.nodup_nil, List.forall_mem_nil _, List.forall_mem_nil _⟩

theorem IsSound.mono (hbs : bs.IsSound limit now) (h : now ≤ t) : bs.IsSound limit t :=
  ⟨hbs.nodup, hbs.sound, fun entry hentry => (hbs.past entry hentry).trans h⟩

theorem IsSound.lookup (hbs : bs.IsSound limit now) (h : bs.entries.lookup key = some b) :
    b.IsSound limit ∧ b.moment ≤ now := by
  obtain ⟨before, after, hentries, -⟩ := List.lookup_eq_some_iff.mp h
  have hmem : (key, b) ∈ bs.entries := by
    rw [hentries]
    exact List.mem_append_right _ List.mem_cons_self
  exact ⟨hbs.sound _ hmem, hbs.past _ hmem⟩

theorem IsSound.bucket (hbs : bs.IsSound limit now) (key : String) :
    (bs.bucket limit key now).IsSound limit ∧ (bs.bucket limit key now).moment ≤ now := by
  unfold KeyedBuckets.bucket
  cases hlookup : bs.entries.lookup key with
  | some b => exact hbs.lookup hlookup
  | none => exact ⟨isSound_full limit now, le_rfl⟩

theorem IsSound.put (hbs : bs.IsSound limit now) (hb : b.IsSound limit) (hmoment : b.moment ≤ now)
    (key : String) : (bs.put key b).IsSound limit now := by
  have hothers : ∀ entry ∈ Entries.without bs.entries key,
      entry ∈ bs.entries ∧ entry.1 ≠ key := fun entry hentry => by
    obtain ⟨hmem, hne⟩ := List.mem_filter.mp hentry
    exact ⟨hmem, bne_iff_ne.mp hne⟩
  refine ⟨List.nodup_cons.mpr ⟨fun hmem => ?_, ?_⟩,
    List.forall_mem_cons.mpr ⟨hb, fun entry hentry => hbs.sound entry (hothers entry hentry).1⟩,
    List.forall_mem_cons.mpr ⟨hmoment, fun entry hentry => hbs.past entry (hothers entry hentry).1⟩⟩
  · obtain ⟨entry, hentry, heq⟩ := List.mem_map.mp hmem
    exact (hothers entry hentry).2 heq
  · exact (List.filter_sublist.map _).nodup hbs.nodup

theorem IsSound.take (hbs : bs.IsSound limit now) (key : String) :
    (bs.take limit key now).2.IsSound limit now := by
  obtain ⟨hb, hmoment⟩ := hbs.bucket key
  exact hbs.put (hb.take hmoment) (moment_take ..).le key

theorem IsSound.forget (hbs : bs.IsSound limit now) (seconds t : Rat) :
    (bs.forget seconds t).IsSound limit now where
  nodup := (List.filter_sublist.map _).nodup hbs.nodup
  sound entry hentry := hbs.sound entry (List.mem_filter.mp hentry).1
  past entry hentry := hbs.past entry (List.mem_filter.mp hentry).1

/-! ## What an entry stands for -/

theorem standsFor_empty (limit : RateLimit) (key : String) (start : Rat) :
    StandsFor limit {} key (full limit start) start := by
  intro t ht
  show (full limit t).refill limit t = _
  rw [refill_full limit le_rfl, refill_full limit ht]

theorem StandsFor.mono (h : bs.StandsFor limit key b now) (ht : now ≤ t) :
    bs.StandsFor limit key b t :=
  fun t' ht' => h t' (ht.trans ht')

theorem StandsFor.take_eq (h : bs.StandsFor limit key b now) :
    (bs.bucket limit key now).take limit now = b.take limit now :=
  take_congr (h now le_rfl)

theorem StandsFor.check (h : bs.StandsFor limit key b now) :
    (bs.take limit key now).2.StandsFor limit key (b.take limit now).2 now := by
  intro t _
  rw [bucket_take, if_pos rfl, h.take_eq]

theorem StandsFor.check_ne (h : bs.StandsFor limit key b now) {key' : String} (hne : key ≠ key') :
    (bs.take limit key' now).2.StandsFor limit key b now := by
  intro t ht
  rw [bucket_take, if_neg hne]
  exact h t ht

/-- A bucket that is forgotten after it has had the time to fill is not missed. -/
theorem StandsFor.forget (h : bs.StandsFor limit key b now) (hbs : bs.IsSound limit now)
    (hseconds : (limit.capacity : Rat) ≤ seconds * limit.rate) :
    (bs.forget seconds now).StandsFor limit key b now := by
  intro t ht
  have hbefore := h t ht
  have hlookup := Entries.lookup_filter hbs.nodup (fun b => now - seconds < b.moment) key
  unfold KeyedBuckets.bucket at hbefore ⊢
  rw [KeyedBuckets.forget, hlookup]
  cases hentry : bs.entries.lookup key with
  | none => rwa [hentry] at hbefore
  | some e =>
      rw [hentry, Option.getD_some] at hbefore
      by_cases hkept : now - seconds < e.moment
      · rw [Option.filter_some_pos (by simpa using hkept), Option.getD_some]
        exact hbefore
      · have hidle : seconds * limit.rate ≤ (t - e.moment) * limit.rate :=
          mul_le_mul_of_nonneg_right (by linarith) limit.rate_nonneg
        rw [Option.filter_some_neg (by simpa using hkept), Option.getD_none,
          refill_full limit le_rfl, ← hbefore,
          (hbs.lookup hentry).1.refill_of_idle (hseconds.trans hidle)]

/-! ## All calls -/

/-- The checks of a key come to what they come to on any bucket that its entry stands for. -/
theorem StandsFor.answers_of_key (hb : bs.StandsFor limit key b start)
    (hbs : bs.IsSound limit start)
    (hcalls : (start :: calls.map LimiterCall.moment).Pairwise (· ≤ ·))
    (hforget : ∀ seconds now, LimiterCall.forget seconds now ∈ calls →
      (limit.capacity : Rat) ≤ seconds * limit.rate) :
    ofKey key (bs.answers limit calls) =
      (b.attempts limit (ofKey key (calls.filterMap LimiterCall.check?))).map (·.result) := by
  induction calls generalizing bs b start with
  | nil => rfl
  | cons call later ih =>
      obtain ⟨hcome, hlater⟩ := List.pairwise_cons.mp hcalls
      have hnow : start ≤ call.moment := hcome _ List.mem_cons_self
      replace hb := hb.mono hnow
      replace hbs := hbs.mono hnow
      have hforget' : ∀ seconds now, LimiterCall.forget seconds now ∈ later →
          (limit.capacity : Rat) ≤ seconds * limit.rate := fun seconds now hmem =>
        hforget seconds now (List.mem_cons_of_mem _ hmem)
      cases call with
      | check key' now =>
          have hsound : (bs.take limit key' now).2.IsSound limit now := hbs.take key'
          rw [answers, List.filterMap_cons_some (by rfl)]
          rcases eq_or_ne key key' with rfl | hne
          · have hfirst : (bs.take limit key now).1 = (b.take limit now).1 :=
              congrArg Prod.fst hb.take_eq
            have hrest : (bs.take limit key now).2.StandsFor limit key (b.take limit now).2 now :=
              hb.check
            rw [ofKey_cons_self, ofKey_cons_self, TokenBucket.attempts, List.map_cons, hfirst,
              ih hrest hsound hlater hforget']
          · rw [ofKey_cons_of_ne hne.symm, ofKey_cons_of_ne hne.symm]
            exact ih (hb.check_ne hne) hsound hlater hforget'
      | forget seconds now =>
          rw [answers, List.filterMap_cons_none (by rfl)]
          exact ih (hb.forget hbs (hforget seconds now List.mem_cons_self))
            (hbs.forget seconds now) hlater hforget'

/-- However checks of keys are mixed, and however often buckets are forgotten that were left alone
for the time that an empty one takes to fill, the checks of every key come to what they come to on
a bucket of its own, which was full from the start and is never forgotten. -/
theorem forgetting_does_not_show (limit : RateLimit) {start : Rat} {calls : List LimiterCall}
    (hcalls : (start :: calls.map LimiterCall.moment).Pairwise (· ≤ ·))
    (hforget : ∀ seconds now, LimiterCall.forget seconds now ∈ calls →
      (limit.capacity : Rat) ≤ seconds * limit.rate) (key : String) :
    ofKey key (answers limit {} calls) =
      ((full limit start).attempts limit (ofKey key (calls.filterMap LimiterCall.check?))).map
        (·.result) :=
  (standsFor_empty limit key start).answers_of_key (isSound_empty limit start) hcalls hforget

/-- Two keys at two tokens, of which one comes every two seconds, with some cleaning up. -/
def sampleCalls : List LimiterCall :=
  [.check "a" 0, .check "a" 0, .check "a" 0, .check "b" 1, .forget 4 (9 / 2), .check "a" 5,
    .check "b" 5, .check "b" 5, .check "b" 5]

/-- One of the buckets is forgotten and the other one kept, and neither shows. -/
theorem sample_forgetting_does_not_show :
    let limit := RateLimit.ofRate 2 sampleRate
    let before := (({} : KeyedBuckets).take limit "a" 0).2.take limit "b" 1
    (before.2.forget 4 (9 / 2)).entries.map (·.1) = ["b"]
    ∧ ofKey "a" (answers limit {} sampleCalls) = [.taken, .taken, .after 2, .taken]
    ∧ ((full limit 0).attempts limit [0, 0, 0, 5]).map (·.result)
      = [.taken, .taken, .after 2, .taken]
    ∧ ofKey "b" (answers limit {} sampleCalls) = [.taken, .taken, .taken, .after 2] := by
  intro limit before
  have hmoments : ((0 : Rat) :: sampleCalls.map LimiterCall.moment).Pairwise (· ≤ ·) := by
    decide +kernel
  have hforget : ∀ seconds now, LimiterCall.forget seconds now ∈ sampleCalls →
      (limit.capacity : Rat) ≤ seconds * limit.rate := by
    intro seconds now hmem
    simp only [sampleCalls, List.mem_cons, reduceCtorEq, LimiterCall.forget.injEq, false_or,
      or_false, List.not_mem_nil] at hmem
    obtain ⟨rfl, -⟩ := hmem
    decide +kernel
  have hshow := fun key => forgetting_does_not_show limit hmoments hforget key
  have ha : ((full limit 0).attempts limit [0, 0, 0, 5]).map (·.result)
      = [.taken, .taken, .after 2, .taken] := by decide +kernel
  refine ⟨by decide +kernel, (hshow "a").trans ha, ha, (hshow "b").trans ?_⟩
  decide +kernel

end KeyedBuckets

end GuildRelay
