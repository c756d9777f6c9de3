import GuildRelay.Rate.Keyed
import Mathlib.Algebra.Order.Field.Rat
import Mathlib.Data.List.Basic
import Mathlib.Tactic.Linarith
import Mathlib.Tactic.Ring
/-!
# What a token bucket lets through

Attempts are made at some moments, one after the other (`TokenBucket.attempts`). In every stretch of
time no more of them succeed than the capacity and what comes in that time, whenever the stretch
begins, and a failed attempt tells exactly the earliest moment at which one succeeds
(`TokenBucket.bounds_every_window`).

The bound is an amortized one: tokens that are there and those that come until some moment pay for
all that is taken up to then (`takenWithin_le_tokens`). For a stretch in the middle of a run the
bucket is filled up to where the stretch begins first, which no later attempt notices
(`take_refill`), and what is in it then is no more than the capacity.

A keyed limiter is a bucket for every key: what the attempts on one key come to is what they come to
on a bucket of their own (`KeyedBuckets.attempts_of_key`).
-/

namespace GuildRelay

namespace TokenBucket

/-- An attempt to take a token, and the bucket after it. -/
structure Attempt where
  moment : Rat
  result : TakeResult
  bucket : TokenBucket

section

variable (limit : RateLimit)

/-- Attempts at some moments, one after the other. -/
def attempts (b : TokenBucket) : List Rat → List Attempt
  | [] => []
  | now :: later => ⟨now, (b.take limit now).1, (b.take limit now).2⟩ ::
      attempts (b.take limit now).2 later

/-- How many of the attempts from one moment to another, both included, took a token. -/
def takenWithin (s t : Rat) (as : List Attempt) : Nat :=
  as.countP fun a => s ≤ a.moment && a.moment ≤ t && a.result = .taken

/-- There are no fewer tokens than none, and no more than the bucket holds. -/
structure IsSound (b : TokenBucket) : Prop where
  nonneg : 0 ≤ b.tokens
  le_capacity : b.tokens ≤ limit.capacity

end

variable {limit : RateLimit} {b : TokenBucket} {now s t w : Rat} {moments : List Rat}

/-! ## Filling up -/

theorem tokens_refill_le_add (limit : RateLimit) (b : TokenBucket) (now : Rat) :
    (b.refill limit now).tokens ≤ b.tokens + (now - b.moment) * limit.rate := by
  simp only [refill]
  split
  · exact le_rfl
  · linarith

theorem le_tokens_refill {x : Rat} (h : x ≤ b.tokens + (now - b.moment) * limit.rate)
    (hcapacity : x ≤ limit.capacity) : x ≤ (b.refill limit now).tokens := by
  simp only [refill]
  split
  · exact h
  · exact hcapacity

/-- Nothing is lost up to the capacity. -/
theorem IsSound.tokens_le_refill (hb : b.IsSound limit) (hnow : b.moment ≤ now) :
    b.tokens ≤ (b.refill limit now).tokens := by
  have hcome : 0 ≤ (now - b.moment) * limit.rate :=
    mul_nonneg (sub_nonneg.mpr hnow) limit.rate_nonneg
  exact le_tokens_refill (by linarith) hb.le_capacity

theorem IsSound.refill (hb : b.IsSound limit) (hnow : b.moment ≤ now) :
    (b.refill limit now).IsSound limit :=
  ⟨hb.nonneg.trans (hb.tokens_le_refill hnow), tokens_refill_le limit b now⟩

/-- It does not show in a bucket that it was filled up before. -/
theorem refill_refill (limit : RateLimit) (b : TokenBucket) (hnow : s ≤ now) :
    (b.refill limit s).refill limit now = b.refill limit now := by
  have hcome : 0 ≤ (now - s) * limit.rate := mul_nonneg (sub_nonneg.mpr hnow) limit.rate_nonneg
  have hmoment : (b.refill limit s).moment = s := rfl
  have htokens : ((b.refill limit s).refill limit now).tokens = (b.refill limit now).tokens := by
    apply le_antisymm
    · have hfirst := tokens_refill_le_add limit b s
      have hsecond := tokens_refill_le_add limit (b.refill limit s) now
      rw [hmoment] at hsecond
      exact le_tokens_refill (by linarith) (tokens_refill_le ..)
    · have hall := tokens_refill_le_add limit b now
      have hcapacity := tokens_refill_le limit b now
      refine le_tokens_refill ?_ hcapacity
      rw [hmoment]
      -- Either the first filling stayed below the capacity, or the bucket was full from then on.
      by_cases hfull : b.tokens + (s - b.moment) * limit.rate ≤ limit.capacity
      · have hfirst := le_tokens_refill le_rfl hfull
        linarith
      · have hfirst := le_tokens_refill (not_le.mp hfull).le (le_refl (limit.capacity : Rat))
        linarith
  calc (b.refill limit s).refill limit now
      = ⟨((b.refill limit s).refill limit now).tokens, now⟩ := rfl
    _ = ⟨(b.refill limit now).tokens, now⟩ := by rw [htokens]

theorem take_refill (limit : RateLimit) (b : TokenBucket) (hnow : s ≤ now) :
    (b.refill limit s).take limit now = b.take limit now := by
  simp only [take, refill_refill limit b hnow]

/-! ## One attempt -/

/-- An attempt takes a token off the filled bucket, or leaves it as it is. -/
theorem take_cases (limit : RateLimit) (b : TokenBucket) (now : Rat) :
    (1 ≤ (b.refill limit now).tokens ∧ (b.take limit now).1 = .taken ∧
        (b.take limit now).2.tokens = (b.refill limit now).tokens - 1) ∨
      ((b.refill limit now).tokens < 1 ∧
        (b.take limit now).1 = wait limit (b.refill limit now).tokens ∧
        (b.take limit now).2 = b.refill limit now) := by
  by_cases htoken : 1 ≤ (b.refill limit now).tokens
  · exact .inl ⟨htoken, by simp [take, htoken], by simp [take, htoken]⟩
  · exact .inr ⟨not_le.mp htoken, by simp [take, htoken], by simp [take, htoken]⟩

theorem wait_ne_taken (limit : RateLimit) (tokens : Rat) : wait limit tokens ≠ .taken := by
  simp only [wait]
  split <;> simp

theorem take_eq_taken_iff :
    (b.take limit now).1 = .taken ↔ 1 ≤ (b.refill limit now).tokens := by
  rcases take_cases limit b now with ⟨htoken, htaken, -⟩ | ⟨hnone, hwait, -⟩
  · simp [htoken, htaken]
  · simp [hwait, wait_ne_taken, not_le.mpr hnone]

theorem IsSound.take (hb : b.IsSound limit) (hnow : b.moment ≤ now) :
    (b.take limit now).2.IsSound limit := by
  have hfilled := hb.refill hnow
  rcases take_cases limit b now with ⟨htoken, -, hleft⟩ | ⟨-, -, hleft⟩
  · refine ⟨?_, ?_⟩
    · rw [hleft]
      linarith
    · rw [hleft]
      linarith [hfilled.le_capacity]
  · rw [hleft]
    exact hfilled

/-- A failed attempt tells how long it takes until the missing part of a token has come. -/
theorem tokens_of_after (h : (b.take limit now).1 = .after w) :
    0 < limit.rate ∧ (b.take limit now).2 = b.refill limit now ∧
      (b.refill limit now).tokens + w * limit.rate = 1 := by
  rcases take_cases limit b now with ⟨-, htaken, -⟩ | ⟨-, hwait, hleft⟩
  · rw [htaken] at h
    cases h
  · rw [hwait, wait] at h
    split at h
    · next hrate =>
        obtain ⟨rfl⟩ := h
        have hne : limit.rate ≠ 0 := hrate.1.ne'
        exact ⟨hrate.1, hleft, by rw [div_mul_cancel₀ _ hne]; linarith⟩
    · cases h

/-! ## All attempts -/

theorem le_of_mem_cons {m m' : Rat} (h : (m :: moments).Pairwise (· ≤ ·))
    (hm' : m' ∈ m :: moments) : m ≤ m' := by
  rcases List.mem_cons.mp hm' with rfl | hm'
  · exact le_rfl
  · exact List.rel_of_pairwise_cons h hm'

/-- The attempts after the first one come no earlier than it. -/
theorem pairwise_take (limit : RateLimit) {m : Rat}
    (h : (b.moment :: m :: moments).Pairwise (· ≤ ·)) :
    b.moment ≤ m ∧ ((b.take limit m).2.moment :: moments).Pairwise (· ≤ ·) := by
  obtain ⟨hfirst, hrest⟩ := List.pairwise_cons.mp h
  rw [moment_take]
  exact ⟨hfirst m List.mem_cons_self, hrest⟩

theorem isSound_of_mem_attempts (hb : b.IsSound limit)
    (hmoments : (b.moment :: moments).Pairwise (· ≤ ·)) {a : Attempt}
    (ha : a ∈ b.attempts limit moments) : a.bucket.IsSound limit := by
  induction moments generalizing b with
  | nil => cases ha
  | cons m later ih =>
      obtain ⟨hm, hlater⟩ := pairwise_take limit hmoments
      rcases List.mem_cons.mp ha with rfl | ha
      · exact hb.take hm
      · exact ih (hb.take hm) hlater ha

theorem exists_of_mem_attempts {a : Attempt} (ha : a ∈ b.attempts limit moments) :
    ∃ before : TokenBucket, before.take limit a.moment = (a.result, a.bucket) := by
  induction moments generalizing b with
  | nil => cases ha
  | cons m later ih =>
      rcases List.mem_cons.mp ha with rfl | ha
      · exact ⟨b, rfl⟩
      · exact ih ha

/-! ## What is taken -/

/-- What is left and what was taken is what was there. -/
theorem tokens_take (limit : RateLimit) (b : TokenBucket) (now : Rat) :
    (b.take limit now).2.tokens + (if (b.take limit now).1 = .taken then 1 else 0) =
      (b.refill limit now).tokens := by
  rcases take_cases limit b now with ⟨-, htaken, hleft⟩ | ⟨-, hwait, hleft⟩
  · rw [htaken, hleft]
    simp
  · rw [hwait, hleft]
    simp [wait_ne_taken]

theorem takenWithin_cons (s t : Rat) (a : Attempt) (as : List Attempt) :
    takenWithin s t (a :: as) =
      takenWithin s t as + if s ≤ a.moment ∧ a.moment ≤ t ∧ a.result = .taken then 1 else 0 := by
  simp [takenWithin, List.countP_cons, and_assoc]

theorem takenWithin_eq_zero (hmoments : ∀ m ∈ moments, t < m) :
    takenWithin s t (b.attempts limit moments) = 0 := by
  induction moments generalizing b with
  | nil => rfl
  | cons m later ih =>
      obtain ⟨hm, hlater⟩ := List.forall_mem_cons.mp hmoments
      rw [attempts, takenWithin_cons, ih hlater]
      simp [not_le.mpr hm]

/-- The tokens in a bucket and those that come until some moment pay for all that is taken up to
then. -/
theorem takenWithin_le_tokens (hb : b.IsSound limit) (ht : b.moment ≤ t)
    (hmoments : (b.moment :: moments).Pairwise (· ≤ ·)) :
    (takenWithin s t (b.attempts limit moments) : Rat) ≤
      b.tokens + (t - b.moment) * limit.rate := by
  have hcome : 0 ≤ (t - b.moment) * limit.rate :=
    mul_nonneg (sub_nonneg.mpr ht) limit.rate_nonneg
  have hnonneg := hb.nonneg
  induction moments generalizing b with
  | nil =>
      simp only [attempts, takenWithin, List.countP_nil, Nat.cast_zero]
      linarith
  | cons m later ih =>
      obtain ⟨hm, hlater⟩ := pairwise_take limit hmoments
      rcases le_or_gt m t with hmt | htm
      · have hafter := hb.take hm
        have hpaid := ih hafter (by rwa [moment_take]) hlater
          (mul_nonneg (by rwa [moment_take, sub_nonneg]) limit.rate_nonneg) hafter.nonneg
        have hone : ((if s ≤ m ∧ m ≤ t ∧ (b.take limit m).1 = .taken then 1 else 0 : Nat) : Rat) ≤
            if (b.take limit m).1 = .taken then 1 else 0 := by
          split <;> split <;> simp_all
        have htokens := tokens_take limit b m
        have hfilled := tokens_refill_le_add limit b m
        rw [moment_take] at hpaid
        rw [attempts, takenWithin_cons, Nat.cast_add]
        linarith
      · have hlate : ∀ m' ∈ m :: later, t < m' := fun m' hm' =>
          htm.trans_le (le_of_mem_cons hmoments.of_cons hm')
        rw [takenWithin_eq_zero hlate, Nat.cast_zero]
        linarith

/-- A stretch of time that begins with the attempts, or at some time before them. -/
theorem takenWithin_le_of_forall_le (hb : b.IsSound limit) (hst : s ≤ t)
    (hmoments : (b.moment :: moments).Pairwise (· ≤ ·)) (hs : ∀ m ∈ moments, s ≤ m) :
    (takenWithin s t (b.attempts limit moments) : Rat) ≤
      limit.capacity + limit.rate * (t - s) := by
  rcases le_total b.moment s with hbs | hsb
  · -- Filled up until the stretch begins, the bucket pays for the rest.
    have hfilled : (b.refill limit s).attempts limit moments = b.attempts limit moments := by
      cases moments with
      | nil => rfl
      | cons m later =>
          rw [attempts, attempts, take_refill limit b (hs m List.mem_cons_self)]
    have hpaid := takenWithin_le_tokens (s := s) (hb.refill hbs) hst
      (List.pairwise_cons.mpr ⟨hs, hmoments.of_cons⟩)
    have hcapacity := tokens_refill_le limit b s
    rw [hfilled, show (b.refill limit s).moment = s from rfl] at hpaid
    linarith
  · have hcapacity := hb.le_capacity
    rcases le_or_gt b.moment t with hbt | htb
    · have hpaid := takenWithin_le_tokens (s := s) hb hbt hmoments
      have hearlier : 0 ≤ (b.moment - s) * limit.rate :=
        mul_nonneg (sub_nonneg.mpr hsb) limit.rate_nonneg
      linarith
    · have hlate : ∀ m ∈ moments, t < m := fun m hm =>
        htb.trans_le (List.rel_of_pairwise_cons hmoments hm)
      have hcome : 0 ≤ limit.rate * (t - s) := mul_nonneg limit.rate_nonneg (sub_nonneg.mpr hst)
      have hnonneg := hb.nonneg
      rw [takenWithin_eq_zero hlate, Nat.cast_zero]
      linarith

/-- No more is taken in a stretch of time than the capacity and what comes in that time. -/
theorem takenWithin_le (hb : b.IsSound limit) (hst : s ≤ t)
    (hmoments : (b.moment :: moments).Pairwise (· ≤ ·)) :
    (takenWithin s t (b.attempts limit moments) : Rat) ≤
      limit.capacity + limit.rate * (t - s) := by
  induction moments generalizing b with
  | nil => exact takenWithin_le_of_forall_le hb hst hmoments fun m hm => by cases hm
  | cons m later ih =>
      obtain ⟨hm, hlater⟩ := pairwise_take limit hmoments
      rcases lt_or_ge m s with hms | hsm
      · -- The stretch has not begun.
        rw [attempts, takenWithin_cons, if_neg fun h => not_le.mpr hms h.1, Nat.add_zero]
        exact ih (hb.take hm) hlater
      · exact takenWithin_le_of_forall_le hb hst hmoments fun m' hm' =>
          hsm.trans (le_of_mem_cons hmoments.of_cons hm')

/-! ## How long a failed attempt has to wait -/

/-- An attempt fails only without a whole token. It is told of no wait only if there is none that
could be told. -/
theorem tokens_of_not_taken (limit : RateLimit) (b : TokenBucket) (now : Rat)
    (h : (b.take limit now).1 ≠ .taken) :
    (b.take limit now).2.tokens < 1 ∧ ((b.take limit now).1 = .never →
      limit.rate = 0 ∨ longestWait ≤ (1 - (b.take limit now).2.tokens) / limit.rate) := by
  rcases take_cases limit b now with ⟨-, htaken, -⟩ | ⟨hnone, hwait, hleft⟩
  · exact absurd htaken h
  · refine ⟨by rwa [hleft], fun hnever => ?_⟩
    rw [hwait, wait] at hnever
    rw [hleft]
    split at hnever
    · cases hnever
    · next hlong =>
        rcases limit.rate_nonneg.eq_or_lt with hrate | hrate
        · exact .inl hrate.symm
        · exact .inr (not_lt.mp fun hlt => hlong ⟨hrate, hlt⟩)

/-- While a token is still missing at some moment, no attempt before it succeeds. -/
theorem not_taken_of_missing {ready : Rat} (hb : b.tokens + (ready - b.moment) * limit.rate ≤ 1)
    (hrate : 0 < limit.rate) (hmoments : ∀ m ∈ moments, m < ready) {a : Attempt}
    (ha : a ∈ b.attempts limit moments) : a.result ≠ .taken := by
  induction moments generalizing b with
  | nil => cases ha
  | cons m later ih =>
      obtain ⟨hm, hlater⟩ := List.forall_mem_cons.mp hmoments
      have hfilled := tokens_refill_le_add limit b m
      have hmissing : 0 < (ready - m) * limit.rate := mul_pos (sub_pos.mpr hm) hrate
      rcases take_cases limit b m with ⟨htoken, -, -⟩ | ⟨-, hwait, hleft⟩
      · linarith
      · rcases List.mem_cons.mp ha with rfl | ha
        · rw [hwait]
          exact wait_ne_taken limit _
        · refine ih ?_ hlater ha
          rw [hleft, show (b.refill limit m).moment = m from rfl]
          linarith

/-- A failed attempt tells the earliest moment at which one succeeds. -/
theorem taken_of_after (limit : RateLimit) (b : TokenBucket) (now : Rat)
    (hcapacity : 1 ≤ limit.capacity) (h : (b.take limit now).1 = .after w) :
    ((b.take limit now).2.take limit (now + w)).1 = .taken ∧
      ∀ moments : List Rat, (∀ m ∈ moments, m < now + w) →
        ∀ a ∈ (b.take limit now).2.attempts limit moments, a.result ≠ .taken := by
  obtain ⟨hrate, hleft, hready⟩ := tokens_of_after h
  have hmoment : (b.refill limit now).moment = now := rfl
  have hone : (b.refill limit now).tokens + (now + w - now) * limit.rate = 1 := by
    rw [add_sub_cancel_left]
    exact hready
  rw [hleft]
  refine ⟨?_, fun moments hmoments a ha => ?_⟩
  · rw [take_eq_taken_iff]
    exact le_tokens_refill hone.ge (by exact_mod_cast hcapacity)
  · exact not_taken_of_missing hone.le hrate hmoments ha

theorem isSound_full (limit : RateLimit) (start : Rat) : (full limit start).IsSound limit :=
  ⟨Nat.cast_nonneg limit.capacity, le_rfl⟩

end TokenBucket

/-! ## Rates -/

theorem Binary64.exists_toRat? (negative : Bool) (m : Nat) (e : Int) :
    ∃ q : Rat, 0 ≤ q ∧ (m = 0 → q = 0) ∧
      (finite negative m e).toRat? = some (if negative then -q else q) := by
  by_cases he : 0 ≤ e
  · refine ⟨(m * Nat.pow 2 e.toNat : Nat), Nat.cast_nonneg _, fun hm => ?_, by simp [toRat?, he]⟩
    rw [hm, Nat.zero_mul, Nat.cast_zero]
  · refine ⟨(m : Rat) / (Nat.pow 2 (-e).toNat : Nat), div_nonneg (Nat.cast_nonneg _)
      (Nat.cast_nonneg _), fun hm => ?_, by simp [toRat?, he]⟩
    rw [hm, Nat.cast_zero, zero_div]

/-- Tokens come at a rate if it is finite and positive, and do not come otherwise. -/
theorem RateLimit.effective_eq (rate : Binary64) :
    effective rate = if rate.isFinite && rate.isPositive then rate.toRat?.getD 0 else 0 := by
  cases rate with
  | undefined => rfl
  | infinite negative => rfl
  | finite negative m e =>
      obtain ⟨q, hq, hzero, hvalue⟩ := Binary64.exists_toRat? negative m e
      rw [effective, hvalue]
      cases negative with
      | false =>
          by_cases hm : m = 0
          · simp [Binary64.isPositive, hm, hzero hm]
          · simp [Binary64.isFinite, Binary64.isPositive, hm, hq]
      | true =>
          rcases hq.eq_or_lt with rfl | hq
          · simp [Binary64.isPositive]
          · simp [Binary64.isPositive, hq]

/-! ## A bucket for every key -/

namespace KeyedBuckets

open TokenBucket

/-- Attempts on keys at some moments, one after the other. -/
def attempts (limit : RateLimit) (bs : KeyedBuckets) : List (String × Rat) → List (String × Attempt)
  | [] => []
  | (key, now) :: later =>
    let after := (bs.take limit key now).2
    (key, ⟨now, (bs.take limit key now).1, after.bucket limit key now⟩) ::
      attempts limit after later

/-- What belongs to a key, in order. -/
def ofKey {α : Type} (key : String) (entries : List (String × α)) : List α :=
  (entries.filter fun entry => entry.1 = key).map (·.2)

theorem ofKey_cons_self {α : Type} (key : String) (x : α) (entries : List (String × α)) :
    ofKey key ((key, x) :: entries) = x :: ofKey key entries := by
  simp [ofKey]

theorem ofKey_cons_of_ne {α : Type} {key key' : String} (h : key' ≠ key) (x : α)
    (entries : List (String × α)) : ofKey key ((key', x) :: entries) = ofKey key entries := by
  simp [ofKey, h]

variable {limit : RateLimit} {start now : Rat}

/-- A full bucket stays full. -/
theorem refill_full (limit : RateLimit) (h : start ≤ now) :
    (full limit start).refill limit now = full limit now := by
  have hcome : 0 ≤ (now - start) * limit.rate := mul_nonneg (sub_nonneg.mpr h) limit.rate_nonneg
  have hcapacity : (limit.capacity : Rat) ≤ ((full limit start).refill limit now).tokens :=
    le_tokens_refill (le_add_of_nonneg_right hcome) le_rfl
  calc (full limit start).refill limit now
      = ⟨((full limit start).refill limit now).tokens, now⟩ := rfl
    _ = ⟨limit.capacity, now⟩ := by rw [le_antisymm (tokens_refill_le ..) hcapacity]

/-- A key that was not used yet has a full bucket, whenever that is. -/
theorem take_bucket (limit : RateLimit) (bs : KeyedBuckets) (key : String) (h : start ≤ now) :
    (bs.bucket limit key start).take limit now = (bs.bucket limit key now).take limit now := by
  unfold bucket
  cases bs.entries.lookup key with
  | some b => rfl
  | none =>
      simp only [Option.getD_none, TokenBucket.take, refill_full limit h, refill_full limit le_rfl]

theorem bucket_take (limit : RateLimit) (bs : KeyedBuckets) (key key' : String)
    (now moment : Rat) :
    (bs.take limit key now).2.bucket limit key' moment =
      if key' = key then ((bs.bucket limit key now).take limit now).2
      else bs.bucket limit key' moment :=
  bucket_put limit bs key key' _ moment

/-- The attempts on a key come to what they come to on a bucket of its own. -/
theorem attempts_of_key {bs : KeyedBuckets} {calls : List (String × Rat)}
    (hcalls : ∀ call ∈ calls, start ≤ call.2) (key : String) :
    ofKey key (bs.attempts limit calls) =
      (bs.bucket limit key start).attempts limit (ofKey key calls) := by
  induction calls generalizing bs with
  | nil => rfl
  | cons call later ih =>
      obtain ⟨key', now⟩ := call
      obtain ⟨hnow, hlater⟩ := List.forall_mem_cons.mp hcalls
      have hrest := @ih (bs.take limit key' now).2 hlater
      have hafter := bucket_take limit bs key' key now
      rcases eq_or_ne key key' with rfl | hne
      · have hfirst := take_bucket limit bs key hnow
        simp only [hafter, if_true] at hrest
        simp only [attempts, ofKey_cons_self, TokenBucket.attempts, hfirst, hafter, hrest, if_true]
        rfl
      · simp only [hafter, if_neg hne] at hrest
        rw [attempts, ofKey_cons_of_ne hne.symm, ofKey_cons_of_ne hne.symm, hrest]

end KeyedBuckets

/-! ## What is let through -/

/-- However the moments of the attempts lie, in every stretch of time no more of them succeed than
the capacity and what comes in that time, and there are never fewer tokens than none or more than
the capacity. An attempt fails only where less than one token is there; the wait that it is told
is over exactly when the next token has come, and it is told of none only where no token comes or
the wait is too long to tell. A limiter with keys does the same for each of them. -/
theorem TokenBucket.bounds_every_window (capacity : Nat) (rate : Binary64) {start : Rat}
    {moments : List Rat} (hmoments : (start :: moments).Pairwise (· ≤ ·)) :
    let limit := RateLimit.ofRate capacity rate
    let r := if rate.isFinite && rate.isPositive then rate.toRat?.getD 0 else 0
    let made := (full limit start).attempts limit moments
    (∀ s t, s ≤ t → (takenWithin s t made : Rat) ≤ capacity + r * (t - s))
    ∧ (∀ a ∈ made, 0 ≤ a.bucket.tokens ∧ a.bucket.tokens ≤ capacity)
    ∧ (∀ a ∈ made, a.result ≠ .taken → a.bucket.tokens < 1
      ∧ (a.result = .never → r = 0 ∨ longestWait ≤ (1 - a.bucket.tokens) / r))
    ∧ (0 < r → 1 ≤ capacity → ∀ a ∈ made, ∀ w, a.result = .after w →
      (a.bucket.take limit (a.moment + w)).1 = .taken
      ∧ ∀ later : List Rat, (∀ m ∈ later, m < a.moment + w) →
        ∀ a' ∈ a.bucket.attempts limit later, a'.result ≠ .taken)
    ∧ ∀ calls : List (String × Rat), (∀ call ∈ calls, start ≤ call.2) → ∀ key,
      KeyedBuckets.ofKey key calls = moments →
        KeyedBuckets.ofKey key (KeyedBuckets.attempts limit {} calls) = made := by
  intro limit r made
  have hrate : limit.rate = r := RateLimit.effective_eq rate
  have hfull := isSound_full limit start
  refine ⟨fun s t hst => ?_, fun a ha => ?_, fun a ha hfailed => ?_,
    fun _ hcapacity a ha w hw => ?_, fun calls hcalls key hkey => ?_⟩
  · have hbound := takenWithin_le hfull hst hmoments
    rwa [hrate] at hbound
  · obtain ⟨hnonneg, hle⟩ := isSound_of_mem_attempts hfull hmoments ha
    exact ⟨hnonneg, hle⟩
  · obtain ⟨before, htake⟩ := exists_of_mem_attempts ha
    have htold := tokens_of_not_taken limit before a.moment
    rw [htake, hrate] at htold
    exact htold hfailed
  · obtain ⟨before, htake⟩ := exists_of_mem_attempts ha
    have hready := taken_of_after limit before a.moment (w := w) hcapacity
    rw [htake] at hready
    exact hready hw
  · rw [KeyedBuckets.attempts_of_key hcalls, hkey]
    rfl

/-- One token comes every two seconds. -/
def sampleRate : Binary64 := .finite false 1 (-1)

/-- Two tokens at once, and one after two seconds as the failed attempts were told. The bound is
reached. -/
theorem TokenBucket.sample_bounds_every_window :
    let limit := RateLimit.ofRate 2 sampleRate
    let made := (full limit 0).attempts limit [0, 0, 0, 1, 2]
    made.map (·.result) = [.taken, .taken, .after 2, .after 1, .taken]
    ∧ takenWithin 0 2 made = 3
    ∧ (takenWithin 0 2 made : Rat) ≤ (2 : Nat) + (1 / 2) * (2 - 0)
    ∧ ∀ a ∈ made, a.result = .after 1 → (a.bucket.take limit (a.moment + 1)).1 = .taken := by
  intro limit made
  have hmoments : ([0, 0, 0, 0, 1, 2] : List Rat).Pairwise (· ≤ ·) := by decide +kernel
  have hrate : (if sampleRate.isFinite && sampleRate.isPositive then sampleRate.toRat?.getD 0
      else 0 : Rat) = 1 / 2 := by decide +kernel
  obtain ⟨hbound, -, -, hready, -⟩ := bounds_every_window 2 sampleRate hmoments
  rw [hrate] at hbound hready
  refine ⟨by decide +kernel, by decide +kernel, hbound 0 2 (by decide +kernel),
    fun a ha hafter => ?_⟩
  exact (hready (by decide +kernel) (by decide) a ha 1 hafter).1

end GuildRelay
