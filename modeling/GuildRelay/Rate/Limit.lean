import GuildRelay.Number.Binary64
/-!
# Rate limits

A `RateLimit` says how many things may happen at once and how many in every second after that. Both
numbers are exact: times are rational numbers of seconds.
-/

namespace GuildRelay

/-- How much a token bucket holds and how fast it fills. -/
structure RateLimit where
  /-- How many tokens there are at most. -/
  capacity : Nat
  /-- How many tokens come in a second; none come at rate zero. -/
  rate : Rat
  rate_nonneg : 0 ≤ rate

namespace RateLimit

/-- The greatest capacity that follows from a rate. -/
def greatestBurst : Nat := 4294967295

/-- The capacity that goes with a rate: the rate rounded up, but at least one token. -/
def burst : Binary64 → Nat
  | .undefined => 1
  | .infinite negative => if negative then 1 else greatestBurst
  | x@(.finite ..) => min (max (x.toRat?.getD 0).ceil.toNat 1) greatestBurst

/-- The rate at which tokens come: rates that are not finite or not positive count as zero. -/
def effective (rate : Binary64) : Rat :=
  let r := rate.toRat?.getD 0
  if 0 ≤ r then r else 0

theorem effective_nonneg (rate : Binary64) : 0 ≤ effective rate := by
  unfold effective
  grind

/-- The limit with a capacity and a rate. -/
def ofRate (capacity : Nat) (rate : Binary64) : RateLimit :=
  ⟨capacity, effective rate, effective_nonneg rate⟩

/-- So many in a second, with bursts of the same number rounded up. -/
def perSecond (rate : Binary64) : RateLimit :=
  ofRate (burst rate) rate

/-- Bursts of a number, and then one every so many seconds. -/
def every (capacity : Nat) (seconds : Binary64) : RateLimit :=
  ofRate capacity seconds.recip

end RateLimit

end GuildRelay
