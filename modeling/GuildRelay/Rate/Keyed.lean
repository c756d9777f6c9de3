import GuildRelay.Rate.Bucket
import GuildRelay.Text.Entries
/-!
# Keyed buckets

One token bucket for every key, all with the same limit. A key that was not used yet has a full
bucket, so that buckets that have been left alone long enough may be forgotten. `bucket_put` says
what putting a bucket does to the others.
-/

namespace GuildRelay

/-- The buckets of the keys that were used. -/
structure KeyedBuckets where
  entries : List (String × TokenBucket) := []
deriving DecidableEq

namespace KeyedBuckets

/-- The bucket of a key at a moment. -/
def bucket (limit : RateLimit) (bs : KeyedBuckets) (key : String) (now : Rat) : TokenBucket :=
  (bs.entries.lookup key).getD (.full limit now)

/-- The buckets with another one for a key. -/
def put (bs : KeyedBuckets) (key : String) (b : TokenBucket) : KeyedBuckets :=
  ⟨(key, b) :: Entries.without bs.entries key⟩

/-- Takes a token of a key at a moment. -/
def take (limit : RateLimit) (bs : KeyedBuckets) (key : String) (now : Rat) :
    TakeResult × KeyedBuckets :=
  let (result, b) := (bs.bucket limit key now).take limit now
  (result, bs.put key b)

/-- Attempts to take a number of tokens of a key; tells how many were there. -/
def takeMany (limit : RateLimit) (bs : KeyedBuckets) (key : String) (now : Rat) :
    (attempts : Nat) → Nat × KeyedBuckets
  | 0 => (0, bs)
  | attempts + 1 =>
    let (count, b) := (bs.bucket limit key now).takeMany limit now (attempts + 1) 0
    (count, bs.put key b)

/-- Takes a token of a key at a moment, or later but not after a deadline. Tells as well when the
waiting ended. -/
def takeBy (limit : RateLimit) (bs : KeyedBuckets) (key : String) (now deadline : Rat) :
    Bool × Rat × KeyedBuckets :=
  let (taken, b) := (bs.bucket limit key now).takeBy limit now deadline
  (taken, b.moment, bs.put key b)

/-- Forgets the buckets that were not used within a number of seconds. -/
def forget (bs : KeyedBuckets) (seconds now : Rat) : KeyedBuckets :=
  ⟨bs.entries.filter fun entry => now - seconds < entry.2.moment⟩

theorem bucket_put (limit : RateLimit) (bs : KeyedBuckets) (k k' : String) (b : TokenBucket)
    (now : Rat) :
    (bs.put k b).bucket limit k' now = if k' = k then b else bs.bucket limit k' now := by
  by_cases hk : k' = k
  · subst hk
    simp [put, bucket]
  · have hb : (k' == k) = false := by simpa using hk
    simp [put, bucket, hk, List.lookup_cons, hb, Entries.lookup_without_ne hk]

end KeyedBuckets

end GuildRelay
