import GuildRelay.Rate.Limit
/-!
# Token buckets

A `TokenBucket` fills steadily up to its capacity, and everything that happens takes one token. A
take that finds no whole token tells how long it is until there is one: that is exactly the time in
which the missing part comes.
-/

namespace GuildRelay

/-- The tokens in a bucket at a moment. -/
structure TokenBucket where
  tokens : Rat
  /-- The moment in seconds. -/
  moment : Rat
deriving DecidableEq

/-- What comes of an attempt to take a token. -/
inductive TakeResult where
  | taken
  /-- There is no token before a number of seconds has passed. -/
  | after (seconds : Rat)
  /-- There will be no token. -/
  | never
deriving DecidableEq

namespace TokenBucket

/-- A bucket that is as full as it gets. -/
def full (limit : RateLimit) (now : Rat) : TokenBucket :=
  ⟨limit.capacity, now⟩

/-- The bucket at a later moment. -/
def refill (limit : RateLimit) (b : TokenBucket) (now : Rat) : TokenBucket :=
  let tokens := b.tokens + (now - b.moment) * limit.rate
  ⟨if tokens ≤ limit.capacity then tokens else limit.capacity, now⟩

/-- Waits that are told are shorter than this, in seconds. -/
def longestWait : Rat := 18446744073709551616

/-- How long it takes until a bucket with less than one token has one. -/
def wait (limit : RateLimit) (tokens : Rat) : TakeResult :=
  let seconds := (1 - tokens) / limit.rate
  if 0 < limit.rate ∧ seconds < longestWait then .after seconds else .never

/-- Takes a token at a moment. -/
def take (limit : RateLimit) (b : TokenBucket) (now : Rat) : TakeResult × TokenBucket :=
  let b := b.refill limit now
  if 1 ≤ b.tokens then (.taken, { b with tokens := b.tokens - 1 })
  else (wait limit b.tokens, b)

/-- Takes a token at a moment, or later but not after a deadline. The bucket that is left tells when
the waiting ended. -/
def takeBy (limit : RateLimit) (b : TokenBucket) (now deadline : Rat) : Bool × TokenBucket :=
  match b.take limit now with
  | (.taken, b) => (true, b)
  | (.after seconds, b) =>
    if now + seconds ≤ deadline then
      let (result, b) := b.take limit (now + seconds)
      (result = .taken, b)
    else (false, b)
  | (.never, b) => (false, b)

/-- Attempts to take a number of tokens one by one; tells how many were there, with those counted
before. -/
def takeMany (limit : RateLimit) (now : Rat) :
    (attempts count : Nat) → TokenBucket → Nat × TokenBucket
  | 0, count, b => (count, b)
  | attempts + 1, count, b =>
    let (result, b) := b.take limit now
    takeMany limit now attempts (if result = .taken then count + 1 else count) b

theorem tokens_refill_le (limit : RateLimit) (b : TokenBucket) (now : Rat) :
    (b.refill limit now).tokens ≤ limit.capacity := by
  simp only [refill]
  grind

theorem moment_take (limit : RateLimit) (b : TokenBucket) (now : Rat) :
    (b.take limit now).2.moment = now := by
  simp only [take]
  split <;> rfl

end TokenBucket

end GuildRelay
