import GuildRelay.BanList.Page
/-!
# Walking through the pages

The whole ban list of a guild is read page by page. A full page is followed by a request for what is
behind its last entry, and a page that is not full is the last one. Nothing else ends the walk, so
`PageWalk.run` takes the number of requests that it may make.
-/

namespace GuildRelay

/-- Whoever replies to requests, by the requests before, the latest first. -/
abbrev BanServer := (before : List BanPageRequest) → (request : BanPageRequest) → BanPageReply

/-- How far a walk through the pages has come. -/
structure PageWalk where
  /-- The requests made, the latest first. -/
  requests : List BanPageRequest := []
  /-- The bans on the pages so far. -/
  bans : List Ban := []
  /-- The user behind whom the next page starts. -/
  after : Option String := none
  /-- What the walk has led to. -/
  result : Option (Except BanListError (List Ban)) := none

namespace PageWalk

/-- The walk after another page. -/
def addPage (w : PageWalk) (page : List Ban) : PageWalk :=
  let bans := w.bans ++ page
  let after := page.getLast?.map fun ban => ban.user.id
  let isLast := page.length < banPageLimit || after.isNone
  { w with bans, after, result := if isLast then some (.ok bans) else none }

/-- The walk after another request. -/
def step (api : BanApi) (server : BanServer) (guildId : String) (w : PageWalk) : PageWalk :=
  let request : BanPageRequest := ⟨guildId, w.after⟩
  let reply := server w.requests request
  let w := { w with requests := request :: w.requests }
  match reply.bans (api.url guildId) with
  | .ok page => w.addPage page
  | .error e => { w with result := some (.error e) }

/-- The walk after at most a number of further requests. -/
def run (api : BanApi) (server : BanServer) (guildId : String) : Nat → PageWalk → PageWalk
  | 0, w => w
  | n + 1, w =>
    if w.result.isSome then w else run api server guildId n (w.step api server guildId)

theorem run_of_isSome (api : BanApi) (server : BanServer) (guildId : String) (n : Nat)
    {w : PageWalk} (h : w.result.isSome) : run api server guildId n w = w := by
  cases n <;> simp [run, h]

/-- A walk that has ended within some requests ends the same way with more. -/
theorem run_add (api : BanApi) (server : BanServer) (guildId : String) (m n : Nat)
    (w : PageWalk) :
    run api server guildId (m + n) w =
      run api server guildId n (run api server guildId m w) := by
  induction m generalizing w with
  | zero => simp [run]
  | succ m ih =>
    rw [Nat.succ_add, run, run]
    split
    · rename_i h
      rw [run_of_isSome api server guildId n h]
    · exact ih _

end PageWalk

end GuildRelay
