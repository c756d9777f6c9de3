import GuildRelay.Cache.Lookup
/-!
# Ban lists

The gateway tells of bans only as they happen, so the ban list of a guild is fetched once. The guild
is then in the set of initialized guilds, and later runs fetch nothing. A bot that may not read bans
clears the list, so that a later grant starts afresh.
-/

namespace GuildRelay.Cache

open GuildRelay.Action

/-- Fills the set of banned users of a guild, unless it was filled before. -/
def initializeBans (guildId botId : String) : CacheAction Unit := do
  if ← canReadBans botId guildId then
    if ← ask .banInitializedGuildIds (.isSetMember guildId) then return
    drop (.guildBannedUserIds guildId)
    let bans ← askBans guildId
    addIds (.guildBannedUserIds guildId) (bans.map fun ban => ban.user.id)
    addIds .banInitializedGuildIds [guildId]
  else
    drop (.guildBannedUserIds guildId)
    removeId .banInitializedGuildIds guildId

/-- How often a run in the background is tried. -/
def backfillAttempts : Nat := 3

/-- Fills the set of banned users of a guild, with more attempts while failures may pass. -/
def attemptBackfill (guildId botId : String) : (attempts : Nat) → Program Key Unit
  | 0 => .done ()
  | attempts + 1 => (initializeBans guildId botId).run.andThen fun
    | .ok _ => .done ()
    | .error e => if e.isTransient then attemptBackfill guildId botId attempts else .done ()

/-- The run in the background that fills the set of banned users of a guild. -/
def backfillBans (guildId botId : String) : Program Key Unit :=
  attemptBackfill guildId botId backfillAttempts

end GuildRelay.Cache
