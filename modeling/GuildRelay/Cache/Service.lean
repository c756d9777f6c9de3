import GuildRelay.Cache.Bans
import GuildRelay.Cache.Update
/-!
# Handling events

`Cache.handle` is all that happens to the cache when an event arrives: the event is applied, and
where its guild may have become readable the ban list is looked at in the background. A run in the
background tells nobody of its failures.
-/

namespace GuildRelay.Cache

/-- The run in the background that an event asks for. Without a source of ban lists or without a bot
there is none. -/
def backfillIfAsked (hasBanSource : Bool) (botId : String) : Option String → Program Key Unit
  | some guildId =>
    if hasBanSource && !botId.isEmpty then backfillBans guildId botId else .done ()
  | none => .done ()

/-- Applies an event and then runs what it asks for in the background. -/
def handle (settings : CacheSettings) (hasBanSource : Bool) (botId : String) (e : Event) :
    Program Key (Except CacheError Unit) :=
  (apply settings botId e).run.andThen fun
    | .ok asked => (backfillIfAsked hasBanSource botId asked).andThen fun _ => .done (.ok ())
    | .error error => .done (.error error)

end GuildRelay.Cache
