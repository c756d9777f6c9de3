import GuildRelay.Cache.Record
import GuildRelay.Event.Codec
/-!
# Claiming events

Several connections may deliver the same event. Each consumer claims an event before handling it,
and of the claims within a window only the first succeeds.
-/

namespace GuildRelay.Cache

/-- How long a claim lasts, in milliseconds. -/
def claimWindow : Nat := 5 * 60 * 1000

/-- The key under which a consumer claims an event. -/
def claimKey (e : Event) (source : String) : Key :=
  .claim e.kind.name e.digest source

/-- Claims a key; a store that fails counts as a claim by someone else. -/
def isNew {κ : Type} (key : κ) : Program κ Bool :=
  .call key (.setIfAbsent "1" claimWindow) fun
    | .ok new => .done new
    | .error _ => .done false

end GuildRelay.Cache
