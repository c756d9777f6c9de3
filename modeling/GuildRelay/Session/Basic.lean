import GuildRelay.Cache.Claim
import GuildRelay.Cache.Service
import GuildRelay.CommandLine.Arguments
import GuildRelay.Redis.Address
import GuildRelay.Routing.File
import GuildRelay.Routing.Matching
import GuildRelay.Settings.Basic
/-!
# Sessions

A session reads events line by line. Every event is claimed, applied to the cache and routed, and
those that have destinations are put out. Nothing that goes wrong with one line keeps the session
from the next: a line that is no event and an event that was claimed before are passed over, and an
event that could not be applied is routed all the same.
-/

namespace GuildRelay

/-- An event with the destinations that it was routed to. -/
structure Routed where
  key : String
  kind : EventKind
  destinations : List Destination

/-- The line that tells of a routed event. -/
def Routed.json (r : Routed) : String :=
  (Document.ofFields
    [("key", encode r.key), ("kind", .ofText r.kind.name),
     ("destinations", encode r.destinations)]).json

/-- What stays the same while events are read. -/
structure Session where
  settings : Settings
  /-- The name under which events are claimed. -/
  source : String
  table : RoutingTable

/-- Why a session cannot be started. -/
inductive StartError where
  | settings (e : Settings.Failure)
  | badAddress
  | unreadableRoutes
  | badRoutes (e : RoutingError)

namespace Session

/-- The table of a routing file. Without a file nothing is routed. -/
def tableOf (path : String) : Settings.File → Except StartError RoutingTable
  | .missing => .ok {}
  | .unreadable => .error .unreadableRoutes
  | .text text => (RoutingTable.ofFile path text).mapError .badRoutes

/-- The session with some settings, and what is found where the routing file should be. -/
def ofSettings (source : String) (settings : Settings) (routingFile : Settings.File) :
    Except StartError Session := do
  if !RedisAddress.isAddress settings.storeUrl then throw .badAddress
  let table ← tableOf settings.routingPath routingFile
  return { settings, source, table }

/-- The session for some arguments, with the files that are found and the variables that are set. -/
def start (a : Arguments) (find : String → Settings.File) (lookup : String → Option String) :
    Except StartError Session := do
  let settings ← (Settings.load (find a.settingsPath) lookup).mapError .settings
  ofSettings a.source settings (find settings.routingPath)

/-- What the settings say about the cache. -/
def cacheSettings (s : Session) : CacheSettings where
  maxChannelMessages := s.settings.maxChannelMessages.toNat
  expiry := s.settings.expiry.map (· * 1000)

/-- The bot that receives an event: the last one that was ready. -/
def botAfter (botId : String) : Event → String
  | .ready r => r.user.id
  | _ => botId

/-- Routes an event that is new. -/
def route (s : Session) (botId : String) (e : Event) (key : String) :
    Program Key (Option Routed) :=
  let d := Dispatch.ofEvent e key botId s.settings.prefixes
  (s.table.destinations d).andThen fun destinations =>
    .done (if destinations.isEmpty then none else some ⟨key, e.kind, destinations⟩)

/-- Claims an event, applies it and routes it. -/
def handle (s : Session) (botId : String) (e : Event) : Program Key (Option Routed) :=
  let key := Cache.claimKey e s.source
  (Cache.isNew key).andThen fun new =>
    if new then
      (Cache.handle s.cacheSettings (!s.settings.token.isEmpty) botId e).andThen fun _ =>
        s.route botId e (key.text s.settings.ns)
    else .done none

/-- Handles a line; tells as well which bot receives the events after it. -/
def step (s : Session) (botId line : String) : Program Key (String × Option Routed) :=
  match Event.ofJson? line with
  | none => .done (botId, none)
  | some e =>
    let botId := botAfter botId e
    (s.handle botId e).andThen fun routed => .done (botId, routed)

/-- Handles lines one after the other and collects what is put out. -/
def run (s : Session) (botId : String) : List String → Program Key (List Routed)
  | [] => .done []
  | line :: rest =>
    (s.step botId line).andThen fun (botId, routed) =>
      (s.run botId rest).andThen fun others => .done (routed.toList ++ others)

end Session

end GuildRelay
