import GuildRelay.Command.Prefixes
import GuildRelay.Event.Basic
/-!
# Dispatches

A `Dispatch` is an event with what its receivers are told beside it. The prefix and the arguments
come from the message of the event; `Dispatch.ofEvent_lead` and `Dispatch.ofEvent_arguments` say
that other events have none.
-/

namespace GuildRelay

/-- An event on its way to its destinations. -/
structure Dispatch where
  event : Event
  /-- Stands for the event where it is processed only once. -/
  key : String
  botId : String
  /-- The prefix at the start of the message, blank if there is none. -/
  lead : String
  arguments : List String
deriving DecidableEq

namespace Dispatch

/-- The dispatch of an event to a bot. -/
def ofEvent (event : Event) (key botId : String) (prefixes : Command.Prefixes) : Dispatch :=
  match event.message? with
  | some m =>
    let (arguments, lead) := Command.splitMessage m.content (prefixes.candidates botId m.guildId)
    { event, key, botId, lead, arguments }
  | none => { event, key, botId, lead := "", arguments := [] }

/-- The kind of the event. -/
def kind (d : Dispatch) : EventKind := d.event.kind

theorem ofEvent_event (event : Event) (key botId : String) (prefixes : Command.Prefixes) :
    (ofEvent event key botId prefixes).event = event := by
  unfold ofEvent
  split <;> rfl

theorem ofEvent_lead {event : Event} (h : event.message? = none) (key botId : String)
    (prefixes : Command.Prefixes) : (ofEvent event key botId prefixes).lead = "" := by
  simp [ofEvent, h]

theorem ofEvent_arguments {event : Event} (h : event.message? = none) (key botId : String)
    (prefixes : Command.Prefixes) : (ofEvent event key botId prefixes).arguments = [] := by
  simp [ofEvent, h]

end Dispatch

end GuildRelay
