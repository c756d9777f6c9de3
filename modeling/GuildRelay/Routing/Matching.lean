import GuildRelay.Cache.Lookup
import GuildRelay.Event.Dispatch
import GuildRelay.Routing.Table
import GuildRelay.Text.LowerCase
/-!
# Matching events with rules

`RoutingTable.matching` finds the destinations of an event: those of the rules that fit it, up to
the first that does not ask to go on. `RoutingTable.destinations` takes a dispatch and asks the
cache whether its message stands in a private channel.
-/

namespace GuildRelay

/-- What rules look at in a message. -/
structure MessageContext where
  author : User
  content : String
  /-- The prefix that the content starts with, blank if there is none. -/
  lead : String
  arguments : List String
  isDirect : Bool

/-- What rules look at in an event. -/
structure MatchInput where
  kind : EventKind
  botId : String
  message : Option MessageContext

namespace RoutingRule

/-- The rule lets messages of this author and of this kind of channel through. -/
def admits (r : RoutingRule) (botId : String) (m : MessageContext) : Bool :=
  (r.allowBots || !m.author.bot) && (r.allowMyself || m.author.id != botId) &&
    (r.allowDirect || !m.isDirect)

/-- The first argument is the beginning that the rule asks for. -/
def beginsWith (r : RoutingRule) (m : MessageContext) : Bool :=
  r.beginning.isEmpty ||
    match m.arguments with
    | first :: _ =>
      if r.caseSensitive then first == r.beginning
      else Text.lowerCase first == Text.lowerCase r.beginning
    | [] => false

/-- The part of the message that a pattern is for: without its prefix and without blanks around, or
all of it. -/
def subject (r : RoutingRule) (m : MessageContext) : String :=
  if r.withoutPrefix then m.content
  else Text.trimText (String.ofList
    ((Text.dropLead? m.lead.toList m.content.toList).getD m.content.toList))

/-- The message is as the rule's requirement asks. -/
def meets (r : RoutingRule) (m : MessageContext) : Bool :=
  (r.withoutPrefix || !m.lead.isEmpty) && r.beginsWith m &&
    r.regex.all fun regex => regex.isMatch (r.subject m)

/-- The rule fits an event of its kind. -/
def fits (r : RoutingRule) (i : MatchInput) : Bool :=
  if !i.kind.isMessage then true
  else
    match i.message with
    | none => !r.hasRequirement
    | some m => r.admits i.botId m && (!r.hasRequirement || r.meets m)

end RoutingRule

namespace RoutingTable

/-- The destinations of the rules that fit, up to the first rule that ends the search. -/
def firstFits (i : MatchInput) : List RoutingRule → List Destination
  | [] => []
  | r :: rest =>
    if r.kind = i.kind && r.fits i then
      r.destination :: if r.always then firstFits i rest else []
    else firstFits i rest

/-- The destinations of an event. -/
def matching (t : RoutingTable) (i : MatchInput) : List Destination :=
  firstFits i t.rules

/-- A message stands in a private channel. Where the channel cannot be read, a message without a
guild does. -/
def isDirect (m : Message) : Program Key Bool :=
  (Cache.channel m.channelId).run.andThen fun
    | .ok c => .done c.isPrivate
    | .error _ => .done m.guildId.isEmpty

/-- The destinations of a dispatch. -/
def destinations (t : RoutingTable) (d : Dispatch) : Program Key (List Destination) :=
  match d.event.message? with
  | none => .done (t.matching ⟨d.kind, d.botId, none⟩)
  | some m => (isDirect m).andThen fun isDirect =>
    .done (t.matching ⟨d.kind, d.botId, some ⟨m.author, m.content, d.lead, d.arguments, isDirect⟩⟩)

end RoutingTable

end GuildRelay
