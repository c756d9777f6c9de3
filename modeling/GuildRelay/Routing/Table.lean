import GuildRelay.Routing.Entry
/-!
# Routing tables

A `RoutingTable` is a list of rules in the order in which they are tried. `RoutingTable.compile`
orders the entries of a document by priority, those of one priority as they were written, and makes
of each one rule per kind of event and, for messages, per requirement. Which texts are patterns and
what they match is up to a `PatternEngine`; a requirement whose pattern the engine refuses is left
out.
-/

namespace GuildRelay

/-- What reads regular expressions. -/
structure PatternEngine where
  /-- The test that a text writes, `none` if it is no pattern. The test is true of the texts in
  which some part matches. -/
  read? : String → Option (String → Bool)

/-- A pattern that was read, with the text that writes it. -/
structure WrittenPattern where
  text : String
  /-- Some part of a text matches the pattern. -/
  isMatch : String → Bool

/-- When events of one kind go to a destination. -/
structure RoutingRule where
  kind : EventKind
  destination : Destination
  beginning : String := ""
  regex : Option WrittenPattern := none
  withoutPrefix : Bool := false
  caseSensitive : Bool := false
  always : Bool
  allowBots : Bool
  allowMyself : Bool
  allowDirect : Bool

/-- The rule asks for a beginning or a pattern. -/
def RoutingRule.hasRequirement (r : RoutingRule) : Bool :=
  !r.beginning.isEmpty || r.regex.isSome

/-- The rules of a routing document in the order in which they are tried. -/
structure RoutingTable where
  rules : List RoutingRule := []

namespace Requirement

/-- The text of the requirement's pattern; unless it is about case, case is ignored. -/
def patternText (r : Requirement) : String :=
  if r.caseSensitive then r.regex else "(?i)" ++ r.regex

/-- The pattern of the requirement, `none` if it has none. The outer option is empty if the engine
refuses it. -/
def pattern? (r : Requirement) (engine : PatternEngine) : Option (Option WrittenPattern) :=
  if r.regex.isEmpty then some none
  else (engine.read? r.patternText).map fun isMatch => some ⟨r.patternText, isMatch⟩

end Requirement

namespace RouteEntry

/-- The entry leads to rules. -/
def isUsed (e : RouteEntry) : Bool :=
  e.active && !e.kinds.isEmpty && !e.name.isEmpty

/-- The rule of an entry for one kind, without requirements. -/
def bareRule (e : RouteEntry) (kind : EventKind) : RoutingRule where
  kind := kind
  destination := ⟨e.destination, e.name, e.errorHandlers, ""⟩
  always := e.always
  allowBots := e.allowBots
  allowMyself := e.allowMyself
  allowDirect := e.allowDirect

/-- The rule of an entry for one kind and one requirement. -/
def rule? (e : RouteEntry) (engine : PatternEngine) (kind : EventKind) (r : Requirement) :
    Option RoutingRule :=
  (r.pattern? engine).map fun regex =>
    let bare := e.bareRule kind
    { bare with
      beginning := r.beginning
      regex := regex
      withoutPrefix := r.withoutPrefix
      caseSensitive := r.caseSensitive
      destination := { bare.destination with nickname := r.nickname } }

/-- The rules of an entry for one kind. -/
def rulesFor (e : RouteEntry) (engine : PatternEngine) (kind : EventKind) : List RoutingRule :=
  if kind.isMessage && !e.requirements.isEmpty then e.requirements.filterMap (e.rule? engine kind)
  else [e.bareRule kind]

/-- The rules of an entry. -/
def rules (e : RouteEntry) (engine : PatternEngine) : List RoutingRule :=
  if e.isUsed then e.kinds.flatMap (e.rulesFor engine) else []

end RouteEntry

/-- The table of some entries. -/
def RoutingTable.compile (engine : PatternEngine) (entries : List RouteEntry) : RoutingTable :=
  ⟨(entries.mergeSort fun a b => b.priority ≤ a.priority).flatMap fun e => e.rules engine⟩

end GuildRelay
