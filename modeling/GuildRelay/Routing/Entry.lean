import GuildRelay.Event.Kind
/-!
# Entries of a routing document

A routing document is a list of entries. Each names the kinds of events that it is about, the
destination that receives them and, for messages, what they have to look like.
-/

namespace GuildRelay

/-- What kind of receiver a destination is. -/
inductive DestinationKind where
  | lambda
  | sqs
  | queue
deriving DecidableEq, Inhabited

namespace DestinationKind

/-- The name of a kind of destination. -/
def name : DestinationKind → String
  | lambda => "lambda"
  | sqs => "sqs"
  | queue => "queue"

/-- The kind of destination with a name. -/
def ofName? (s : String) : Option DestinationKind :=
  [lambda, sqs, queue].find? fun kind => kind.name == s

theorem ofName?_name (k : DestinationKind) : ofName? k.name = some k := by
  cases k <;> decide

end DestinationKind

instance : Decode DestinationKind where
  decode m d := (d.name? m).bind DestinationKind.ofName?

instance : Encode DestinationKind where
  encode k := .ofText k.name

instance : LawfulCodec DestinationKind where
  decode_encode _ k := DestinationKind.ofName?_name k

/-- Who is told of errors in a destination. -/
inductive ErrorHandler where
  /-- The service that collects errors. -/
  | sentry
  /-- The channel of the message that led to the error. -/
  | discord
deriving DecidableEq, Inhabited

namespace ErrorHandler

/-- The name of an error handler. -/
def name : ErrorHandler → String
  | sentry => "sentry"
  | discord => "discord"

/-- The error handler with a name. -/
def ofName? (s : String) : Option ErrorHandler :=
  [sentry, discord].find? fun handler => handler.name == s

theorem ofName?_name (h : ErrorHandler) : ofName? h.name = some h := by
  cases h <;> decide

end ErrorHandler

instance : Decode ErrorHandler where
  decode m d := (d.name? m).bind ErrorHandler.ofName?

instance : Encode ErrorHandler where
  encode h := .ofText h.name

instance : LawfulCodec ErrorHandler where
  decode_encode _ h := ErrorHandler.ofName?_name h

/-- A receiver of events. -/
structure Destination where
  kind : DestinationKind
  name : String
  errorHandlers : List ErrorHandler
  /-- The nickname in the requirement that led here, blank if there is none. -/
  nickname : String
deriving DecidableEq

instance : Decode Destination where
  decode m d := do
    let f ← d.record? m ["type", "name", "error_handlers", "alias"]
    let kind ← f.required m "type"
    let name ← f.required m "name"
    let errorHandlers ← f.required m "error_handlers"
    let nickname ← f.required m "alias"
    return { kind, name, errorHandlers, nickname }

instance : Encode Destination where
  encode d := .ofFields
    [("type", encode d.kind), ("name", encode d.name), ("error_handlers", encode d.errorHandlers),
     ("alias", encode d.nickname)]

/-- What a message has to look like. -/
structure Requirement where
  /-- The first argument, if not blank. -/
  beginning : String := ""
  /-- A pattern for the message, if not blank. -/
  regex : String := ""
  /-- The message needs no prefix, and the pattern is for all of it. -/
  withoutPrefix : Bool := false
  caseSensitive : Bool := false
  nickname : String := ""
deriving DecidableEq, Inhabited

instance : Decode Requirement where
  decode m d := do
    let f ← d.record? m ["beginning", "regex", "do_not_prepend_prefix", "case_sensitive", "alias"]
    let beginning ← f.field m "beginning" ""
    let regex ← f.field m "regex" ""
    let withoutPrefix ← f.field m "do_not_prepend_prefix" false
    let caseSensitive ← f.field m "case_sensitive" false
    let nickname ← f.field m "alias" ""
    return { beginning, regex, withoutPrefix, caseSensitive, nickname }

/-- An entry of a routing document. -/
structure RouteEntry where
  active : Bool := false
  kinds : List EventKind := []
  /-- The name of the destination. -/
  name : String := ""
  destination : DestinationKind := .lambda
  errorHandlers : List ErrorHandler := []
  /-- Only for kinds of events that carry a message. -/
  requirements : List Requirement := []
  /-- Entries after this one are looked at even if it fits. -/
  always : Bool := false
  allowBots : Bool := false
  allowMyself : Bool := false
  /-- Messages in private channels are allowed. -/
  allowDirect : Bool := false
  /-- Entries of a higher priority come first. -/
  priority : Int32 := 0
deriving DecidableEq, Inhabited

namespace RouteEntry

/-- The fields of an entry in declared order. -/
def fieldNames : List String :=
  ["active", "kinds", "module", "destination", "error_handlers", "requirements", "always",
   "allow_bots", "allow_myself", "allow_dm", "priority"]

/-- The name of a field that may be spelled in two ways. -/
def canonicalName : String → String
  | "type" => "kinds"
  | "function" => "module"
  | "allow_dms" => "allow_dm"
  | name => name

end RouteEntry

instance : Decode RouteEntry where
  decode m d := do
    let f ← d.recordAs? RouteEntry.canonicalName m RouteEntry.fieldNames
    let active ← f.field m "active" false
    let kinds ← f.field m "kinds" []
    let name ← f.field m "module" ""
    let destination ← f.field m "destination" DestinationKind.lambda
    let errorHandlers ← f.field m "error_handlers" []
    let requirements ← f.field m "requirements" []
    let always ← f.field m "always" false
    let allowBots ← f.field m "allow_bots" false
    let allowMyself ← f.field m "allow_myself" false
    let allowDirect ← f.field m "allow_dm" false
    let priority ← f.field m "priority" 0
    return { active, kinds, name, destination, errorHandlers, requirements, always, allowBots,
             allowMyself, allowDirect, priority }

end GuildRelay
