import GuildRelay.Cache.Key
import GuildRelay.Command.Prefixes
import GuildRelay.Document.Toml.Reader
import GuildRelay.Number.Shortest
/-!
# Settings

The settings of the service: where its store and its routing document are, what it keeps and for how
long, and how often it reports errors. They come from a TOML text, whose sections and fields may be
left out, and from variables that go before it.
-/

namespace GuildRelay

/-- The settings of the service. -/
structure Settings where
  storeUrl : String := "redis://127.0.0.1:6379"
  ns : String := Key.defaultNamespace
  maxChannelMessages : UInt64 := 50
  /-- After how many seconds records expire; with zero they never do. -/
  expireSeconds : UInt64 := 0
  routingPath : String := "routing.json"
  prefixes : Command.Prefixes := {}
  apiBase : String := "https://discord.com/api/v10"
  /-- Ban lists can be fetched only with a token. -/
  token : String := ""
  globalPerSecond : Binary64 := .ofInt 1
  channelPerSecond : Binary64 := .ofDecimal ⟨false, 2, -1⟩

namespace Settings

/-- After how many seconds records expire, if at all. -/
def expiry (s : Settings) : Option Nat :=
  if s.expireSeconds = 0 then none else some s.expireSeconds.toNat

/-! ## Reading -/

/-- The fields of a section, none if it is left out. -/
def sectionFields? (fields : Fields) (section_ : String) (names : List String) : Option Fields :=
  match fields.lookup section_ with
  | some d => d.record? .toml names
  | none => some []

/-- The settings of a document. -/
def ofDocument? (d : Document) : Option Settings := do
  let m := Dialect.toml
  let standard : Settings := {}
  let fields ← d.record? m ["redis", "state", "routing", "prefix", "upstream", "errors"]
  let redis ← sectionFields? fields "redis" ["url", "namespace"]
  let state ← sectionFields? fields "state" ["max_channel_messages", "expire_seconds"]
  let routing ← sectionFields? fields "routing" ["path"]
  let bans ← sectionFields? fields "upstream" ["api_base", "token"]
  let errors ← sectionFields? fields "errors" ["global_per_second", "channel_per_second"]
  return {
    storeUrl := ← redis.field m "url" standard.storeUrl
    ns := ← redis.field m "namespace" standard.ns
    maxChannelMessages := ← state.field m "max_channel_messages" standard.maxChannelMessages
    expireSeconds := ← state.field m "expire_seconds" standard.expireSeconds
    routingPath := ← routing.field m "path" standard.routingPath
    prefixes := ← fields.field m "prefix" standard.prefixes
    apiBase := ← bans.field m "api_base" standard.apiBase
    token := ← bans.field m "token" standard.token
    globalPerSecond := ← errors.field m "global_per_second" standard.globalPerSecond
    channelPerSecond := ← errors.field m "channel_per_second" standard.channelPerSecond }

/-- The settings that a text in TOML gives. -/
def ofToml? (text : String) : Option Settings :=
  (Document.ofToml? text).bind ofDocument?

/-! ## Variables -/

/-- A natural number below a bound, with nothing but digits after an optional plus sign. -/
def countBelow? (bound : Nat) (s : String) : Option Nat :=
  let ds := match s.toList with
    | '+' :: rest => rest
    | cs => cs
  if ds.isEmpty || !ds.all Text.isDigit || bound ≤ Text.natOf ds then none else some (Text.natOf ds)

/-- The names of the variables. -/
def variableNames : List String :=
  ["REDIS_URL", "STATE_NAMESPACE", "ROUTING_PATH", "UPSTREAM_API", "UPSTREAM_TOKEN",
   "MAX_CHANNEL_MESSAGES", "DEFAULT_PREFIX"]

/-- The settings with those that variables give in their place. A count that cannot be read is left
aside. -/
def override (s : Settings) (lookup : String → Option String) : Settings :=
  { s with
    storeUrl := (lookup "REDIS_URL").getD s.storeUrl
    ns := (lookup "STATE_NAMESPACE").getD s.ns
    routingPath := (lookup "ROUTING_PATH").getD s.routingPath
    apiBase := (lookup "UPSTREAM_API").getD s.apiBase
    token := (lookup "UPSTREAM_TOKEN").getD s.token
    maxChannelMessages :=
      match (lookup "MAX_CHANNEL_MESSAGES").bind (countBelow? UInt64.size) with
      | some n => .ofNat n
      | none => s.maxChannelMessages
    prefixes :=
      { s.prefixes with default := (lookup "DEFAULT_PREFIX").getD s.prefixes.default } }

/-! ## Validity -/

/-- Why settings cannot be used. -/
inductive Failure where
  /-- The file cannot be read. -/
  | unreadable
  /-- The text is no settings. -/
  | malformed
  /-- A rate is not a positive number. -/
  | badRate (field : String) (rate : Binary64)

/-- What is reported for a rate. -/
def badRateMessage (field : String) (rate : Binary64) : String :=
  "invalid config value " ++ field ++ ": rate must be a positive number, got " ++ rate.text

/-- A rate that events can be counted against. -/
def isRate (rate : Binary64) : Bool :=
  rate.isFinite && rate.isPositive

/-- The settings if their rates can be used. -/
def validate (s : Settings) : Except Failure Unit :=
  if !isRate s.globalPerSecond then
    .error (.badRate "errors.global_per_second" s.globalPerSecond)
  else if !isRate s.channelPerSecond then
    .error (.badRate "errors.channel_per_second" s.channelPerSecond)
  else .ok ()

/-! ## Loading -/

/-- What is found where a file should be. -/
inductive File where
  | missing
  | unreadable
  | text (s : String)

/-- The settings of a file and of variables. Without a file the standard settings are used. -/
def load (file : File) (lookup : String → Option String) : Except Failure Settings := do
  let s ←
    match file with
    | .missing => pure {}
    | .unreadable => throw .unreadable
    | .text text =>
      match ofToml? text with
      | some s => pure s
      | none => throw .malformed
  let s := s.override lookup
  s.validate
  return s

end Settings

end GuildRelay
