import GuildRelay.Cache.Key
import GuildRelay.Document.Json.Printer
import GuildRelay.Document.Json.Reader
import GuildRelay.Store.Program
/-!
# Records in the cache

Records are kept as JSON. `CacheAction` is a program of calls on typed keys that may fail; what it
does to a store is told by `Action.runOn` once the keys have their names.
-/

namespace GuildRelay

/-- What can be configured about a cache. -/
structure CacheSettings where
  /-- How many messages are kept for a channel. -/
  maxChannelMessages : Nat := 0
  /-- After how many milliseconds records expire, if at all. -/
  expiry : Option Nat := none
deriving DecidableEq, Repr, Inhabited

/-- Something done to the cache. -/
abbrev CacheAction (α : Type) := Action Key α

namespace Cache

open GuildRelay.Action

/-- The record of a cached text. -/
def readText {α : Type} [Decode α] (text : String) : Except CacheError α :=
  match (Document.ofJson? text).bind (decode Dialect.json) with
  | some a => .ok a
  | none => .error (if text.isEmpty then .blankRecord else .malformed "no such record")

/-- Reads a record. -/
def read {α : Type} [Decode α] (key : Key) : CacheAction α := do
  match ← ask key .get with
  | some text => ExceptT.mk (pure (readText text))
  | none => throw .notFound

/-- Writes a record, to expire as configured. -/
def write {α : Type} [Encode α] (settings : CacheSettings) (key : Key) (a : α) :
    CacheAction Unit :=
  ask key (.set (encode a).json settings.expiry)

/-- Drops what is kept under a key. -/
def drop (key : Key) : CacheAction Unit :=
  ask key .delete

/-- Adds members to an index. -/
def addIds (key : Key) (ids : List String) : CacheAction Unit :=
  ask key (.addToSet ids)

/-- Takes a member from an index. -/
def removeId (key : Key) (id : String) : CacheAction Unit :=
  ask key (.removeFromSet id)

end Cache

end GuildRelay
