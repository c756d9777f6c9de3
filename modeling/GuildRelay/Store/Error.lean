/-!
# Errors of the shared cache

Why a lookup or an update fails. Some failures are expected in daily use, some may pass when the
same is tried again.
-/

namespace GuildRelay

/-- Why something could not be read from the cache or written to it. -/
inductive CacheError where
  /-- The record is not cached. -/
  | notFound
  /-- The store cannot be reached. -/
  | unavailable (reason : String)
  /-- The record belongs to another guild than the one asked for. -/
  | wrongGuild
  /-- The record is of another kind than the one asked for. -/
  | wrongType
  /-- A cached text is no record. -/
  | malformed (reason : String)
  /-- The store refused a command. -/
  | refused (reason : String)
  /-- The source of ban lists failed. -/
  | banSource (reason : String)
deriving DecidableEq, Repr

namespace CacheError

/-- What is reported for an error. -/
def message : CacheError → String
  | notFound => "shared state cache not found"
  | unavailable reason => "shared state store unavailable: " ++ reason
  | wrongGuild => "entity belongs to a different guild"
  | wrongType => "entity has the wrong type"
  | malformed reason => "serialization error: " ++ reason
  | refused reason => "store error: " ++ reason
  | banSource reason => "upstream error: " ++ reason

/-- The errors behind an error, the nearest first. -/
def causes : CacheError → List String
  | malformed reason => [reason]
  | _ => []

/-- The error for a cached text that is blank. -/
def blankRecord : CacheError :=
  malformed "EOF while parsing a value at line 1 column 0"

/-- Misses and mismatches, which nobody has to be told about. -/
def isExpected : CacheError → Bool
  | notFound | wrongGuild | wrongType => true
  | _ => false

/-- Failures that may pass when the same is tried again. -/
def isTransient : CacheError → Bool
  | unavailable _ | banSource _ => true
  | _ => false

end CacheError

end GuildRelay
