import GuildRelay.Store.Error
/-!
# Failures

A `Failure` is an error with what was going on around it, from the outermost context inwards. An
error of the cache counts as expected under any number of contexts.
-/

namespace GuildRelay

/-- An error within the contexts that it passed. -/
inductive Failure where
  /-- An error that is only a text. -/
  | plain (message : String)
  /-- An error of the shared cache. -/
  | cache (error : CacheError)
  /-- What failed because of another failure. -/
  | within (context : String) (cause : Failure)
deriving DecidableEq, Repr

namespace Failure

/-- The failure with contexts around it, the innermost given first. -/
def inContexts (f : Failure) (contexts : List String) : Failure :=
  contexts.foldl (fun cause context => within context cause) f

/-- The outermost text. -/
def message : Failure → String
  | plain message => message
  | cache error => error.message
  | within context _ => context

/-- The texts from the outermost to the innermost. -/
def chain : Failure → List String
  | plain message => [message]
  | cache error => error.message :: error.causes
  | within context cause => context :: cause.chain

/-- All texts in one line. -/
def explanation (f : Failure) : String :=
  ": ".intercalate f.chain

/-- The error of the cache that a failure goes back to. -/
def cacheError? : Failure → Option CacheError
  | plain _ => none
  | cache error => some error
  | within _ cause => cause.cacheError?

/-- Misses and mismatches in the cache, which nobody has to be told about. -/
def isExpected (f : Failure) : Bool :=
  f.cacheError?.any CacheError.isExpected

theorem cacheError?_inContexts (f : Failure) (contexts : List String) :
    (f.inContexts contexts).cacheError? = f.cacheError? := by
  induction contexts generalizing f with
  | nil => rfl
  | cons context rest ih => exact ih (within context f)

end Failure

end GuildRelay
