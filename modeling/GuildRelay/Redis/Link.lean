import GuildRelay.Redis.Command
import GuildRelay.Store.Basic
import GuildRelay.Store.Program
/-!
# Links to a Redis server

A `RedisLink` answers the calls of programs by commands to a server. The server keeps a store and
never lets anything expire. What may go wrong on the way is part of the link: the server may be out
of reach, and something else may come back than the reply to a command.
-/

namespace GuildRelay

/-- What comes back for a command. -/
inductive RedisReply where
  | value (v : RedisValue)
  /-- Bytes that are no value, after which the connection is given up. -/
  | garbled
  /-- The connection was closed. -/
  | closed

/-- A server with the way to it. -/
structure RedisLink where
  isReachable : Bool := true
  store : Store := {}
  /-- What comes back for a command that is not carried out, by the commands before, the latest
  first. -/
  interference : List RedisCommand → RedisCommand → Option RedisReply := fun _ _ => none
  /-- The commands that the server received, the latest first. -/
  commands : List RedisCommand := []

namespace RedisLink

/-- The answer of a server that lets nothing expire, and its store after it. -/
def execute (store : Store) (key : String) : (op : Operation) → op.Reply × Store
  | .set value _ => store.answer 0 key (.set value none)
  | .setIfAbsent value _ => store.answer 0 key (.setIfAbsent value 1)
  | op => store.answer 0 key op

/-- The outcome of an operation for which something has come back. -/
def outcome (op : Operation) : RedisReply → Except CacheError op.Reply
  | .value v => op.ofValue v
  | .garbled => .error (.unavailable "parse error")
  | .closed => .error (.unavailable "broken pipe")

/-- Answers a call. -/
def call (link : RedisLink) (key : String) (op : Operation) :
    Except CacheError op.Reply × RedisLink :=
  match op.request key with
  | .inl answer => (.ok answer, link)
  | .inr command =>
    if !link.isReachable then (.error (.unavailable "connection refused"), link)
    else
      let after := { link with commands := command :: link.commands }
      match link.interference link.commands command with
      | some reply => (outcome op reply, after)
      | none =>
        let (answer, store) := execute link.store key op
        (op.ofValue (op.toValue answer), { after with store })

/-- A link as whoever answers calls. No ban list can be fetched over it. -/
def backend : Backend RedisLink :=
  ⟨call, fun link _ => (.error (.banSource "error sending request"), link)⟩

/-- The link whose server refuses some commands of a name, after others that pass. -/
def refusing (link : RedisLink) (name : String) (after times : Nat) (reason : String) :
    RedisLink :=
  let interference := fun (before : List RedisCommand) (command : RedisCommand) =>
    let count := before.countP fun c => c.head? = some name
    if command.head? = some name ∧ after ≤ count ∧ count < after + times then
      some (.value (.error reason))
    else none
  { link with interference }

end RedisLink

end GuildRelay
