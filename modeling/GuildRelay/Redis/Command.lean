import GuildRelay.Redis.Value
import GuildRelay.Store.Error
import GuildRelay.Store.Operation
/-!
# Redis commands

How the operations of a store are asked of a Redis server: `Operation.request` gives the command,
`Operation.ofValue` the answer that a reply stands for, and `Operation.toValue` the reply that
stands for an answer. `ofValue_toValue` says that answers survive the way through replies.
-/

namespace GuildRelay

/-- The words of a command. -/
abbrev RedisCommand := List String

namespace Operation

/-- How an expiry is written: in milliseconds, at least one, as a number of 64 bits. -/
def expiryArgument (ttl : Nat) : String :=
  toString (UInt64.ofNat (max ttl 1))

/-- The command for an operation on a key. Where there is nothing to add nothing is asked. -/
def request (key : String) : (op : Operation) → op.Reply ⊕ RedisCommand
  | set value none => .inr ["SET", key, value]
  | set value (some ttl) => .inr ["SET", key, value, "PX", expiryArgument ttl]
  | get => .inr ["GET", key]
  | delete => .inr ["DEL", key]
  | addToSet [] => .inl ()
  | addToSet members => .inr ("SADD" :: key :: members)
  | removeFromSet member => .inr ["SREM", key, member]
  | setMembers => .inr ["SMEMBERS", key]
  | isSetMember member => .inr ["SISMEMBER", key, member]
  | pushList [] => .inl ()
  | pushList items => .inr ("LPUSH" :: key :: items)
  | trimList start stop => .inr ["LTRIM", key, toString start, toString stop]
  | rangeList start stop => .inr ["LRANGE", key, toString start, toString stop]
  | setIfAbsent value ttl => .inr ["SET", key, value, "NX", "PX", expiryArgument ttl]

/-- The answer that a value stands for. -/
def answerOf? : (op : Operation) → RedisValue → Option op.Reply
  | get, v => do
    match ← v.asOption? RedisValue.asBytes? with
    | some bytes => (RedisValue.utf8? bytes).map some
    | none => some none
  | setMembers, v => v.asTexts?
  | isSetMember _, v => v.asFlag?
  | rangeList _ _, v => v.asTexts?
  | setIfAbsent _ _, v => (v.asOption? RedisValue.asText?).map Option.isSome
  | set _ _, _ | delete, _ | addToSet _, _ | removeFromSet _, _ | pushList _, _
  | trimList _ _, _ => some ()

/-- The outcome that a reply stands for. -/
def ofValue (op : Operation) (v : RedisValue) : Except CacheError op.Reply :=
  match v.refusal? with
  | some reason => .error (.refused reason)
  | none =>
    match op.answerOf? v with
    | some answer => .ok answer
    | none => .error (.refused "response type not convertible")

/-- The reply that stands for an answer. -/
def toValue : (op : Operation) → op.Reply → RedisValue
  | get, some s => .ofText s
  | get, none => .nil
  | setMembers, texts => .ofTexts texts
  | isSetMember _, b => .integer (if b then 1 else 0)
  | rangeList _ _, texts => .ofTexts texts
  | setIfAbsent _ _, b => if b then .okay else .nil
  | set _ _, _ | delete, _ | addToSet _, _ | removeFromSet _, _ | pushList _, _
  | trimList _ _, _ => .okay

/-- An answer is what its reply stands for. -/
theorem ofValue_toValue (op : Operation) (r : op.Reply) : op.ofValue (op.toValue r) = .ok r := by
  cases op with
  | get =>
    cases r with
    | none => rfl
    | some s =>
      have h := RedisValue.utf8?_toUTF8 s
      simp only [ofValue, toValue, answerOf?, RedisValue.ofText, RedisValue.refusal?,
        RedisValue.asOption?, RedisValue.asBytes?, Option.map_some, Option.bind_eq_bind,
        Option.bind_some, h]
  | setMembers =>
    simp only [ofValue, toValue, answerOf?, RedisValue.refusal?_ofTexts,
      RedisValue.asTexts?_ofTexts]
  | rangeList =>
    simp only [ofValue, toValue, answerOf?, RedisValue.refusal?_ofTexts,
      RedisValue.asTexts?_ofTexts]
  | isSetMember => cases r <;> rfl
  | setIfAbsent => cases r <;> rfl
  | set | delete | addToSet | removeFromSet | pushList | trimList => rfl

end Operation

end GuildRelay
