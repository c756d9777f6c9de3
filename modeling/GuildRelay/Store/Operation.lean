/-!
# Operations of a store

A store keeps texts under keys. Under one key there may be a value, which may expire, a set and a
list, apart from each other. An `Operation` is asked of one key, and `Operation.Reply` is the type
of its answer.
-/

namespace GuildRelay

/-- What can be asked of one key of a store. -/
inductive Operation where
  /-- Writes the value, to expire after some milliseconds if at all. -/
  | set (value : String) (ttl : Option Nat)
  /-- Reads the value. -/
  | get
  /-- Drops everything under the key. -/
  | delete
  /-- Adds members to the set. -/
  | addToSet (members : List String)
  /-- Takes a member from the set. -/
  | removeFromSet (member : String)
  /-- Reads the set, in order. -/
  | setMembers
  /-- Asks whether the set has a member. -/
  | isSetMember (member : String)
  /-- Puts items in front of the list, one after the other. -/
  | pushList (items : List String)
  /-- Keeps only the items of a range. -/
  | trimList (start stop : Int)
  /-- Reads the items of a range. -/
  | rangeList (start stop : Int)
  /-- Writes the value unless there is one; tells whether it did. -/
  | setIfAbsent (value : String) (ttl : Nat)
deriving DecidableEq, Repr

namespace Operation

/-- The type of the answer to an operation. -/
abbrev Reply : Operation → Type
  | set _ _ => Unit
  | get => Option String
  | delete => Unit
  | addToSet _ => Unit
  | removeFromSet _ => Unit
  | setMembers => List String
  | isSetMember _ => Bool
  | pushList _ => Unit
  | trimList _ _ => Unit
  | rangeList _ _ => List String
  | setIfAbsent _ _ => Bool

/-- The name of an operation. -/
def name : Operation → String
  | set _ _ => "set"
  | get => "get"
  | delete => "delete"
  | addToSet _ => "add_to_set"
  | removeFromSet _ => "remove_from_set"
  | setMembers => "set_members"
  | isSetMember _ => "is_set_member"
  | pushList _ => "push_list"
  | trimList _ _ => "trim_list"
  | rangeList _ _ => "range_list"
  | setIfAbsent _ _ => "set_if_absent"

end Operation

end GuildRelay
