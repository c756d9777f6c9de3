import GuildRelay.Number.Decimal
/-!
# Documents

The common shape of JSON and TOML texts. A `Document` keeps what a reader of records may ask for:
integers apart from other numbers, the members of a table in written order with their repetitions,
and texts whose escapes name no character as `none`, since such a text is only an error for those
who read it.
-/

namespace GuildRelay

/-- A parsed JSON or TOML text. -/
inductive Document where
  | null
  | bool (b : Bool)
  | integer (n : Int)
  | real (r : Real)
  | text (s : Option String)
  | list (items : List Document)
  | table (members : List (Option String × Document))
deriving Repr

namespace Document

/-- A table with readable names. -/
def ofMembers (members : List (String × Document)) : Document :=
  .table (members.map fun m => (some m.1, m.2))

/-- A readable text. -/
def ofText (s : String) : Document :=
  .text (some s)

/-- The integers that a document may hold: all of 64 bits, signed and unsigned. -/
def holdsInteger (n : Int) : Bool :=
  -9223372036854775808 ≤ n && n < 18446744073709551616

mutual

/-- How deep lists and tables are nested in a document. -/
def depth : Document → Nat
  | .list items => itemsDepth items + 1
  | .table members => membersDepth members + 1
  | _ => 0

/-- How deep the deepest item is nested. -/
def itemsDepth : List Document → Nat
  | [] => 0
  | d :: rest => max d.depth (itemsDepth rest)

/-- How deep the deepest member is nested. -/
def membersDepth : List (Option String × Document) → Nat
  | [] => 0
  | (_, d) :: rest => max d.depth (membersDepth rest)

end

end Document

end GuildRelay
