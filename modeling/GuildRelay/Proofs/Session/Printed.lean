import GuildRelay.Proofs.Event.Codec
import GuildRelay.Session.Basic
/-!
# Printed lines

Those who act on what a session puts out have its lines and nothing else. `Routed.ofJson?` reads
from a line the key and the kind of an event and the destinations that it was routed to, and
`Routed.ofJson?_json` says that the line of a routed event is read as that very event. As a line has
no break in it (`Routed.newline_not_mem_json`), each event is told by a line of its own.
-/

namespace GuildRelay

instance : LawfulCodec Destination where
  decode_encode m a := by
    unfold instDecodeDestination instEncodeDestination
    simp only
    rw [Document.record?_of_names m ["type", "name", "error_handlers", "alias"] rfl (by decide)]
    simp -implicitDefEqProofs [Fields.required_cons_self, Fields.required_cons_ne]

instance : Writable DestinationKind where
  writable_encode _ := rfl

instance : Writable ErrorHandler where
  writable_encode _ := rfl

instance : Writable Destination where
  writable_encode d := Document.writable_ofFields (by simp [Writable.writable_encode])

namespace Routed

/-- The routed event that a document tells of: a record of its key, its kind and its destinations,
none of which may be left out. -/
def ofDocument? (d : Document) : Option Routed := do
  let f ← d.record? .json ["key", "kind", "destinations"]
  let key ← f.required Dialect.json "key"
  let kind ← f.required Dialect.json "kind"
  let destinations ← f.required Dialect.json "destinations"
  return { key, kind, destinations }

/-- The routed event that a line tells of. -/
def ofJson? (line : String) : Option Routed :=
  (Document.ofJson? line).bind ofDocument?

/-- The fields of a line. -/
def fields (r : Routed) : Fields :=
  [("key", encode r.key), ("kind", encode r.kind), ("destinations", encode r.destinations)]

theorem json_eq (r : Routed) : r.json = (Document.ofFields r.fields).json := rfl

theorem ofDocument?_fields (r : Routed) : ofDocument? (.ofFields r.fields) = some r := by
  rw [ofDocument?, Document.record?_of_names _ ["key", "kind", "destinations"] rfl (by decide)]
  simp -implicitDefEqProofs [fields, Fields.required_cons_self, Fields.required_cons_ne]

/-- The line of a routed event is read as that event. -/
theorem ofJson?_json (r : Routed) : ofJson? r.json = some r := by
  have hkind : (encode r.kind).writable = true := rfl
  have hwritable : (Document.ofFields r.fields).writable = true :=
    Document.writable_ofFields (by simp [fields, hkind, Writable.writable_encode])
  rw [ofJson?, json_eq, Document.ofJson?_json hwritable, Option.bind_some, ofDocument?_fields]

/-- A routed event is told on a single line. -/
theorem newline_not_mem_json (r : Routed) : '\n' ∉ r.json.toList :=
  Document.newline_not_mem_json (.ofFields r.fields)

end Routed

end GuildRelay
