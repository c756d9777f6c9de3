import GuildRelay.Document.Basic
import GuildRelay.Number.Binary64
/-!
# Values of documents

`Decode` reads a value from a document and `Encode` writes one; a type with both has the law
`LawfulCodec.decode_encode`, that every value reads back as itself in every dialect. A record is
read by `Document.record?`, either from a table, in any order, without repeated fields and ignoring
unknown ones, or from a list of its fields in declared order.
-/

namespace GuildRelay

/-- What the source of a document leaves open. -/
structure Dialect where
  /-- What may stand beside a name in a table with one member that is read as that bare name. -/
  isUnit : Document → Bool
  /-- A list read as a record may have items after the last field. -/
  surplus : Bool

namespace Dialect

/-- JSON that is read directly: the only unit is `null`. -/
def json : Dialect where
  isUnit
    | .null => true
    | _ => false
  surplus := false

/-- JSON that is kept aside before it is known what it is read as: an empty table is a unit too. -/
def buffered : Dialect where
  isUnit
    | .null => true
    | .table [] => true
    | _ => false
  surplus := false

/-- TOML has no null, so empty tables and lists are its units. -/
def toml : Dialect where
  isUnit
    | .table [] => true
    | .list [] => true
    | _ => false
  surplus := true

end Dialect

/-- Values that can be read from a document. -/
class Decode (α : Type) where
  decode : Dialect → Document → Option α

export Decode (decode)

/-- Values that can be written as a document. -/
class Encode (α : Type) where
  encode : α → Document

export Encode (encode)

/-- Every value reads back as itself. -/
class LawfulCodec (α : Type) [Decode α] [Encode α] : Prop where
  decode_encode : ∀ (m : Dialect) (a : α), decode m (encode a) = some a

/-! ## Plain values -/

instance : Decode Bool where
  decode _
    | .bool b => some b
    | _ => none

instance : Encode Bool where
  encode := .bool

instance : LawfulCodec Bool where
  decode_encode _ _ := rfl

instance : Decode String where
  decode _
    | .text s => s
    | _ => none

instance : Encode String where
  encode s := .text (some s)

instance : LawfulCodec String where
  decode_encode _ _ := rfl

/-- A natural number below a bound. -/
def Document.natBelow? (bound : Nat) : Document → Option Nat
  | .integer n => if 0 ≤ n && n < bound then some n.toNat else none
  | _ => none

theorem Document.natBelow?_ofNat {bound n : Nat} (h : n < bound) :
    Document.natBelow? bound (.integer n) = some n := by
  have : (n : Int) < bound := by omega
  simp [natBelow?, this]

instance : Decode UInt8 where
  decode _ d := (d.natBelow? UInt8.size).map UInt8.ofNat

instance : Encode UInt8 where
  encode n := .integer n.toNat

instance : LawfulCodec UInt8 where
  decode_encode _ n := by
    simp [decode, encode, Document.natBelow?_ofNat n.toNat_lt_size]

instance : Decode UInt32 where
  decode _ d := (d.natBelow? UInt32.size).map UInt32.ofNat

instance : Encode UInt32 where
  encode n := .integer n.toNat

instance : LawfulCodec UInt32 where
  decode_encode _ n := by
    simp [decode, encode, Document.natBelow?_ofNat n.toNat_lt_size]

instance : Decode UInt64 where
  decode _ d := (d.natBelow? UInt64.size).map UInt64.ofNat

instance : Encode UInt64 where
  encode n := .integer n.toNat

instance : LawfulCodec UInt64 where
  decode_encode _ n := by
    simp [decode, encode, Document.natBelow?_ofNat n.toNat_lt_size]

instance : Decode Int32 where
  decode _
    | .integer n => if -2147483648 ≤ n && n < 2147483648 then some (Int32.ofInt n) else none
    | _ => none

instance : Encode Int32 where
  encode n := .integer n.toInt

instance : LawfulCodec Int32 where
  decode_encode _ n := by
    have h₁ := n.le_toInt
    have h₂ := n.toInt_lt
    have h : (decide (-2147483648 ≤ n.toInt) && decide (n.toInt < 2147483648)) = true := by
      simpa using And.intro h₁ h₂
    show (if _ then some (Int32.ofInt n.toInt) else none) = some n
    rw [if_pos h, Int32.ofInt_toInt]

instance : Decode Binary64 where
  decode _
    | .integer n => some (.ofInt n)
    | .real r => some (.ofReal r)
    | _ => none

/-! ## Optional values and lists -/

instance {α : Type} [Decode α] : Decode (Option α) where
  decode m
    | .null => some none
    | d => (decode m d).map some

instance {α : Type} [Encode α] : Encode (Option α) where
  encode
    | none => .null
    | some a => encode a

/-- Reads every item of a list. -/
def decodeAll {α : Type} [Decode α] (m : Dialect) : List Document → Option (List α)
  | [] => some []
  | d :: rest =>
    match decode m d, decodeAll m rest with
    | some a, some as => some (a :: as)
    | _, _ => none

instance {α : Type} [Decode α] : Decode (List α) where
  decode m
    | .list items => decodeAll m items
    | _ => none

instance {α : Type} [Encode α] : Encode (List α) where
  encode as := .list (as.map encode)

theorem decodeAll_map_encode {α : Type} [Decode α] [Encode α] [LawfulCodec α] (m : Dialect)
    (as : List α) : decodeAll m (as.map encode) = some as := by
  induction as with
  | nil => rfl
  | cons a as ih => simp [decodeAll, LawfulCodec.decode_encode, ih]

instance {α : Type} [Decode α] [Encode α] [LawfulCodec α] : LawfulCodec (List α) where
  decode_encode m as := decodeAll_map_encode m as

/-- A value that is never written as `null`. -/
class NeverNull (α : Type) [Encode α] : Prop where
  encode_ne_null : ∀ a : α, encode a ≠ Document.null

instance {α : Type} [Decode α] [Encode α] [LawfulCodec α] [NeverNull α] :
    LawfulCodec (Option α) where
  decode_encode m
    | none => rfl
    | some a => by
      have hne := NeverNull.encode_ne_null a
      show (match encode a with
        | .null => some none
        | d => (decode m d).map some) = some (some a)
      split
      · contradiction
      · simp [LawfulCodec.decode_encode]

instance : NeverNull String where
  encode_ne_null _ := by simp [encode]

instance {α : Type} [Encode α] : NeverNull (List α) where
  encode_ne_null _ := by simp [encode]

/-! ## Names and records -/

/-- The name of a variant without content: a text, or a table with that name beside a unit. -/
def Document.name? (m : Dialect) : Document → Option String
  | .text s => s
  | .table [(key, d)] => if m.isUnit d then key else none
  | _ => none

/-- The fields found for a record, by name. -/
abbrev Fields := List (String × Document)

/-- The members of a table by name, if every name can be read. -/
def namedMembers : List (Option String × Document) → Option Fields
  | [] => some []
  | (some key, d) :: rest => (namedMembers rest).map ((key, d) :: ·)
  | (none, _) :: _ => none

/-- The fields of a record. `names` are the names in declared order and `canonical` sends another
spelling of a field to its name. -/
def Document.recordAs? (canonical : String → String) (m : Dialect) (names : List String) :
    Document → Option Fields
  | .table members =>
    match namedMembers members with
    | none => none
    | some fields =>
      let known := (fields.map fun f => (canonical f.1, f.2)).filter fun f => names.contains f.1
      if (known.map (·.1)).Nodup then some known else none
  | .list items =>
    if items.length ≤ names.length || m.surplus then some (names.zip items) else none
  | _ => none

/-- The fields of a record whose fields have one spelling each. -/
def Document.record? (m : Dialect) (names : List String) (d : Document) : Option Fields :=
  d.recordAs? id m names

/-- A field that must be there. -/
def Fields.required {α : Type} [Decode α] (m : Dialect) (fields : Fields) (name : String) :
    Option α :=
  match fields.lookup name with
  | some d => decode m d
  | none => none

/-- A field that has a default. -/
def Fields.field {α : Type} [Decode α] (m : Dialect) (fields : Fields) (name : String)
    (default : α) : Option α :=
  match fields.lookup name with
  | some d => decode m d
  | none => some default

/-- The document of a record. -/
def Document.ofFields (fields : Fields) : Document :=
  .table (fields.map fun f => (some f.1, f.2))

theorem namedMembers_map (fields : Fields) :
    namedMembers (fields.map fun f => (some f.1, f.2)) = some fields := by
  induction fields with
  | nil => rfl
  | cons f rest ih => simp [namedMembers, ih]

/-- A record written with the names of its fields, each once, is read back field by field. -/
theorem Document.record?_ofFields (m : Dialect) {names : List String} {fields : Fields}
    (hsub : fields.all fun f => names.contains f.1) (hnodup : (fields.map (·.1)).Nodup) :
    (Document.ofFields fields).record? m names = some fields := by
  have hfilter : fields.filter (fun f => names.contains f.1) = fields :=
    List.filter_eq_self.2 (List.all_eq_true.1 hsub)
  have hmap : (fields.map fun f => (id f.1, f.2)) = fields := by simp
  simp only [record?, recordAs?, ofFields, namedMembers_map, hmap, hfilter, if_pos hnodup]

/-! ## Buffering -/

/-- A double can hold the number. -/
def Real.representable : Real → Bool
  | .finite d => (Binary64.ofDecimal d).isFinite
  | _ => false

namespace Document

mutual

/-- Every text, name and number of the document can be read. -/
def readable : Document → Bool
  | .text s => s.isSome
  | .real r => r.representable
  | .list items => itemsReadable items
  | .table members => membersReadable members
  | _ => true

/-- Every item can be read. -/
def itemsReadable : List Document → Bool
  | [] => true
  | d :: rest => d.readable && itemsReadable rest

/-- Every member can be read. -/
def membersReadable : List (Option String × Document) → Bool
  | [] => true
  | (key, d) :: rest => key.isSome && d.readable && membersReadable rest

end

/-- How deep a document may be nested where it is kept aside. -/
def nestingLimit : Nat := 127

/-- A document found `level` levels below the top can be kept aside to be read later: everything in
it is readable and it is not nested too deep. -/
def bufferable (level : Nat) (d : Document) : Bool :=
  d.readable && level + d.depth ≤ nestingLimit

end Document

end GuildRelay
