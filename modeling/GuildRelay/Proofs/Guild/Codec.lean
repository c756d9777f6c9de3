import GuildRelay.Cache.Record
import GuildRelay.Guild.Basic
import GuildRelay.Proofs.Document.Json
import GuildRelay.Proofs.Time.Timestamp
/-!
# Records read back

`Cache.readText_json`: the JSON text that is cached for a record is read as that very record. It
needs two things of a type, and every record has both: its documents decode to the value they were
encoded from (`LawfulCodec`), and they can be written as JSON at all (`Writable`).

A record is a table with each of its fields once, so `Document.record?_of_names` finds the fields
again, and `Fields.field` reads each of them by the law of its own type. An absent list and an empty
one are written differently, which is why the law of `Option` needs `NeverNull`.
-/

namespace GuildRelay

/-! ## Reading records -/

theorem Document.record?_of_names (m : Dialect) (names : List String) {fields : Fields}
    (h : fields.map (·.1) = names) (hnodup : names.Nodup) :
    (Document.ofFields fields).record? m names = some fields := by
  refine Document.record?_ofFields m (List.all_eq_true.mpr fun f hf => ?_) (h ▸ hnodup)
  rw [← h]
  exact List.contains_iff_mem.mpr (List.mem_map_of_mem hf)

theorem Fields.field_cons_self {α : Type} [Decode α] [Encode α] [LawfulCodec α] (m : Dialect)
    (name : String) (a default : α) (rest : Fields) :
    Fields.field m ((name, encode a) :: rest) name default = some a := by
  simp [Fields.field, LawfulCodec.decode_encode]

theorem Fields.field_cons_ne {α : Type} [Decode α] {m : Dialect} {name name' : String}
    {d : Document} {default : α} {rest : Fields} (h : name ≠ name') :
    Fields.field m ((name', d) :: rest) name default = Fields.field m rest name default := by
  have hne : (name == name') = false := beq_eq_false_iff_ne.mpr h
  simp [Fields.field, List.lookup_cons, hne]

-- Below, simp must say which lemma it used at each step: a step that is only claimed to hold by
-- computation makes the kernel look into the readers of the fields, down to the bounds of integers.

instance : LawfulCodec Member where
  decode_encode m a := by
    unfold instDecodeMember instEncodeMember
    simp only
    rw [Document.record?_of_names m Member.fieldNames rfl (by decide)]
    simp -implicitDefEqProofs [Fields.field_cons_self, Fields.field_cons_ne]

instance : LawfulCodec Role where
  decode_encode m a := by
    unfold instDecodeRole instEncodeRole
    simp only
    rw [Document.record?_of_names m Role.fieldNames rfl (by decide)]
    simp -implicitDefEqProofs [Fields.field_cons_self, Fields.field_cons_ne]

instance : LawfulCodec Emoji where
  decode_encode m a := by
    unfold instDecodeEmoji instEncodeEmoji
    simp only
    rw [Document.record?_of_names m Emoji.fieldNames rfl (by decide)]
    simp -implicitDefEqProofs [Fields.field_cons_self, Fields.field_cons_ne]

instance : LawfulCodec Activity where
  decode_encode m a := by
    unfold instDecodeActivity instEncodeActivity
    simp only
    rw [Document.record?_of_names m Activity.fieldNames rfl (by decide)]
    simp -implicitDefEqProofs [Fields.field_cons_self, Fields.field_cons_ne]

instance : LawfulCodec Presence where
  decode_encode m a := by
    unfold instDecodePresence instEncodePresence
    simp only
    rw [Document.record?_of_names m Presence.fieldNames rfl (by decide)]
    simp -implicitDefEqProofs [Presence.fields, Fields.field_cons_self, Fields.field_cons_ne]

instance : LawfulCodec VoiceState where
  decode_encode m a := by
    unfold instDecodeVoiceState instEncodeVoiceState
    simp only
    rw [Document.record?_of_names m VoiceState.fieldNames rfl (by decide)]
    simp -implicitDefEqProofs [Fields.field_cons_self, Fields.field_cons_ne]

instance : LawfulCodec PermissionOverwrite where
  decode_encode m a := by
    unfold instDecodePermissionOverwrite instEncodePermissionOverwrite
    simp only
    rw [Document.record?_of_names m PermissionOverwrite.fieldNames rfl (by decide)]
    simp -implicitDefEqProofs [Fields.field_cons_self, Fields.field_cons_ne]

instance : LawfulCodec Message where
  decode_encode m a := by
    unfold instDecodeMessage instEncodeMessage
    simp only
    rw [Document.record?_of_names m Message.fieldNames rfl (by decide)]
    simp -implicitDefEqProofs [Fields.field_cons_self, Fields.field_cons_ne]

instance : LawfulCodec Channel where
  decode_encode m a := by
    unfold instDecodeChannel instEncodeChannel
    simp only
    rw [Document.record?_of_names m Channel.fieldNames rfl (by decide)]
    simp -implicitDefEqProofs [Fields.field_cons_self, Fields.field_cons_ne]

instance : LawfulCodec Guild where
  decode_encode m a := by
    unfold instDecodeGuild instEncodeGuild
    simp only
    rw [Document.record?_of_names m Guild.fieldNames rfl (by decide)]
    simp -implicitDefEqProofs [Fields.field_cons_self, Fields.field_cons_ne]

instance : LawfulCodec Ban where
  decode_encode m a := by
    unfold instDecodeBan instEncodeBan
    simp only
    rw [Document.record?_of_names m Ban.fieldNames rfl (by decide)]
    simp -implicitDefEqProofs [Fields.field_cons_self, Fields.field_cons_ne]

/-! ## Writing records -/

/-- Values whose documents can be written as JSON and read back. -/
class Writable (α : Type) [Encode α] : Prop where
  writable_encode : ∀ a : α, (encode a).writable = true

theorem Document.writable_ofFields {fields : Fields} (h : ∀ f ∈ fields, f.2.writable = true) :
    (Document.ofFields fields).writable = true :=
  membersWritable_ofFields.mpr h

instance : Writable Bool where
  writable_encode _ := rfl

instance : Writable String where
  writable_encode _ := rfl

instance : Writable Timestamp where
  writable_encode _ := rfl

theorem holdsInteger_ofNat {n : Nat} (h : n < 18446744073709551616) :
    Document.holdsInteger n = true := by
  simp only [Document.holdsInteger, Bool.and_eq_true, decide_eq_true_eq]
  omega

instance : Writable UInt8 where
  writable_encode n := holdsInteger_ofNat (Nat.lt_trans n.toNat_lt (by decide))

instance : Writable UInt32 where
  writable_encode n := holdsInteger_ofNat (Nat.lt_trans n.toNat_lt (by decide))

instance : Writable UInt64 where
  writable_encode n := holdsInteger_ofNat n.toNat_lt

instance : Writable Int32 where
  writable_encode n := by
    have hlow := n.le_toInt
    have hhigh := n.toInt_lt
    show Document.holdsInteger n.toInt = true
    simp only [Document.holdsInteger, Bool.and_eq_true, decide_eq_true_eq]
    omega

instance {α : Type} [Encode α] [Writable α] : Writable (Option α) where
  writable_encode
    | none => rfl
    | some a => Writable.writable_encode a

instance {α : Type} [Encode α] [Writable α] : Writable (List α) where
  writable_encode as := by
    refine Document.itemsWritable_iff.mpr fun d hd => ?_
    obtain ⟨a, -, rfl⟩ := List.mem_map.mp hd
    exact Writable.writable_encode a

instance : Writable ChannelKind where
  writable_encode k := Writable.writable_encode k.code

instance : Writable OverwriteKind where
  writable_encode _ := rfl

instance : Writable Status where
  writable_encode _ := rfl

instance : Writable User where
  writable_encode u := Document.writable_ofFields (by simp [Writable.writable_encode])

instance : Writable Member where
  writable_encode m := Document.writable_ofFields (by simp [Writable.writable_encode])

instance : Writable Role where
  writable_encode r := Document.writable_ofFields (by simp [Writable.writable_encode])

instance : Writable Emoji where
  writable_encode e := Document.writable_ofFields (by simp [Writable.writable_encode])

instance : Writable Activity where
  writable_encode a := Document.writable_ofFields (by simp [Writable.writable_encode])

instance : Writable Presence where
  writable_encode p :=
    Document.writable_ofFields (by simp [Presence.fields, Writable.writable_encode])

instance : Writable VoiceState where
  writable_encode v := Document.writable_ofFields (by simp [Writable.writable_encode])

instance : Writable PermissionOverwrite where
  writable_encode o := Document.writable_ofFields (by simp [Writable.writable_encode])

instance : Writable Message where
  writable_encode m := Document.writable_ofFields (by simp [Writable.writable_encode])

instance : Writable Channel where
  writable_encode c := Document.writable_ofFields (by simp [Writable.writable_encode])

instance : Writable Guild where
  writable_encode g := Document.writable_ofFields (by simp [Writable.writable_encode])

instance : Writable Ban where
  writable_encode b := Document.writable_ofFields (by simp [Writable.writable_encode])

/-! ## Cached texts -/

/-- Whatever is cached of the type is read as what was written. -/
def Cache.ReadsBack (α : Type) [Decode α] [Encode α] : Prop :=
  ∀ a : α, readText (encode a).json = .ok a

/-- A cached record is read as what was written. -/
theorem Cache.readText_json {α : Type} [Decode α] [Encode α] [LawfulCodec α] [Writable α] (a : α) :
    Cache.readText (encode a).json = .ok a := by
  simp [Cache.readText, Document.ofJson?_json (Writable.writable_encode a),
    LawfulCodec.decode_encode]

end GuildRelay
