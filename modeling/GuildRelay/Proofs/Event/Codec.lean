import GuildRelay.Event.Codec
import GuildRelay.Proofs.Guild.Codec
/-!
# Events read back

`Event.ofJson?_toJson`: the text of an event is read as that very event, so no two events have one
text (`Event.toJson_inj`). `Event.records_and_events_read_back` says it of all that is cached or
sent.

Most payloads are records or tables of records, read back by the laws of their types. A presence is
kept aside before it is read: its fields have to be readable and must not be nested too deep.
-/

namespace GuildRelay

/-! ## Records of payloads -/

instance : LawfulCodec Ready where
  decode_encode m a := by
    unfold instDecodeReady instEncodeReady
    simp only
    rw [Document.record?_of_names m ["user", "session_id", "guilds", "private_channels"] rfl
      (by decide)]
    simp -implicitDefEqProofs [Fields.field_cons_self, Fields.field_cons_ne]

instance : LawfulCodec ChannelPins where
  decode_encode m a := by
    unfold instDecodeChannelPins instEncodeChannelPins
    simp only
    rw [Document.record?_of_names m ["channel_id", "guild_id", "last_pin_timestamp"] rfl
      (by decide)]
    simp -implicitDefEqProofs [Fields.field_cons_self, Fields.field_cons_ne]

instance : LawfulCodec MessageRef where
  decode_encode m a := by
    unfold instDecodeMessageRef instEncodeMessageRef
    simp only
    rw [Document.record?_of_names m ["id", "channel_id", "guild_id"] rfl (by decide)]
    simp -implicitDefEqProofs [Fields.field_cons_self, Fields.field_cons_ne]

instance : LawfulCodec Reaction where
  decode_encode m a := by
    unfold instDecodeReaction instEncodeReaction
    simp only
    rw [Document.record?_of_names m ["user_id", "message_id", "channel_id", "guild_id", "emoji"] rfl
      (by decide)]
    simp -implicitDefEqProofs [Fields.field_cons_self, Fields.field_cons_ne]

instance : Writable Ready where
  writable_encode r := Document.writable_ofFields (by simp [Writable.writable_encode])

instance : Writable ChannelPins where
  writable_encode p := Document.writable_ofFields (by simp [Writable.writable_encode])

instance : Writable MessageRef where
  writable_encode a := Document.writable_ofFields (by simp [Writable.writable_encode])

instance : Writable Reaction where
  writable_encode r := Document.writable_ofFields (by simp [Writable.writable_encode])

/-! ## Presences that are kept aside -/

namespace Document

mutual

/-- What can be written and read back has no text and no number that cannot be read. -/
theorem readable_of_writable : ∀ {d : Document}, d.writable = true → d.readable = true
  | .null, _ => rfl
  | .bool _, _ => rfl
  | .integer _, _ => rfl
  | .text _, h => h
  | .list _, h => itemsReadable_of_writable h
  | .table _, h => membersReadable_of_writable h

theorem itemsReadable_of_writable : ∀ {items : List Document}, itemsWritable items = true →
    itemsReadable items = true
  | [], _ => rfl
  | _ :: _, h => by
      obtain ⟨hd, hrest⟩ := (Bool.and_eq_true _ _).mp h
      exact (Bool.and_eq_true _ _).mpr ⟨readable_of_writable hd, itemsReadable_of_writable hrest⟩

theorem membersReadable_of_writable : ∀ {members : List (Option String × Document)},
    membersWritable members = true → membersReadable members = true
  | [], _ => rfl
  | (_, _) :: _, h => by
      obtain ⟨hd, hrest⟩ := (Bool.and_eq_true _ _).mp h
      obtain ⟨hkey, hd⟩ := (Bool.and_eq_true _ _).mp hd
      exact (Bool.and_eq_true _ _).mpr ⟨(Bool.and_eq_true _ _).mpr ⟨hkey, readable_of_writable hd⟩,
        membersReadable_of_writable hrest⟩

end

end Document

theorem depth_encode_texts (texts : List String) : (encode texts).depth = 1 := by
  have hflat : Document.itemsDepth (texts.map encode) = 0 := by
    induction texts with
    | nil => rfl
    | cons s texts ih => simpa [Document.itemsDepth, encode, Document.depth] using ih
  show Document.itemsDepth (texts.map encode) + 1 = 1
  rw [hflat]

/-- The fields of a presence can be kept aside. -/
theorem Presence.bufferable_fields (p : Presence) :
    p.fields.all (fun f => f.2.bufferable 2) = true := by
  have hwritable := Document.membersWritable_ofFields.mp (Writable.writable_encode p)
  refine List.all_eq_true.mpr fun f hf => ?_
  have hreadable := Document.readable_of_writable (hwritable f hf)
  have hdepth : f.2.depth ≤ 1 := by
    simp only [fields, List.mem_cons, List.not_mem_nil, or_false] at hf
    rcases hf with rfl | rfl | rfl | rfl | rfl
    · exact Nat.le_refl 1
    · cases p.status with
      | none => exact Nat.zero_le 1
      | some s => exact Nat.zero_le 1
    · exact Nat.zero_le 1
    · exact Nat.le_of_eq (depth_encode_texts p.roles)
    · cases p.game with
      | none => exact Nat.zero_le 1
      | some a =>
          show (Document.ofFields [("name", encode a.name), ("type", encode a.kind),
            ("url", encode a.url)]).depth ≤ 1
          cases a.url <;> exact Nat.le_refl 1
  simp only [Document.bufferable, hreadable, Bool.true_and, decide_eq_true_eq]
  show 2 + f.2.depth ≤ 127
  omega

/-! ## Payloads -/

namespace Event

theorem tableFields?_of_names (m : Dialect) (names : List String) {fields : Fields}
    (h : fields.map (·.1) = names) (hnodup : names.Nodup) :
    tableFields? m names (Document.ofFields fields) = some fields :=
  Document.record?_of_names m names h hnodup

end Event

theorem Fields.required_cons_self {α : Type} [Decode α] [Encode α] [LawfulCodec α] (m : Dialect)
    (name : String) (a : α) (rest : Fields) :
    Fields.required m ((name, encode a) :: rest) name = some a := by
  simp [Fields.required, LawfulCodec.decode_encode]

theorem Fields.required_cons_ne {α : Type} [Decode α] {m : Dialect} {name name' : String}
    {d : Document} {rest : Fields} (h : name ≠ name') :
    Fields.required (α := α) m ((name', d) :: rest) name = Fields.required m rest name := by
  have hne : (name == name') = false := beq_eq_false_iff_ne.mpr h
  simp [Fields.required, List.lookup_cons, hne]

namespace Event

section Readers

variable (m : Dialect) (guildId : String)

theorem readChunk?_fields (members : List Member) :
    readChunk? m (Document.ofFields [("guild_id", encode guildId), ("members", encode members)])
      = some (guildMembersChunk guildId members) := by
  rw [readChunk?, tableFields?_of_names m ["guild_id", "members"] rfl (by decide)]
  simp -implicitDefEqProofs [Fields.required_cons_self, Fields.field_cons_self,
    Fields.field_cons_ne]

theorem readRole?_fields (make : String → Role → Event) (r : Role) :
    readRole? make m (Document.ofFields [("guild_id", encode guildId), ("role", encode r)])
      = some (make guildId r) := by
  rw [readRole?, tableFields?_of_names m ["guild_id", "role"] rfl (by decide)]
  simp -implicitDefEqProofs [Fields.required_cons_self, Fields.required_cons_ne]

theorem readRoleDelete?_fields (roleId : String) :
    readRoleDelete? m
        (Document.ofFields [("guild_id", encode guildId), ("role_id", encode roleId)])
      = some (guildRoleDelete guildId roleId) := by
  rw [readRoleDelete?, tableFields?_of_names m ["guild_id", "role_id"] rfl (by decide)]
  simp -implicitDefEqProofs [Fields.required_cons_self, Fields.required_cons_ne]

theorem readEmojis?_fields (emojis : List Emoji) :
    readEmojis? m (Document.ofFields [("guild_id", encode guildId), ("emojis", encode emojis)])
      = some (guildEmojisUpdate guildId emojis) := by
  rw [readEmojis?, tableFields?_of_names m ["guild_id", "emojis"] rfl (by decide)]
  simp -implicitDefEqProofs [Fields.required_cons_self, Fields.field_cons_self,
    Fields.field_cons_ne]

theorem readBan?_fields (make : String → User → Event) (user : User) :
    readBan? make m (Document.ofFields [("guild_id", encode guildId), ("user", encode user)])
      = some (make guildId user) := by
  rw [readBan?, tableFields?_of_names m ["guild_id", "user"] rfl (by decide)]
  simp -implicitDefEqProofs [Fields.required_cons_self, Fields.required_cons_ne]

theorem readPresence?_fields (p : Presence) :
    readPresence? m (Document.ofFields (("guild_id", encode guildId) :: p.fields))
      = some (presenceUpdate guildId p) := by
  have hown : (("guild_id", encode guildId) :: p.fields).filter (fun f => f.1 == "guild_id")
      = [("guild_id", encode guildId)] := rfl
  have hrest : (("guild_id", encode guildId) :: p.fields).filter (fun f => f.1 != "guild_id")
      = p.fields := rfl
  have hfields : decode Dialect.buffered (Document.ofFields p.fields) = some p :=
    LawfulCodec.decode_encode Dialect.buffered p
  show readPresence? m (.table ((("guild_id", encode guildId) :: p.fields).map _)) = _
  rw [readPresence?, namedMembers_map, Option.bind_eq_bind, Option.bind_some]
  simp only [hown, hrest, p.bufferable_fields, hfields]
  simp [Fields.field_cons_self]

end Readers

theorem ofPayload?_payload (m : Dialect) (e : Event) : ofPayload? m e.payload e.kind = some e := by
  cases e with
  | guildMembersChunk guildId members => exact readChunk?_fields m guildId members
  | guildRoleCreate guildId r => exact readRole?_fields m guildId guildRoleCreate r
  | guildRoleUpdate guildId r => exact readRole?_fields m guildId guildRoleUpdate r
  | guildRoleDelete guildId roleId => exact readRoleDelete?_fields m guildId roleId
  | guildEmojisUpdate guildId emojis => exact readEmojis?_fields m guildId emojis
  | guildBanAdd guildId user => exact readBan?_fields m guildId guildBanAdd user
  | guildBanRemove guildId user => exact readBan?_fields m guildId guildBanRemove user
  | presenceUpdate guildId p => exact readPresence?_fields m guildId p
  | _ => simp only [ofPayload?, payload, kind, LawfulCodec.decode_encode, Option.map_some]

theorem writable_payload (e : Event) : e.payload.writable = true := by
  cases e with
  | presenceUpdate guildId p =>
      exact Document.writable_ofFields (by simp [Presence.fields, Writable.writable_encode])
  | guildMembersChunk | guildRoleCreate | guildRoleUpdate | guildRoleDelete | guildEmojisUpdate
  | guildBanAdd | guildBanRemove =>
      exact Document.writable_ofFields (by simp [Writable.writable_encode])
  | _ => exact Writable.writable_encode _

/-! ## Events -/

theorem ofDocument?_toDocument (e : Event) : ofDocument? e.toDocument = some e := by
  have hkind : decode Dialect.json (encode e.kind) = some e.kind :=
    LawfulCodec.decode_encode Dialect.json e.kind
  have hfields : ([("t", encode e.kind), ("d", e.payload)] : Fields).filter
      (fun f => f.1 == "t" || f.1 == "d") = [("t", encode e.kind), ("d", e.payload)] := rfl
  unfold toDocument Document.ofFields
  rw [ofDocument?, namedMembers_map, Option.bind_eq_bind, Option.bind_some]
  simp [hfields, hkind, ofPayload?_payload]

/-- The text of an event is read as that event. -/
theorem ofJson?_toJson (e : Event) : ofJson? e.toJson = some e := by
  have hwritable : e.toDocument.writable = true := Document.writable_ofFields (by
    simp [e.writable_payload]
    rfl)
  rw [ofJson?, toJson, Document.ofJson?_json hwritable, Option.bind_some, ofDocument?_toDocument]

theorem toJson_inj {e e' : Event} (h : e.toJson = e'.toJson) : e = e' :=
  Option.some.inj ((ofJson?_toJson e).symm.trans ((congrArg ofJson? h).trans (ofJson?_toJson e')))

/-- Neither records nor events lose anything when they are written and read again. -/
theorem records_and_events_read_back :
    (Cache.ReadsBack User ∧ Cache.ReadsBack Member ∧ Cache.ReadsBack Role ∧ Cache.ReadsBack Emoji
      ∧ Cache.ReadsBack Presence ∧ Cache.ReadsBack VoiceState ∧ Cache.ReadsBack PermissionOverwrite
      ∧ Cache.ReadsBack Message ∧ Cache.ReadsBack Channel ∧ Cache.ReadsBack Guild
      ∧ Cache.ReadsBack Ban)
    ∧ ∀ e : Event, ofJson? e.toJson = some e :=
  ⟨⟨Cache.readText_json, Cache.readText_json, Cache.readText_json, Cache.readText_json,
    Cache.readText_json, Cache.readText_json, Cache.readText_json, Cache.readText_json,
    Cache.readText_json, Cache.readText_json, Cache.readText_json⟩, ofJson?_toJson⟩

end Event

end GuildRelay
