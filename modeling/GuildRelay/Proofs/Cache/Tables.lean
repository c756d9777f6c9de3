import GuildRelay.Cache.Lookup
import GuildRelay.Proofs.Cache.View
import GuildRelay.Proofs.Guild.Codec
/-!
# The cache as tables

`Tables` is what the cache means: records by their ids, indices and histories, with all texts read.
`Tables.content` is the view that the cache keeps of them. A `Slot` is the place of one record and
an `Index` the place of one set of ids; both carry the laws that tie the place in the tables to the
key in the view.

`Action.Leads` says where an action leads from given tables, and `Action.Leads.bind` takes it one
action at a time. The rest of the module has one rule for each thing that handlers do to a place:
reading, writing, dropping and indexing. A handler is then followed through tables alone, and
neither texts nor keys appear any more.
-/

namespace GuildRelay

/-- The content under the key of a record. -/
def Host.Content.record {α : Type} [Encode α] (a : Option α) : Host.Content :=
  ⟨a.map fun a => (encode a).json, [], []⟩

/-- The content under the key of an index. -/
def Host.Content.index (ids : List String) : Host.Content :=
  ⟨none, ids, []⟩

/-- What the cache keeps, with all texts read. -/
@[ext]
structure Tables where
  guild : String → Option Guild := fun _ => none
  member : String → String → Option Member := fun _ _ => none
  channel : String → Option Channel := fun _ => none
  user : String → Option User := fun _ => none
  /-- The newest first. -/
  messages : String → List Message := fun _ => []
  guildIds : List String := []
  userIds : List String := []
  channelIds : List String := []
  guildUserIds : String → List String := fun _ => []
  guildBotIds : String → List String := fun _ => []
  guildBannedUserIds : String → List String := fun _ => []
  banInitializedGuildIds : List String := []

namespace Tables

/-- The view that is kept of the tables. -/
def content (t : Tables) : View
  | .guild guildId => .record (t.guild guildId)
  | .member guildId userId => .record (t.member guildId userId)
  | .channel channelId => .record (t.channel channelId)
  | .user userId => .record (t.user userId)
  | .channelMessages channelId => ⟨none, [], (t.messages channelId).map fun m => (encode m).json⟩
  | .allGuildIds => .index t.guildIds
  | .allUserIds => .index t.userIds
  | .allChannelIds => .index t.channelIds
  | .guildUserIds guildId => .index (t.guildUserIds guildId)
  | .guildBotIds guildId => .index (t.guildBotIds guildId)
  | .guildBannedUserIds guildId => .index (t.guildBannedUserIds guildId)
  | .banInitializedGuildIds => .index t.banInitializedGuildIds
  | .claim _ _ _ => ⟨none, [], []⟩

theorem content_empty : ({} : Tables).content = fun _ => ⟨none, [], []⟩ :=
  funext fun k => by cases k <;> rfl

/-- Records with the same text are the same. -/
theorem json_injective {α : Type} [Decode α] [Encode α] [LawfulCodec α] [Writable α] {a b : α}
    (h : (encode a).json = (encode b).json) : a = b := by
  have hread := congrArg (Cache.readText (α := α)) h
  rw [Cache.readText_json, Cache.readText_json] at hread
  exact Except.ok.inj hread

theorem record_injective {α : Type} [Decode α] [Encode α] [LawfulCodec α] [Writable α]
    {a b : Option α} (h : Host.Content.record a = .record b) : a = b :=
  Option.map_injective (fun _ _ => json_injective) (congrArg Host.Content.value h)

/-- All of the tables can be read off the view. -/
theorem content_injective : Function.Injective content := by
  intro t t' h
  have hkey : ∀ k, t.content k = t'.content k := congrFun h
  have hindex : ∀ {ids ids' : List String},
      Host.Content.index ids = Host.Content.index ids' → ids = ids' :=
    congrArg Host.Content.members
  have hitems : ∀ {ms ms' : List Message}, (ms.map fun m => (encode m).json)
      = (ms'.map fun m => (encode m).json) → ms = ms' :=
    (List.map_inj_right fun _ _ => json_injective).mp
  ext1
  case guild => exact funext fun g => record_injective (hkey (.guild g))
  case member => exact funext₂ fun g u => record_injective (hkey (.member g u))
  case channel => exact funext fun c => record_injective (hkey (.channel c))
  case user => exact funext fun u => record_injective (hkey (.user u))
  case messages =>
    exact funext fun c => hitems (congrArg Host.Content.items (hkey (.channelMessages c)))
  case guildIds => exact hindex (hkey .allGuildIds)
  case userIds => exact hindex (hkey .allUserIds)
  case channelIds => exact hindex (hkey .allChannelIds)
  case guildUserIds => exact funext fun g => hindex (hkey (.guildUserIds g))
  case guildBotIds => exact funext fun g => hindex (hkey (.guildBotIds g))
  case guildBannedUserIds => exact funext fun g => hindex (hkey (.guildBannedUserIds g))
  case banInitializedGuildIds => exact hindex (hkey .banInitializedGuildIds)

/-! ## Places -/

/-- The place of a record in the tables and in the view. -/
structure Slot (α : Type) [Encode α] where
  key : Key
  get : Tables → Option α
  put : Option α → Tables → Tables
  not_isBan : key.isBan = false
  content_key : ∀ t : Tables, t.content key = .record (get t)
  content_put : ∀ a t, (put a t).content = Function.update t.content key (.record a)

/-- The place of a set of ids in the tables and in the view. -/
structure Index where
  key : Key
  get : Tables → List String
  put : List String → Tables → Tables
  content_key : ∀ t : Tables, t.content key = .index (get t)
  content_put : ∀ ids t, (put ids t).content = Function.update t.content key (.index ids)

/-- Two views of tables differ in one key only. -/
theorem content_eq_update {t t' : Tables} {k : Key} {x : Host.Content} (hk : t'.content k = x)
    (hother : ∀ k', k' ≠ k → t'.content k' = t.content k') :
    t'.content = Function.update t.content k x := by
  funext k'
  by_cases h : k' = k
  · rw [h, hk, Function.update_self]
  · rw [hother k' h, Function.update_of_ne h]

namespace Slot

def guild (guildId : String) : Slot Guild where
  key := .guild guildId
  get t := t.guild guildId
  put a t := { t with guild := fun id => if id = guildId then a else t.guild id }
  not_isBan := rfl
  content_key _ := rfl
  content_put a t := by
    refine content_eq_update (by simp [content]) fun k hk => ?_
    cases k <;> simp_all [content]

def member (guildId userId : String) : Slot Member where
  key := .member guildId userId
  get t := t.member guildId userId
  put a t := { t with
    member := fun g u => if g = guildId ∧ u = userId then a else t.member g u }
  not_isBan := rfl
  content_key _ := rfl
  content_put a t := by
    refine content_eq_update (by simp [content]) fun k hk => ?_
    cases k with
    | member g u =>
        have hne : ¬(g = guildId ∧ u = userId) := fun h => hk (by rw [h.1, h.2])
        simp only [content, if_neg hne]
    | _ => rfl

def channel (channelId : String) : Slot Channel where
  key := .channel channelId
  get t := t.channel channelId
  put a t := { t with channel := fun id => if id = channelId then a else t.channel id }
  not_isBan := rfl
  content_key _ := rfl
  content_put a t := by
    refine content_eq_update (by simp [content]) fun k hk => ?_
    cases k <;> simp_all [content]

def user (userId : String) : Slot User where
  key := .user userId
  get t := t.user userId
  put a t := { t with user := fun id => if id = userId then a else t.user id }
  not_isBan := rfl
  content_key _ := rfl
  content_put a t := by
    refine content_eq_update (by simp [content]) fun k hk => ?_
    cases k <;> simp_all [content]

end Slot

namespace Index

def guilds : Index where
  key := .allGuildIds
  get t := t.guildIds
  put ids t := { t with guildIds := ids }
  content_key _ := rfl
  content_put ids t := by
    refine content_eq_update rfl fun k hk => ?_
    cases k <;> first | rfl | exact absurd rfl hk

def users : Index where
  key := .allUserIds
  get t := t.userIds
  put ids t := { t with userIds := ids }
  content_key _ := rfl
  content_put ids t := by
    refine content_eq_update rfl fun k hk => ?_
    cases k <;> first | rfl | exact absurd rfl hk

def channels : Index where
  key := .allChannelIds
  get t := t.channelIds
  put ids t := { t with channelIds := ids }
  content_key _ := rfl
  content_put ids t := by
    refine content_eq_update rfl fun k hk => ?_
    cases k <;> first | rfl | exact absurd rfl hk

def guildUsers (guildId : String) : Index where
  key := .guildUserIds guildId
  get t := t.guildUserIds guildId
  put ids t := { t with guildUserIds := fun id => if id = guildId then ids else t.guildUserIds id }
  content_key _ := rfl
  content_put ids t := by
    refine content_eq_update (by simp [content]) fun k hk => ?_
    cases k <;> simp_all [content]

def guildBots (guildId : String) : Index where
  key := .guildBotIds guildId
  get t := t.guildBotIds guildId
  put ids t := { t with guildBotIds := fun id => if id = guildId then ids else t.guildBotIds id }
  content_key _ := rfl
  content_put ids t := by
    refine content_eq_update (by simp [content]) fun k hk => ?_
    cases k <;> simp_all [content]

def guildBanned (guildId : String) : Index where
  key := .guildBannedUserIds guildId
  get t := t.guildBannedUserIds guildId
  put ids t := { t with
    guildBannedUserIds := fun id => if id = guildId then ids else t.guildBannedUserIds id }
  content_key _ := rfl
  content_put ids t := by
    refine content_eq_update (by simp [content]) fun k hk => ?_
    cases k <;> simp_all [content]

def banInitialized : Index where
  key := .banInitializedGuildIds
  get t := t.banInitializedGuildIds
  put ids t := { t with banInitializedGuildIds := ids }
  content_key _ := rfl
  content_put ids t := by
    refine content_eq_update rfl fun k hk => ?_
    cases k <;> first | rfl | exact absurd rfl hk

end Index

end Tables

/-! ## Hosts that show tables -/

/-- The surroundings without ban runs. -/
def Surroundings.quiet (s : Surroundings) : Surroundings :=
  { s with banRuns := false }

/-- The tables with what a host has about bans. -/
def Tables.withBansOf (t : Tables) (ns : String) (h : Host) : Tables :=
  { t with
    guildBannedUserIds := fun guildId => h.members ns (.guildBannedUserIds guildId)
    banInitializedGuildIds := h.members ns .banInitializedGuildIds }

/-- The record that the value under a key reads as. -/
def Host.record {α : Type} [Decode α] (h : Host) (ns : String) (k : Key) : Option α :=
  (h.value ns k).bind fun text => (Cache.readText text).toOption

theorem Surroundings.shares_slot {α : Type} [Encode α] (s : Surroundings) (slot : Tables.Slot α) :
    s.shares slot.key = false := by
  rw [Surroundings.shares, slot.not_isBan, Bool.and_false]

namespace Host.Shows

open Tables

variable {ns : String} {s : Surroundings} {h : Host} {t : Tables}

/-- A live value is the text of a record in the tables. -/
theorem record_of_value {α : Type} [Decode α] [Encode α] [LawfulCodec α] [Writable α]
    (hv : h.Shows ns s t.content) (slot : Slot α) (hk : slot.key.IsPlain) {text : String}
    (hlive : h.value ns slot.key = some text) :
    ∃ a, slot.get t = some a ∧ Cache.readText text = .ok a := by
  have hvalue := hv.value_of_live hk (s.shares_slot slot) hlive
  rw [slot.content_key] at hvalue
  obtain ⟨a, ha, rfl⟩ := Option.map_eq_some_iff.mp hvalue
  exact ⟨a, ha, Cache.readText_json a⟩

/-- Where nothing expires, the records in the tables are live. -/
theorem value_eq {α : Type} [Encode α] (hv : h.Shows ns s t.content) (slot : Slot α)
    (hk : slot.key.IsPlain) (hf : s.fading = false) :
    h.value ns slot.key = (slot.get t).map fun a => (encode a).json := by
  rw [Host.value, hv.content_eq hk (s.shares_slot slot) hf, slot.content_key]
  rfl

theorem isSome_value {α : Type} [Encode α] (hv : h.Shows ns s t.content) (slot : Slot α)
    (hk : slot.key.IsPlain) (hf : s.fading = false) :
    (h.value ns slot.key).isSome ↔ (slot.get t).isSome := by
  rw [hv.value_eq slot hk hf, Option.isSome_map]

theorem value_eq_none_iff {α : Type} [Encode α] (hv : h.Shows ns s t.content) (slot : Slot α)
    (hk : slot.key.IsPlain) (hf : s.fading = false) :
    h.value ns slot.key = none ↔ slot.get t = none := by
  rw [hv.value_eq slot hk hf, Option.map_eq_none_iff]

/-- Where nothing expires, the records that values read as are those in the tables. -/
theorem record_eq {α : Type} [Decode α] [Encode α] [LawfulCodec α] [Writable α]
    (hv : h.Shows ns s t.content) (slot : Slot α) (hk : slot.key.IsPlain) (hf : s.fading = false) :
    h.record ns slot.key = slot.get t := by
  rw [Host.record, hv.value_eq slot hk hf]
  cases slot.get t with
  | none => rfl
  | some a => simp [Cache.readText_json, Except.toOption]

theorem members_index (hv : h.Shows ns s t.content) (ix : Index) (hk : ix.key.IsPlain)
    (hban : s.shares ix.key = false) : h.members ns ix.key = ix.get t := by
  rw [hv.members_eq hk hban, ix.content_key]
  rfl

theorem allGuildIds (hv : h.Shows ns s t.content) : h.members ns .allGuildIds = t.guildIds :=
  hv.members_index Index.guilds trivial (Bool.and_false _)

theorem allUserIds (hv : h.Shows ns s t.content) : h.members ns .allUserIds = t.userIds :=
  hv.members_index Index.users trivial (Bool.and_false _)

theorem allChannelIds (hv : h.Shows ns s t.content) : h.members ns .allChannelIds = t.channelIds :=
  hv.members_index Index.channels trivial (Bool.and_false _)

/-- Only guilds with plain ids have members: no other key has the name of such an index. -/
theorem mem_guildUserIds (hv : h.Shows ns s t.content) {guildId userId : String} :
    userId ∈ h.members ns (.guildUserIds guildId)
      ↔ PlainId guildId ∧ userId ∈ t.guildUserIds guildId := by
  by_cases hg : PlainId guildId
  · have hmembers : h.members ns (.guildUserIds guildId) = t.guildUserIds guildId :=
      hv.members_index (Index.guildUsers guildId) hg (Bool.and_false _)
    rw [hmembers]
    exact ⟨fun hu => ⟨hg, hu⟩, fun hu => hu.2⟩
  · have hempty := hv.other ((Key.guildUserIds guildId).text ns) fun k hk htext =>
      hg (Key.isPlain_of_text_guildUserIds hk htext)
    refine iff_of_false (fun hu => ?_) fun hu => hg hu.1
    rw [Host.members, Host.content, hempty] at hu
    exact List.not_mem_nil hu

/-- Without ban runs a host shows the ban data that it has. -/
theorem withBansOf (hv : h.Shows ns s t.content) :
    h.Shows ns s.quiet (t.withBansOf ns h).content where
  faultless := hv.faultless
  other := hv.other
  plain k hk := by
    have hcell := hv.plain k hk
    refine ⟨hcell.lasting, fun _ => ?_, hcell.onlySet⟩
    cases hban : k.isBan with
    | true =>
        obtain ⟨hvalue, hitems⟩ := hcell.onlySet hban
        rw [hvalue, hitems]
        cases k <;> first | exact ⟨rfl, rfl, rfl⟩ | cases hban
    | false =>
        have hsame := hcell.same (by rw [Surroundings.shares, hban, Bool.and_false])
        cases k <;> first | exact hsame | cases hban

end Host.Shows

/-! ## Following actions through tables -/

/-- The settings let nothing expire unless the surroundings do. -/
def Surroundings.Allows (s : Surroundings) (settings : CacheSettings) : Prop :=
  s.fading = false → settings.expiry = none

/-- The surroundings of a cache with some settings, when ban lists are being filled. -/
def CacheSettings.surroundings (settings : CacheSettings) : Surroundings :=
  ⟨settings.expiry.isSome, true⟩

theorem CacheSettings.surroundings_allows (settings : CacheSettings) :
    settings.surroundings.Allows settings := fun h => by
  simpa [surroundings] using h

theorem CacheSettings.not_fading {settings : CacheSettings} (h : settings.expiry = none) :
    settings.surroundings.fading = false := by
  rw [surroundings, h]
  rfl

/-- What may be found of a record: the record itself, or nothing if it may have expired. -/
def Surroundings.Finds {α : Type} (s : Surroundings) (kept found : Option α) : Prop :=
  found = kept ∨ (s.fading = true ∧ found = none)

namespace Surroundings

variable {α : Type} {s : Surroundings} {kept found : Option α} {a : α}

theorem Finds.eq_some (h : s.Finds kept (some a)) : kept = some a := by
  rcases h with h | ⟨-, h⟩
  · exact h.symm
  · cases h

theorem Finds.eq (h : s.Finds kept found) (hf : s.fading = false) : found = kept := by
  rcases h with h | ⟨htrue, -⟩
  · exact h
  · exact absurd (hf.symm.trans htrue) Bool.noConfusion

end Surroundings

namespace Action

variable {α β : Type} {s : Surroundings} {t : Tables}

/-- From the tables the action leads to a result and tables of which `Q` holds. -/
def Leads (s : Surroundings) (a : Action Key α) (t : Tables)
    (Q : Except CacheError α → Tables → Prop) : Prop :=
  (ExceptT.run a).Ensures s t.content fun r v => ∃ t', v = t'.content ∧ Q r t'

theorem Leads.mono {a : Action Key α} {Q Q' : Except CacheError α → Tables → Prop}
    (ha : a.Leads s t Q) (h : ∀ r t', Q r t' → Q' r t') : a.Leads s t Q' :=
  Program.Ensures.mono (fun _ _ ⟨t', hv, hq⟩ => ⟨t', hv, h _ t' hq⟩) ha

theorem Leads.and {a : Action Key α} {Q Q' : Except CacheError α → Tables → Prop}
    (h : a.Leads s t Q) (h' : a.Leads s t Q') : a.Leads s t fun r t' => Q r t' ∧ Q' r t' := by
  refine Program.Ensures.mono ?_ (Program.Ensures.and h h')
  rintro r _ ⟨⟨t', rfl, hq⟩, t'', hsame, hq'⟩
  obtain rfl := Tables.content_injective hsame
  exact ⟨t', rfl, hq, hq'⟩

theorem Leads.pure {x : α} {Q : Except CacheError α → Tables → Prop} (h : Q (.ok x) t) :
    (Pure.pure x : Action Key α).Leads s t Q :=
  ⟨t, rfl, h⟩

theorem Leads.bind {a : Action Key α} {f : α → Action Key β}
    {Q : Except CacheError β → Tables → Prop}
    (ha : a.Leads s t fun r t' => match r with
      | .ok x => (f x).Leads s t' Q
      | .error e => Q (.error e) t') : (a >>= f).Leads s t Q := by
  unfold Leads
  rw [run_bind]
  refine Program.ensures_andThen.mpr (Program.Ensures.mono ?_ ha)
  rintro (e | x) v ⟨t', rfl, h⟩
  · exact ⟨t', rfl, h⟩
  · exact h

theorem Leads.found {a : Action Key α} {Q : Except CacheError (Option α) → Tables → Prop}
    (ha : a.Leads s t fun r t' => match r with
      | .ok x => Q (.ok (some x)) t'
      | .error .notFound => Q (.ok none) t'
      | .error e => Q (.error e) t') : a.found.Leads s t Q := by
  refine Program.ensures_andThen.mpr (Program.Ensures.mono ?_ ha)
  rintro ((_ | _) | x) v ⟨t', rfl, h⟩ <;> exact ⟨t', rfl, h⟩

/-- Going through a list, with tables that are computed from those before. -/
theorem Leads.forM {f : β → Action Key Unit} {step : Tables → β → Tables}
    {Q : Except CacheError Unit → Tables → Prop} : ∀ {bs : List β} {t : Tables},
      (∀ b ∈ bs, ∀ t' (R : Except CacheError Unit → Tables → Prop),
        R (.ok ()) (step t' b) → (f b).Leads s t' R) →
      Q (.ok ()) (bs.foldl step t) → (bs.forM f).Leads s t Q
  | [], _, _, h => .pure h
  | b :: _, t, hf, h =>
      .bind (hf b List.mem_cons_self t _
        (Leads.forM (fun b' hb' => hf b' (List.mem_cons_of_mem _ hb')) h))

/-- Going through a list while an invariant is kept, until the end or an error. -/
theorem Leads.forM_of_invariant {f : β → Action Key Unit} {I : Tables → Prop}
    {Q : Except CacheError Unit → Tables → Prop} (hend : ∀ t', I t' → Q (.ok ()) t') :
    ∀ {bs : List β} {t : Tables}, I t →
      (∀ b ∈ bs, ∀ t', I t' → (f b).Leads s t' fun r t'' => match r with
        | .ok _ => I t''
        | .error e => Q (.error e) t'') →
      (bs.forM f).Leads s t Q
  | [], t, hI, _ => .pure (hend t hI)
  | b :: _, t, hI, hf => by
      refine .bind ((hf b List.mem_cons_self t hI).mono ?_)
      rintro (e | _) t' h
      · exact h
      · exact Leads.forM_of_invariant hend h fun b' hb' => hf b' (List.mem_cons_of_mem _ hb')

/-- An operation leads to the tables whose view it leaves. -/
theorem Leads.ask {k : Key} {op : Operation} {t' : Tables}
    {Q : Except CacheError op.Reply → Tables → Prop} (hk : k.IsPlain) (hop : op.Fits s k)
    (hcontent : ∀ live, Function.update t.content k ((t.content k).answer live op).2 = t'.content)
    (h : ∀ live reply, (s.fading = false → live = true) →
      (s.shares k = false → reply = ((t.content k).answer live op).1) → Q (.ok reply) t') :
    (Action.ask k op).Leads s t Q :=
  ⟨hk, hop, fun live reply hl hr => ⟨t', hcontent live, h live reply hl hr⟩⟩

end Action

namespace Cache

open GuildRelay.Action Tables

variable {s : Surroundings} {settings : CacheSettings} {t : Tables}

/-! ## Records -/

section Records

variable {α : Type} [Encode α]

theorem leads_read [Decode α] [LawfulCodec α] [Writable α] (slot : Slot α)
    {Q : Except CacheError α → Tables → Prop} (hk : slot.key.IsPlain)
    (hmiss : s.Finds (slot.get t) none → Q (.error .notFound) t)
    (hsome : ∀ a, slot.get t = some a → Q (.ok a) t) :
    (read slot.key : CacheAction α).Leads s t Q := by
  have hban := s.shares_slot slot
  refine .bind (.ask hk ⟨fun _ => rfl, fun h => ?_⟩ (fun _ => Function.update_eq_self _ _)
    fun live reply hlive hreply => ?_)
  · rw [slot.not_isBan] at h
    cases h
  · have hreply := hreply hban
    rw [slot.content_key] at hreply
    cases ha : slot.get t with
    | none =>
        have : reply = none := by
          rw [hreply, ha]
          cases live <;> rfl
        rw [this]
        exact ⟨t, rfl, hmiss (.inl ha.symm)⟩
    | some a =>
        -- The record may have expired, and then it is not found although the tables have it.
        cases live with
        | false =>
            rw [show reply = none from hreply]
            refine ⟨t, rfl, hmiss (.inr ⟨?_, rfl⟩)⟩
            cases hf : s.fading with
            | true => rfl
            | false => exact absurd (hlive hf) Bool.noConfusion
        | true =>
            have : reply = some (encode a).json := by
              rw [hreply, ha]
              rfl
            rw [this]
            refine ⟨t, rfl, ?_⟩
            rw [readText_json]
            exact hsome a ha

/-- Reading a record that may be missing. -/
theorem leads_found_read [Decode α] [LawfulCodec α] [Writable α] (slot : Slot α)
    {Q : Except CacheError (Option α) → Tables → Prop} (hk : slot.key.IsPlain)
    (h : ∀ cached, s.Finds (slot.get t) cached → Q (.ok cached) t) :
    (found (read slot.key : CacheAction α)).Leads s t Q :=
  .found (leads_read slot hk (h none) fun a ha => h (some a) (.inl ha.symm))

theorem leads_write (hs : s.Allows settings) (slot : Slot α) (a : α)
    {Q : Except CacheError Unit → Tables → Prop} (hk : slot.key.IsPlain)
    (h : Q (.ok ()) (slot.put (some a) t)) : (write settings slot.key a).Leads s t Q := by
  refine .ask hk ⟨fun hf => ?_, fun hban => ?_⟩ (fun _ => ?_) fun _ _ _ _ => h
  · rw [Operation.isLasting, hs hf]
    rfl
  · rw [slot.not_isBan] at hban
    cases hban
  · rw [slot.content_put, slot.content_key]
    rfl

theorem leads_drop (slot : Slot α) {Q : Except CacheError Unit → Tables → Prop}
    (hk : slot.key.IsPlain) (h : Q (.ok ()) (slot.put none t)) :
    (drop slot.key).Leads s t Q := by
  refine .ask hk ⟨fun _ => rfl, fun _ => rfl⟩ (fun _ => ?_) fun _ _ _ _ => h
  rw [slot.content_put]
  rfl

end Records

/-! ## Indices -/

section Indices

variable {Q : Except CacheError Unit → Tables → Prop}

theorem leads_addIds (ix : Index) (ids : List String) (hk : ix.key.IsPlain)
    (h : Q (.ok ()) (ix.put (insertAll ids (ix.get t)) t)) : (addIds ix.key ids).Leads s t Q := by
  refine .ask hk ⟨fun _ => rfl, fun _ => rfl⟩ (fun _ => ?_) fun _ _ _ _ => h
  rw [ix.content_put, ix.content_key]
  rfl

theorem leads_removeId (ix : Index) (id : String) (hk : ix.key.IsPlain)
    (h : Q (.ok ()) (ix.put ((ix.get t).filter (· != id)) t)) :
    (removeId ix.key id).Leads s t Q := by
  refine .ask hk ⟨fun _ => rfl, fun _ => rfl⟩ (fun _ => ?_) fun _ _ _ _ => h
  rw [ix.content_put, ix.content_key]
  rfl

theorem leads_dropIndex (ix : Index) (hk : ix.key.IsPlain) (h : Q (.ok ()) (ix.put [] t)) :
    (drop ix.key).Leads s t Q := by
  refine .ask hk ⟨fun _ => rfl, fun _ => rfl⟩ (fun _ => ?_) fun _ _ _ _ => h
  rw [ix.content_put]
  rfl

theorem leads_ids (ix : Index) {Q : Except CacheError (List String) → Tables → Prop}
    (hk : ix.key.IsPlain) (hban : s.shares ix.key = false) (h : Q (.ok (ix.get t)) t) :
    (ids ix.key).Leads s t Q := by
  refine .ask hk ⟨fun _ => rfl, fun _ => rfl⟩ (fun _ => Function.update_eq_self _ _)
    fun live reply _ hreply => ?_
  rw [hreply hban, ix.content_key]
  exact h

theorem leads_isMember {guildId userId : String} {Q : Except CacheError Bool → Tables → Prop}
    (hg : PlainId guildId) (h : Q (.ok ((t.guildUserIds guildId).contains userId)) t) :
    (isMember guildId userId).Leads s t Q := by
  refine .ask hg ⟨fun _ => rfl, fun _ => rfl⟩ (fun _ => Function.update_eq_self _ _)
    fun live reply _ hreply => ?_
  rw [hreply (Bool.and_false _)]
  exact h

end Indices

end Cache

end GuildRelay
