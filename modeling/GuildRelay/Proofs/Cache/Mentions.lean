import GuildRelay.Proofs.Cache.Integrity
import GuildRelay.Proofs.Permission.Answers
import GuildRelay.Proofs.Routing.Subject
import GuildRelay.Proofs.Time.Timestamp
/-!
# What mentions resolve to

The texts that mention an id are given by `Mentions`: some digits, bare or between angle brackets
after an opener, with blanks around them. A text is read as a mention exactly if it is one, and then
of one id only, which is all of its digits (`mentionedId?_eq_some_iff`).

A lookup by a mention answers from the one record that it names, and a text that mentions nothing
makes no call at all. A channel is looked up by its id alone, whichever guild it belongs to, so the
checks come afterwards: first the guild and then the kind
(`World.Reachable.mentions_resolve`).
-/

namespace GuildRelay

open Text

/-! ## The texts that mention an id -/

/-- A text mentions an id of digits: the bare id, or the id between angle brackets after one of the
openers, with blanks around it. -/
structure Mentions (openers : List String) (text id : String) : Prop where
  nonempty : id ≠ ""
  digits : ∀ c ∈ id.toList, '0' ≤ c ∧ c ≤ '9'
  around : ∃ before mention after, text = before ++ mention ++ after
    ∧ (∀ c ∈ before.toList, isBlank c = true) ∧ (∀ c ∈ after.toList, isBlank c = true)
    ∧ (mention = id ∨ ∃ opener ∈ openers, mention = opener ++ id ++ ">")

/-- An opener starts a bracket and has no digits. -/
structure IsOpener (opener : String) : Prop where
  head : opener.toList.head? = some '<'
  noDigits : opener.toList.filter isDigit = []

/-- A mention without the blanks around it. -/
def Spells (openers : List String) (cs id : List Char) : Prop :=
  isId id = true ∧ (cs = id ∨ ∃ opener ∈ openers, cs = opener.toList ++ id ++ ['>'])

theorem isId_iff {id : List Char} : isId id = true ↔ id ≠ [] ∧ ∀ c ∈ id, isDigit c = true := by
  simp [isId]

theorem bracketedId?_eq_some_iff {opener cs id : List Char} :
    bracketedId? opener cs = some id ↔ isId id = true ∧ cs = opener ++ id ++ ['>'] := by
  constructor
  · intro h
    refine ⟨isId_of_bracketedId? h, ?_⟩
    unfold bracketedId? at h
    split at h
    · next rest hrest =>
        split at h
        · next hlast =>
            obtain ⟨-, heq⟩ := Option.ite_none_right_eq_some.mp h
            have hbracket : rest = id ++ ['>'] := by
              rw [← Option.some.inj heq, List.dropLast_append_getLast? _ hlast]
            rw [dropLead?_eq_some_iff.mp hrest, hbracket, List.append_assoc]
        · cases h
    · cases h
  · rintro ⟨hid, rfl⟩
    have hrest : dropLead? opener (opener ++ id ++ ['>']) = some (id ++ ['>']) :=
      dropLead?_eq_some_iff.mpr (List.append_assoc ..)
    simp only [bracketedId?, hrest, List.getLast?_concat, List.dropLast_concat, hid, if_true]

variable {openers : List String} {text id : String} {cs ds : List Char}

/-- The id is all of the digits. -/
theorem Spells.filter_eq (hopeners : ∀ opener ∈ openers, IsOpener opener)
    (h : Spells openers cs ds) : cs.filter isDigit = ds := by
  obtain ⟨hid, hcs⟩ := h
  have hdigits : ds.filter isDigit = ds := List.filter_eq_self.mpr (isId_iff.mp hid).2
  rcases hcs with rfl | ⟨opener, hopener, rfl⟩
  · exact hdigits
  · have hnone := (hopeners opener hopener).noDigits
    have hbracket : ['>'].filter isDigit = [] := by decide
    rw [List.filter_append, List.filter_append, hnone, hdigits, hbracket, List.nil_append,
      List.append_nil]

theorem Spells.ne_nil (hopeners : ∀ opener ∈ openers, IsOpener opener)
    (h : Spells openers cs ds) : cs ≠ [] := by
  rintro rfl
  exact (isId_iff.mp h.1).1 (h.filter_eq hopeners).symm

/-- Mentions start and end without a blank. -/
theorem Spells.no_blanks (hopeners : ∀ opener ∈ openers, IsOpener opener)
    (h : Spells openers cs ds) :
    (∀ c ∈ cs.head?, isBlank c = false) ∧ ∀ c ∈ cs.getLast?, isBlank c = false := by
  obtain ⟨hid, hcs⟩ := h
  rcases hcs with rfl | ⟨opener, hopener, rfl⟩
  · have hdigits : ∀ c ∈ cs, isBlank c = false := fun c hc =>
      isBlank_of_isDigit ((isId_iff.mp hid).2 c hc)
    exact ⟨fun c hc => hdigits c (List.mem_of_mem_head? hc),
      fun c hc => hdigits c (List.mem_of_mem_getLast? hc)⟩
  · have hhead := (hopeners opener hopener).head
    refine ⟨fun c hc => ?_, fun c hc => ?_⟩
    · rw [List.append_assoc, List.head?_append, hhead, Option.some_or] at hc
      cases hc
      rfl
    · rw [List.getLast?_concat] at hc
      cases hc
      rfl

theorem Text.trimStart_of_head {cs : List Char} (hcs : cs ≠ [])
    (hhead : ∀ c ∈ cs.head?, isBlank c = false) (rest : List Char) :
    trimStart (cs ++ rest) = cs ++ rest := by
  obtain ⟨c, cs, rfl⟩ := List.exists_cons_of_ne_nil hcs
  exact trimStart_eq_self (hhead c rfl)

/-- What is between blanks is what trimming leaves. -/
theorem Text.trim_eq {before core after : List Char} (hbefore : ∀ c ∈ before, isBlank c = true)
    (hafter : ∀ c ∈ after, isBlank c = true) (hhead : ∀ c ∈ core.head?, isBlank c = false)
    (hlast : ∀ c ∈ core.getLast?, isBlank c = false) (hcore : core ≠ []) :
    trim (before ++ core ++ after) = core := by
  have hreverse : trimStart core.reverse = core.reverse := by
    have hfirst : ∀ c ∈ core.reverse.head?, isBlank c = false := by
      rwa [List.head?_reverse]
    simpa using trimStart_of_head (List.reverse_ne_nil_iff.mpr hcore) hfirst []
  have hafter' : ∀ c ∈ after.reverse, isBlank c = true := fun c hc =>
    hafter c (List.mem_reverse.mp hc)
  rw [trim, List.append_assoc, trimStart_append_blank hbefore, trimStart_of_head hcore hhead,
    trimEnd, List.reverse_append, trimStart_append_blank hafter', hreverse, List.reverse_reverse]

theorem mentions_iff_spells (hopeners : ∀ opener ∈ openers, IsOpener opener) :
    Mentions openers text id ↔ Spells openers (trim text.toList) id.toList := by
  have hdigit : ∀ c, isDigit c = true ↔ '0' ≤ c ∧ c ≤ '9' := fun c => by simp [isDigit]
  constructor
  · rintro ⟨hne, hdigits, before, mention, after, rfl, hbefore, hafter, hmention⟩
    have hspells : Spells openers mention.toList id.toList := by
      refine ⟨isId_iff.mpr ⟨fun hnil => hne (String.toList_eq_nil_iff.mp hnil),
        fun c hc => (hdigit c).mpr (hdigits c hc)⟩, ?_⟩
      rcases hmention with rfl | ⟨opener, hopener, rfl⟩
      · exact .inl rfl
      · exact .inr ⟨opener, hopener, by simp⟩
    obtain ⟨hhead, hlast⟩ := hspells.no_blanks hopeners
    rw [String.toList_append, String.toList_append,
      Text.trim_eq hbefore hafter hhead hlast (hspells.ne_nil hopeners)]
    exact hspells
  · rintro ⟨hid, hmention⟩
    obtain ⟨before, after, htext, hbefore, hafter⟩ := (isTrimmed_trim text.toList).around
    obtain ⟨hne, hdigits⟩ := isId_iff.mp hid
    refine ⟨fun hempty => hne (by rw [hempty]; rfl), fun c hc => (hdigit c).mp (hdigits c hc),
      String.ofList before, String.ofList (trim text.toList), String.ofList after, ?_, ?_, ?_, ?_⟩
    · rw [← String.toList_inj]
      simpa using htext
    · simpa using hbefore
    · simpa using hafter
    · rcases hmention with hbare | ⟨opener, hopener, hbracket⟩
      · exact .inl (by rw [hbare, String.ofList_toList])
      · refine .inr ⟨opener, hopener, ?_⟩
        rw [← String.toList_inj]
        simpa using hbracket

/-- What is read of a text without the blanks around it. -/
def spelledId? (openers : List String) (cs : List Char) : Option (List Char) :=
  if isId cs then some cs else openers.findSome? fun opener => bracketedId? opener.toList cs

theorem spells_of_spelledId? (h : spelledId? openers cs = some ds) : Spells openers cs ds := by
  unfold spelledId? at h
  split at h
  · next hbare =>
      obtain rfl := Option.some.inj h
      exact ⟨hbare, .inl rfl⟩
  · obtain ⟨opener, hopener, hfound⟩ := List.exists_of_findSome?_eq_some h
    obtain ⟨hid, hcs⟩ := bracketedId?_eq_some_iff.mp hfound
    exact ⟨hid, .inr ⟨opener, hopener, hcs⟩⟩

theorem Spells.isSome_spelledId? (h : Spells openers cs ds) : (spelledId? openers cs).isSome := by
  obtain ⟨hid, hcs⟩ := h
  unfold spelledId?
  split
  · rfl
  · next hbare =>
      rcases hcs with rfl | ⟨opener, hopener, hbracket⟩
      · exact absurd hid hbare
      · have hfound := bracketedId?_eq_some_iff.mpr ⟨hid, hbracket⟩
        exact List.findSome?_isSome_iff.mpr ⟨opener, hopener, by rw [hfound]; rfl⟩

/-- No opener hides another: they would all find the same digits. -/
theorem spelledId?_eq_some_iff (hopeners : ∀ opener ∈ openers, IsOpener opener) :
    spelledId? openers cs = some ds ↔ Spells openers cs ds := by
  refine ⟨spells_of_spelledId?, fun h => ?_⟩
  obtain ⟨ds', hds'⟩ := Option.isSome_iff_exists.mp h.isSome_spelledId?
  have heq : ds' = ds :=
    ((spells_of_spelledId? hds').filter_eq hopeners).symm.trans (h.filter_eq hopeners)
  rw [hds', heq]

/-- A text is read as a mention exactly if it is one. -/
theorem mentionedId?_eq_some_iff (hopeners : ∀ opener ∈ openers, IsOpener opener) :
    mentionedId? openers text = some id ↔ Mentions openers text id := by
  have hread : mentionedId? openers text
      = (spelledId? openers (trim text.toList)).map String.ofList := rfl
  rw [mentions_iff_spells hopeners, ← spelledId?_eq_some_iff hopeners, hread,
    Option.map_eq_some_iff]
  constructor
  · rintro ⟨ds, hds, rfl⟩
    rwa [String.toList_ofList]
  · intro h
    exact ⟨id.toList, h, String.ofList_toList⟩

theorem mentionedId?_eq_none_iff (hopeners : ∀ opener ∈ openers, IsOpener opener) :
    mentionedId? openers text = none ↔ ∀ id, ¬Mentions openers text id := by
  rw [Option.eq_none_iff_forall_ne_some]
  exact forall_congr' fun id => not_congr (mentionedId?_eq_some_iff hopeners)

theorem isOpener_user : ∀ opener ∈ ["<@", "<@!"], IsOpener opener := by
  simp only [List.forall_mem_cons, List.not_mem_nil, false_imp_iff, forall_const, and_true]
  exact ⟨⟨rfl, rfl⟩, ⟨rfl, rfl⟩⟩

theorem isOpener_channel : ∀ opener ∈ ["<#"], IsOpener opener := by
  simp only [List.forall_mem_cons, List.not_mem_nil, false_imp_iff, forall_const, and_true]
  exact ⟨rfl, rfl⟩

theorem isOpener_role : ∀ opener ∈ ["<@&"], IsOpener opener := by
  simp only [List.forall_mem_cons, List.not_mem_nil, false_imp_iff, forall_const, and_true]
  exact ⟨rfl, rfl⟩

/-! ## What a lookup by a mention finds -/

/-- Where live records can be read, a lookup finds the record or misses it. -/
theorem Host.Keeps.lookUp_cases {α : Type} [Decode α] {h : Host} {ns : String} {k : Key}
    {P : α → Prop} (hkeeps : h.Keeps ns k P) :
    (h.record ns k = (none : Option α) ∧ (h.lookUp ns k : Except CacheError α) = .error .notFound)
    ∨ ∃ a, h.record ns k = some a ∧ h.lookUp ns k = .ok a ∧ P a := by
  unfold Host.record Host.lookUp
  cases hvalue : h.value ns k with
  | none => exact .inl ⟨rfl, rfl⟩
  | some text =>
      obtain ⟨a, hread, ha⟩ := hkeeps text hvalue
      exact .inr ⟨a, by rw [Option.bind_some, hread]; rfl, hread, ha⟩

open GuildRelay.Action in
/-- Where nothing is mentioned, nothing is looked up. -/
theorem Host.runOn_of_none {α β : Type} {found : Option α} (hfound : found = none)
    (ns : String) (h : Host) (f : α → CacheAction β) :
    ((ofOption found >>= f).mapKeys (Key.text ns)).runOn Host.backend h
      = (.error .notFound, h) := by
  rw [hfound]
  rfl

namespace World

open GuildRelay.Action Host

variable {w : World} {ns guildId : String} {kind : ChannelKind}

/-- What a lookup finds, and the host after it with all calls that were made. -/
def asked (w : World) (ns : String) (q : Lookup) : Except CacheError q.Result × Host :=
  (q.action.mapKeys (Key.text ns)).runOn Host.backend w.host

theorem answer_userFromMention (hf : ∀ n, w.host.faults n = none)
    (hid : mentionedId? ["<@", "<@!"] text = some id) :
    w.answer ns (.userFromMention text) = w.host.lookUp ns (.user id) := by
  have haction : (Lookup.userFromMention text).action
      = (Cache.read (.user id) : CacheAction User) := by
    show ofOption (mentionedId? ["<@", "<@!"] text) >>= Cache.user = _
    rw [hid]
    rfl
  rw [answer, haction, runOn_read ns hf]

/-- The channel is looked up by its id, and its guild is checked before its kind. -/
theorem answer_channelFromMention (hf : ∀ n, w.host.faults n = none)
    (hid : mentionedId? ["<#"] text = some id) :
    w.answer ns (.channelFromMention guildId text kind)
      = (w.host.lookUp ns (.channel id)).bind fun c : Channel =>
          if c.guildId ≠ guildId then .error .wrongGuild
          else if c.kind ≠ kind then .error .wrongType else .ok c := by
  let checked (c : Channel) : CacheAction Channel := do
    if c.guildId ≠ guildId then throw .wrongGuild
    if c.kind ≠ kind then throw .wrongType
    return c
  have haction : (Lookup.channelFromMention guildId text kind).action
      = (Cache.read (.channel id) >>= checked : CacheAction Channel) := by
    show (ofOption (mentionedId? ["<#"] text) >>= fun id => Cache.channel id >>= checked) = _
    rw [hid]
    rfl
  obtain ⟨h, -, -, hread⟩ := runOn_read_bind ns hf (.channel id) checked
  rw [answer, haction]
  refine hread.trans (congrArg _ (funext fun c => ?_))
  simp only [checked, ne_eq, ite_not]
  split
  · split <;> rfl
  · rfl

theorem answer_roleFromMention (hf : ∀ n, w.host.faults n = none)
    (hid : mentionedId? ["<@&"] text = some id) :
    w.answer ns (.roleFromMention guildId text)
      = (w.host.lookUp ns (.guild guildId)).bind fun g : Guild =>
          match g.roleList.find? fun r => r.id == id with
          | some r => .ok r
          | none => .error .notFound := by
  let roleOf (g : Guild) : CacheAction Role := ofOption (g.roleList.find? fun r => r.id == id)
  have haction : (Lookup.roleFromMention guildId text).action
      = (Cache.read (.guild guildId) >>= roleOf : CacheAction Role) := by
    show (ofOption (mentionedId? ["<@&"] text) >>= fun id => Cache.role guildId id) = _
    rw [hid]
    rfl
  obtain ⟨h, -, -, hread⟩ := runOn_read_bind ns hf (.guild guildId) roleOf
  rw [answer, haction]
  refine hread.trans (congrArg _ (funext fun g => ?_))
  simp only [roleOf]
  cases g.roleList.find? fun r => r.id == id <;> rfl

/-- A lookup by a mention finds the user with the id, if that is cached. -/
structure FindsUser (w : World) (ns text id : String) : Prop where
  ok_iff : ∀ u : User, w.answer ns (.userFromMention text) = .ok u
    ↔ w.host.record ns (.user id) = some u
  notFound_iff : w.answer ns (.userFromMention text) = .error .notFound
    ↔ w.host.record ns (.user id) = (none : Option User)
  id_eq : ∀ u : User, w.host.record ns (.user id) = some u → u.id = id

/-- A lookup by a mention finds the channel with the id if it belongs to the guild and is of the
kind asked for. Where it fails, it tells which of these comes first: no channel is cached, it is one
of another guild, or it is one of another kind. -/
structure FindsChannel (w : World) (ns guildId text : String) (kind : ChannelKind) (id : String) :
    Prop where
  ok_iff : ∀ c : Channel, w.answer ns (.channelFromMention guildId text kind) = .ok c
    ↔ w.host.record ns (.channel id) = some c ∧ c.guildId = guildId ∧ c.kind = kind
  notFound_iff : w.answer ns (.channelFromMention guildId text kind) = .error .notFound
    ↔ w.host.record ns (.channel id) = (none : Option Channel)
  wrongGuild_iff : w.answer ns (.channelFromMention guildId text kind) = .error .wrongGuild
    ↔ ∃ c : Channel, w.host.record ns (.channel id) = some c ∧ c.guildId ≠ guildId
  wrongType_iff : w.answer ns (.channelFromMention guildId text kind) = .error .wrongType
    ↔ ∃ c : Channel, w.host.record ns (.channel id) = some c ∧ c.guildId = guildId ∧ c.kind ≠ kind
  id_eq : ∀ c : Channel, w.host.record ns (.channel id) = some c → c.id = id

/-- A lookup by a mention finds the role with the id in the guild, if both are cached. -/
structure FindsRole (w : World) (ns guildId text id : String) : Prop where
  ok_iff : ∀ r : Role, w.answer ns (.roleFromMention guildId text) = .ok r
    ↔ ∃ g : Guild, w.host.record ns (.guild guildId) = some g
      ∧ g.roleList.find? (fun r => r.id == id) = some r
  notFound_iff : w.answer ns (.roleFromMention guildId text) = .error .notFound
    ↔ ∀ g : Guild, w.host.record ns (.guild guildId) = some g → ∀ r ∈ g.roleList, r.id ≠ id
  id_eq : ∀ g : Guild, w.host.record ns (.guild guildId) = some g → g.id = guildId

theorem findsUser (hf : ∀ n, w.host.faults n = none)
    (hkeeps : w.host.Keeps ns (.user id) fun u : User => u.id = id)
    (hid : mentionedId? ["<@", "<@!"] text = some id) : w.FindsUser ns text id := by
  have hanswer : w.answer ns (.userFromMention text) = _ := answer_userFromMention hf hid
  rcases hkeeps.lookUp_cases with ⟨hrecord, hfound⟩ | ⟨u, hrecord, hfound, hu⟩
  · constructor <;> simp [hanswer, hfound, hrecord]
  · constructor <;> simp [hanswer, hfound, hrecord, hu]

theorem findsChannel (hf : ∀ n, w.host.faults n = none)
    (hkeeps : w.host.Keeps ns (.channel id) fun c : Channel => c.id = id)
    (hid : mentionedId? ["<#"] text = some id) : w.FindsChannel ns guildId text kind id := by
  have hanswer : w.answer ns (.channelFromMention guildId text kind) = _ :=
    answer_channelFromMention hf hid
  rcases hkeeps.lookUp_cases with ⟨hrecord, hfound⟩ | ⟨c, hrecord, hfound, hc⟩
  · rw [hfound] at hanswer
    constructor <;> simp [hanswer, hrecord, Except.bind]
  · rw [hfound] at hanswer
    by_cases hguild : c.guildId = guildId
    · by_cases hkind : c.kind = kind
      · constructor <;> simp [hanswer, hrecord, Except.bind, hguild, hkind, hc]
      · constructor <;> simp [hanswer, hrecord, Except.bind, hguild, hkind, hc]
    · constructor <;> simp [hanswer, hrecord, Except.bind, hguild, hc]

theorem findsRole (hf : ∀ n, w.host.faults n = none)
    (hkeeps : w.host.Keeps ns (.guild guildId) fun g : Guild => g.id = guildId)
    (hid : mentionedId? ["<@&"] text = some id) : w.FindsRole ns guildId text id := by
  have hanswer : w.answer ns (.roleFromMention guildId text) = _ := answer_roleFromMention hf hid
  rcases hkeeps.lookUp_cases with ⟨hrecord, hfound⟩ | ⟨g, hrecord, hfound, hg⟩
  · rw [hfound] at hanswer
    constructor <;> simp [hanswer, hrecord, Except.bind]
  · rw [hfound] at hanswer
    cases hfind : g.roleList.find? fun r => r.id == id with
    | none =>
        have hnone : ∀ r ∈ g.roleList, r.id ≠ id := by simpa using hfind
        constructor <;> simp [hanswer, hrecord, Except.bind, hfind, hg]
        exact hnone
    | some r =>
        have hsome : ∃ r ∈ g.roleList, r.id = id :=
          ⟨r, List.mem_of_find?_eq_some hfind, by simpa using List.find?_some hfind⟩
        constructor <;> simp [hanswer, hrecord, Except.bind, hfind, hg]
        exact hsome

/-- A text that mentions no user, no channel or no role is not found without a call. One that does
resolves to the record of the id that it mentions: the user, the role in the guild asked for, or the
channel. A channel of another guild is refused for that whatever its kind, and only a channel of the
guild is refused for its kind. -/
theorem Reachable.mentions_resolve {settings : CacheSettings}
    (h : Reachable ns settings Event.IsWellNamed w) (hg : PlainId guildId) (text : String)
    (kind : ChannelKind) :
    ((∀ id, ¬Mentions ["<@", "<@!"] text id) →
      w.asked ns (.userFromMention text) = (.error .notFound, w.host))
    ∧ ((∀ id, ¬Mentions ["<#"] text id) →
      w.asked ns (.channelFromMention guildId text kind) = (.error .notFound, w.host))
    ∧ ((∀ id, ¬Mentions ["<@&"] text id) →
      w.asked ns (.roleFromMention guildId text) = (.error .notFound, w.host))
    ∧ (∀ id, Mentions ["<@", "<@!"] text id → w.FindsUser ns text id)
    ∧ (∀ id, Mentions ["<#"] text id → w.FindsChannel ns guildId text kind id)
    ∧ ∀ id, Mentions ["<@&"] text id → w.FindsRole ns guildId text id := by
  obtain ⟨v, hv, hw⟩ := h.exists_fits
  have hhost := hw.host
  have hf := hhost.faultless
  refine ⟨fun hnone => ?_, fun hnone => ?_, fun hnone => ?_, fun id hmentions => ?_,
    fun id hmentions => ?_, fun id hmentions => ?_⟩
  · exact runOn_of_none ((mentionedId?_eq_none_iff isOpener_user).mpr hnone) ns w.host _
  · exact runOn_of_none ((mentionedId?_eq_none_iff isOpener_channel).mpr hnone) ns w.host _
  · exact runOn_of_none ((mentionedId?_eq_none_iff isOpener_role).mpr hnone) ns w.host _
  · have hid := (mentionedId?_eq_some_iff isOpener_user).mpr hmentions
    exact findsUser hf (hhost.keeps hv (plainId_of_mentionedId? hid) rfl rfl) hid
  · have hid := (mentionedId?_eq_some_iff isOpener_channel).mpr hmentions
    have hkeeps := hhost.keeps hv (k := .channel id) (plainId_of_mentionedId? hid) rfl rfl
    exact findsChannel hf (hkeeps.mono fun _ hc => hc.1) hid
  · have hid := (mentionedId?_eq_some_iff isOpener_role).mpr hmentions
    have hkeeps := hhost.keeps hv (k := .guild guildId) hg rfl rfl
    exact findsRole hf (hkeeps.mono fun _ hg' => hg'.1) hid

/-- The channel of the small guild is found by a mention with blanks around it, but not as a channel
of another guild or of another kind. Its mention is none of a user, which costs no call. -/
theorem sample_mentions_resolve :
    let w := ({ host := {} } : World).after "relay" {} "5" (.guildCreate sampleStaff)
    (∃ c, w.answer "relay" (.channelFromMention "1" " <#2>\n" .guildText) = .ok c)
    ∧ w.answer "relay" (.channelFromMention "8" " <#2>\n" .guildVoice) = .error .wrongGuild
    ∧ w.answer "relay" (.channelFromMention "1" "2" .guildVoice) = .error .wrongType
    ∧ w.answer "relay" (.channelFromMention "1" "<#9>" .guildText) = .error .notFound
    ∧ (∃ r, w.answer "relay" (.roleFromMention "1" "<@&7>") = .ok r)
    ∧ w.asked "relay" (.userFromMention "<#2>") = (.error .notFound, w.host) := by
  intro w
  have hnamed : (Event.guildCreate sampleStaff).IsWellNamed := by
    refine ⟨by decide, ?_, ?_⟩ <;> decide
  have hreach : Reachable "relay" {} Event.IsWellNamed w :=
    (Reachable.start rfl fun _ => rfl).after "5" hnamed
  have hstart : ({ host := {} } : World).KeepsTables "relay" {} {} := .start rfl fun _ => rfl
  have hkeeps := hstart.after rfl "5" hnamed
  have hone : PlainId "1" := by decide
  have height : PlainId "8" := by decide
  have htwo : PlainId "2" := by decide
  have hnine : PlainId "9" := by decide
  have hguild : w.host.record "relay" (.guild "1") = some sampleStaff.fillIds :=
    (hkeeps.record rfl (Tables.Slot.guild "1") hone).trans (by decide +kernel)
  obtain ⟨c, hc, hcguild, hckind⟩ :
      ∃ c : Channel, w.host.record "relay" (.channel "2") = some c ∧ c.guildId = "1"
        ∧ c.kind = .guildText := by
    have hrecord : w.host.record "relay" (.channel "2") = sampleStaff.fillIds.channelList.head? :=
      (hkeeps.record rfl (Tables.Slot.channel "2") htwo).trans (by decide +kernel)
    rw [hrecord]
    exact ⟨_, rfl, rfl, rfl⟩
  have hmissed : w.host.record "relay" (.channel "9") = (none : Option Channel) :=
    (hkeeps.record rfl (Tables.Slot.channel "9") hnine).trans (by decide +kernel)
  have hmention : ∀ text id, mentionedId? ["<#"] text = some id → Mentions ["<#"] text id :=
    fun text id => (mentionedId?_eq_some_iff isOpener_channel).mp
  have hspaced : Mentions ["<#"] " <#2>\n" "2" := hmention _ _ (by decide +kernel)
  have hbare : Mentions ["<#"] "2" "2" := hmention _ _ (by decide +kernel)
  have hother : Mentions ["<#"] "<#9>" "9" := hmention _ _ (by decide +kernel)
  have hseven : Mentions ["<@&"] "<@&7>" "7" :=
    (mentionedId?_eq_some_iff isOpener_role).mp (by decide +kernel)
  have hnone : ∀ id, ¬Mentions ["<@", "<@!"] "<#2>" id :=
    (mentionedId?_eq_none_iff isOpener_user).mp (by decide +kernel)
  obtain ⟨-, -, -, -, hfound, -⟩ := hreach.mentions_resolve hone " <#2>\n" .guildText
  obtain ⟨-, -, -, -, hforeign, -⟩ := hreach.mentions_resolve height " <#2>\n" .guildVoice
  obtain ⟨-, -, -, -, hkind, -⟩ := hreach.mentions_resolve hone "2" .guildVoice
  obtain ⟨-, -, -, -, hmissing, -⟩ := hreach.mentions_resolve hone "<#9>" .guildText
  obtain ⟨-, -, -, -, -, hrole⟩ := hreach.mentions_resolve hone "<@&7>" .guildText
  obtain ⟨huser, -⟩ := hreach.mentions_resolve hone "<#2>" .guildText
  refine ⟨⟨c, ((hfound "2" hspaced).ok_iff c).mpr ⟨hc, hcguild, hckind⟩⟩, ?_, ?_, ?_, ?_,
    huser hnone⟩
  · exact (hforeign "2" hspaced).wrongGuild_iff.mpr ⟨c, hc, by rw [hcguild]; decide⟩
  · exact (hkind "2" hbare).wrongType_iff.mpr ⟨c, hc, hcguild, by rw [hckind]; decide⟩
  · exact (hmissing "9" hother).notFound_iff.mpr hmissed
  · exact ⟨_, ((hrole "7" hseven).ok_iff _).mpr
      ⟨_, hguild, (Option.some_get (by decide +kernel)).symm⟩⟩

end World

end GuildRelay
