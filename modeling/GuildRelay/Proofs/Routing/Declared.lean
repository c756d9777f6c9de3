import GuildRelay.Routing.Matching
import Mathlib.Data.List.Basic
/-!
# Routing as the document declares it

`RoutingTable.compile` sorts the entries of a document, expands them into rules and leaves out what
cannot be used, and `RoutingTable.matching` searches the rules until one of them ends the search.
This module says what comes of it in terms of the document alone. A `DeclaredRule` is a rule
together with the place that declares it, `DeclaredRule.Fits` is what it asks of an event, and
`DeclaredRule.Precedes` is the order in which rules are tried. The destinations of an event are then
those of the declared rules that fit it, in order, up to the first whose entry does not ask to go on
(`RoutingTable.matching_compile`). All of it holds for every `PatternEngine`: which texts are
patterns and what they match is taken as the engine says.

Expansion and search keep the order of what they go through. Only the sort is about several entries
at once: that it is stable becomes the order of the places once every entry carries its own.
-/

namespace GuildRelay

variable {engine : PatternEngine}

/-! ## What a document says -/

namespace Requirement

/-- The requirement has no pattern, or one that the engine can read. -/
def IsReadable (q : Requirement) (engine : PatternEngine) : Prop :=
  q.regex = "" ∨ (engine.read? q.patternText).isSome

/-- The requirement asks for a beginning or a pattern. -/
def Asks (q : Requirement) : Prop :=
  q.beginning ≠ "" ∨ q.regex ≠ ""

/-- The text is what the requirement's pattern is for: the message without its prefix and without
blanks around, or all of it. -/
def IsSubject (q : Requirement) (m : MessageContext) (text : String) : Prop :=
  if q.withoutPrefix then text = m.content
  else ∃ rest, text = Text.trimText rest ∧
    (m.content = m.lead ++ rest ∨ (¬ m.lead.toList <+: m.content.toList ∧ rest = m.content))

/-- The message is as the requirement asks. -/
structure MetBy (q : Requirement) (engine : PatternEngine) (m : MessageContext) : Prop where
  lead : q.withoutPrefix = false → m.lead ≠ ""
  beginning : q.beginning ≠ "" → ∃ first ∈ m.arguments.head?,
    if q.caseSensitive then first = q.beginning
    else Text.lowerCase first = Text.lowerCase q.beginning
  regex : q.regex ≠ "" → ∃ isMatch ∈ engine.read? q.patternText, ∃ text, q.IsSubject m text ∧
    isMatch text = true

end Requirement

/-- The filters of the entry let the message through. -/
structure RouteEntry.LetsThrough (e : RouteEntry) (botId : String) (m : MessageContext) : Prop where
  bots : m.author.bot = true → e.allowBots = true
  myself : m.author.id = botId → e.allowMyself = true
  direct : m.isDirect = true → e.allowDirect = true

/-- A rule with the place in a document that declares it. -/
structure DeclaredRule where
  entry : RouteEntry
  entryIndex : Nat
  kind : EventKind
  kindIndex : Nat
  requirement : Option Requirement
  requirementIndex : Nat

namespace DeclaredRule

/-- The document has the rule at its place. Only messages have requirements, and an entry without
any has one rule for each kind. -/
structure IsDeclaredIn (r : DeclaredRule) (engine : PatternEngine) (entries : List RouteEntry) :
    Prop where
  entry : entries[r.entryIndex]? = some r.entry
  active : r.entry.active = true
  named : r.entry.name ≠ ""
  kind : r.entry.kinds[r.kindIndex]? = some r.kind
  requirement : match r.requirement with
    | none =>
      (r.kind.isMessage = false ∨ r.entry.requirements = []) ∧ r.requirementIndex = 0
    | some q => r.kind.isMessage = true ∧
      r.entry.requirements[r.requirementIndex]? = some q ∧ q.IsReadable engine

/-- The rule leads here. -/
def destination (r : DeclaredRule) : Destination :=
  ⟨r.entry.destination, r.entry.name, r.entry.errorHandlers,
    (r.requirement.map (·.nickname)).getD ""⟩

/-- The rule is tried before another one. -/
def Precedes (r r' : DeclaredRule) : Prop :=
  r'.entry.priority < r.entry.priority ∨ r.entry.priority = r'.entry.priority ∧
    (r.entryIndex < r'.entryIndex ∨ r.entryIndex = r'.entryIndex ∧
      (r.kindIndex < r'.kindIndex ∨ r.kindIndex = r'.kindIndex ∧
        r.requirementIndex < r'.requirementIndex))

/-- The rule fits an event. Where there is no message to look at, it must not ask for anything. -/
def Fits (r : DeclaredRule) (engine : PatternEngine) (i : MatchInput) : Prop :=
  r.kind = i.kind ∧ (i.kind.isMessage = true →
    match i.message with
    | none => ∀ q ∈ r.requirement, ¬q.Asks
    | some m => r.entry.LetsThrough i.botId m
      ∧ ∀ q ∈ r.requirement, q.Asks → q.MetBy engine m)

/-! ## Rules by their places -/

/-- The compiled rule. -/
def rule? (engine : PatternEngine) (r : DeclaredRule) : Option RoutingRule :=
  match r.requirement with
  | none => some (r.entry.bareRule r.kind)
  | some q => r.entry.rule? engine r.kind q

end DeclaredRule

namespace RouteEntry

/-- The rules that an entry declares for one of its kinds. -/
def declaredFor (e : RouteEntry) (engine : PatternEngine) (entryIndex : Nat) (kind : EventKind)
    (kindIndex : Nat) : List DeclaredRule :=
  if kind.isMessage && !e.requirements.isEmpty then
    (e.requirements.zipIdx.filter fun q => (q.1.pattern? engine).isSome).map fun q =>
      ⟨e, entryIndex, kind, kindIndex, some q.1, q.2⟩
  else [⟨e, entryIndex, kind, kindIndex, none, 0⟩]

/-- The rules that an entry declares. -/
def declared (e : RouteEntry) (engine : PatternEngine) (entryIndex : Nat) : List DeclaredRule :=
  if e.isUsed then e.kinds.zipIdx.flatMap fun k => e.declaredFor engine entryIndex k.1 k.2 else []

/-- The entry comes first, or both have the same priority. -/
def leads (e e' : RouteEntry) : Bool :=
  e'.priority ≤ e.priority

end RouteEntry

/-- The rules that a document declares, in the order in which they are tried. -/
def declaredRules (engine : PatternEngine) (entries : List RouteEntry) : List DeclaredRule :=
  (entries.zipIdx.mergeSort (List.zipIdxLE RouteEntry.leads)).flatMap fun e =>
    e.1.declared engine e.2

theorem Requirement.isSome_pattern? (q : Requirement) :
    (q.pattern? engine).isSome = true ↔ q.IsReadable engine := by
  unfold pattern? IsReadable
  by_cases h : q.regex = ""
  · simp [h]
  · simp [h]

/-! ### Compiling them -/

theorem RouteEntry.filterMap_declaredFor (e : RouteEntry) (i : Nat) (kind : EventKind) (k : Nat) :
    (e.declaredFor engine i kind k).filterMap (DeclaredRule.rule? engine)
      = e.rulesFor engine kind := by
  unfold declaredFor rulesFor
  split
  · -- A requirement that has no rule is left out on one side by the filter.
    rw [List.filterMap_map, List.filterMap_filter]
    conv => rhs; rw [← List.zipIdx_map_fst 0 e.requirements, List.filterMap_map]
    refine List.filterMap_congr fun q _ => ?_
    cases hq : q.1.pattern? engine <;> simp [DeclaredRule.rule?, rule?, hq]
  · rfl

theorem RouteEntry.filterMap_declared (e : RouteEntry) (i : Nat) :
    (e.declared engine i).filterMap (DeclaredRule.rule? engine) = e.rules engine := by
  unfold declared rules
  split
  · rw [List.filterMap_flatMap]
    simp only [filterMap_declaredFor]
    conv => rhs; rw [← List.zipIdx_map_fst 0 e.kinds, List.flatMap_map]
  · rfl

theorem RoutingTable.rules_compile (entries : List RouteEntry) :
    (compile engine entries).rules
      = (declaredRules engine entries).filterMap (DeclaredRule.rule? engine) := by
  have hsorted : (entries.mergeSort RouteEntry.leads) = _ := List.mergeSort_zipIdx.symm
  show (entries.mergeSort RouteEntry.leads).flatMap (·.rules engine) = _
  rw [hsorted, List.flatMap_map, declaredRules, List.filterMap_flatMap]
  simp only [RouteEntry.filterMap_declared]

/-! ### Which they are -/

theorem RouteEntry.mem_declaredFor {e : RouteEntry} {i k : Nat} {kind : EventKind}
    {r : DeclaredRule} : r ∈ e.declaredFor engine i kind k ↔
      r.entry = e ∧ r.entryIndex = i ∧ r.kind = kind ∧ r.kindIndex = k ∧
        match r.requirement with
        | none => (kind.isMessage = false ∨ e.requirements = []) ∧ r.requirementIndex = 0
        | some q => kind.isMessage = true ∧ e.requirements[r.requirementIndex]? = some q ∧
          q.IsReadable engine := by
  obtain ⟨e', i', kind', k', requirement, j⟩ := r
  unfold declaredFor
  split
  · next h =>
    obtain ⟨hmessage, hsome⟩ : kind.isMessage = true ∧ e.requirements ≠ [] := by simpa using h
    simp only [List.mem_map, List.mem_filter, List.mem_zipIdx_iff_getElem?,
      Requirement.isSome_pattern?, DeclaredRule.mk.injEq, Prod.exists]
    cases requirement with
    | none => simp [hmessage, hsome]
    | some q =>
        constructor
        · rintro ⟨q', j', ⟨hq, hread⟩, rfl, rfl, rfl, rfl, hq', rfl⟩
          cases hq'
          exact ⟨rfl, rfl, rfl, rfl, hmessage, hq, hread⟩
        · rintro ⟨rfl, rfl, rfl, rfl, -, hq, hread⟩
          exact ⟨q, j, ⟨hq, hread⟩, rfl, rfl, rfl, rfl, rfl, rfl⟩
  · next h =>
    have hnone : kind.isMessage = false ∨ e.requirements = [] := by
      cases hmessage : kind.isMessage <;> simp_all
    cases requirement with
    | none => simp [hnone]
    | some q =>
        have habsent : ¬(kind.isMessage = true ∧ e.requirements[j]? = some q) := by
          rintro ⟨hmessage, hq⟩
          rcases hnone with hno | hno
          · exact Bool.false_ne_true (hno.symm.trans hmessage)
          · simp [hno] at hq
        refine iff_of_false (by simp) fun h => habsent ⟨h.2.2.2.2.1, h.2.2.2.2.2.1⟩

theorem mem_declaredRules {entries : List RouteEntry} {r : DeclaredRule} :
    r ∈ declaredRules engine entries ↔ r.IsDeclaredIn engine entries := by
  simp only [declaredRules, List.mem_flatMap, List.mem_mergeSort, Prod.exists,
    List.mem_zipIdx_iff_getElem?]
  constructor
  · rintro ⟨e, i, hentry, hr⟩
    unfold RouteEntry.declared at hr
    split at hr
    · next hused =>
      obtain ⟨⟨hactive, -⟩, hname⟩ : (e.active = true ∧ e.kinds ≠ []) ∧ e.name ≠ "" := by
        simpa [RouteEntry.isUsed] using hused
      obtain ⟨⟨kind, k⟩, hkind, hr⟩ := List.mem_flatMap.mp hr
      obtain ⟨rfl, rfl, rfl, rfl, hrequirement⟩ := RouteEntry.mem_declaredFor.mp hr
      exact ⟨hentry, hactive, hname, List.mem_zipIdx_iff_getElem?.mp hkind, hrequirement⟩
    · cases hr
  · rintro ⟨hentry, hactive, hname, hkind, hrequirement⟩
    have hkinds : r.entry.kinds ≠ [] := fun h => by simp [h] at hkind
    have hused : r.entry.isUsed = true := by simp [RouteEntry.isUsed, hactive, hname, hkinds]
    refine ⟨r.entry, r.entryIndex, hentry, ?_⟩
    rw [RouteEntry.declared, if_pos hused]
    refine List.mem_flatMap.mpr ⟨(r.kind, r.kindIndex), List.mem_zipIdx_iff_getElem?.mpr hkind, ?_⟩
    exact RouteEntry.mem_declaredFor.mpr ⟨rfl, rfl, rfl, rfl, hrequirement⟩

/-! ### Their order -/

theorem pairwise_zipIdx {α : Type} (items : List α) :
    items.zipIdx.Pairwise fun a b => a.2 < b.2 := by
  have h : (items.zipIdx.map Prod.snd).Pairwise (· < ·) := by
    rw [List.zipIdx_map_snd]
    exact List.pairwise_lt_range'
  exact List.pairwise_map.mp h

theorem RouteEntry.pairwise_declaredFor (e : RouteEntry) (i : Nat) (kind : EventKind) (k : Nat) :
    (e.declaredFor engine i kind k).Pairwise DeclaredRule.Precedes := by
  unfold declaredFor
  split
  · refine List.pairwise_map.mpr (((pairwise_zipIdx e.requirements).filter _).imp fun h => ?_)
    exact .inr ⟨rfl, .inr ⟨rfl, .inr ⟨rfl, h⟩⟩⟩
  · exact List.pairwise_singleton _ _

theorem RouteEntry.pairwise_declared (e : RouteEntry) (i : Nat) :
    (e.declared engine i).Pairwise DeclaredRule.Precedes := by
  unfold declared
  split
  · refine List.pairwise_flatMap.mpr ⟨fun k _ => e.pairwise_declaredFor i k.1 k.2, ?_⟩
    refine (pairwise_zipIdx e.kinds).imp fun {a b} hlt r hr r' hr' => ?_
    obtain ⟨rfl, rfl, -, hk, -⟩ := mem_declaredFor.mp hr
    obtain ⟨hentry, hindex, -, hk', -⟩ := mem_declaredFor.mp hr'
    refine .inr ⟨by rw [hentry], .inr ⟨hindex.symm, .inl ?_⟩⟩
    omega
  · exact .nil

theorem RouteEntry.mem_declared {e : RouteEntry} {i : Nat} {r : DeclaredRule}
    (h : r ∈ e.declared engine i) : r.entry = e ∧ r.entryIndex = i := by
  unfold declared at h
  split at h
  · obtain ⟨k, -, h⟩ := List.mem_flatMap.mp h
    obtain ⟨hentry, hindex, -⟩ := mem_declaredFor.mp h
    exact ⟨hentry, hindex⟩
  · cases h

/-- Of two sorted entries with different places, the first has the higher priority or, if there is
no difference, the lower place. -/
theorem RouteEntry.lt_of_zipIdxLE {a b : RouteEntry × Nat} (h : List.zipIdxLE leads a b = true)
    (hne : a.2 ≠ b.2) :
    b.1.priority < a.1.priority ∨ a.1.priority = b.1.priority ∧ a.2 < b.2 := by
  simp only [List.zipIdxLE, leads, decide_eq_true_eq] at h
  split at h
  · next hle =>
    split at h
    · next hge =>
      rw [decide_eq_true_eq] at h
      exact .inr ⟨Int32.le_antisymm hge hle, by omega⟩
    · next hlt => exact .inl (Int32.not_le.mp hlt)
  · cases h

theorem pairwise_declaredRules (entries : List RouteEntry) :
    (declaredRules engine entries).Pairwise DeclaredRule.Precedes := by
  refine List.pairwise_flatMap.mpr ⟨fun e _ => e.1.pairwise_declared e.2, ?_⟩
  have htrans : ∀ a b c : RouteEntry × Nat, List.zipIdxLE RouteEntry.leads a b = true →
      List.zipIdxLE RouteEntry.leads b c = true → List.zipIdxLE RouteEntry.leads a c = true :=
    List.zipIdxLE_trans fun a b c hab hbc => by
      simp only [RouteEntry.leads, decide_eq_true_eq] at *
      exact Int32.le_trans hbc hab
  have htotal : ∀ a b : RouteEntry × Nat, (List.zipIdxLE RouteEntry.leads a b
      || List.zipIdxLE RouteEntry.leads b a) = true := List.zipIdxLE_total fun a b => by
    simpa [RouteEntry.leads] using Int32.le_total b.priority a.priority
  have hsorted := List.pairwise_mergeSort htrans htotal entries.zipIdx
  -- The sort keeps the places of the entries, so they are still distinct.
  have hplaces :
      ((entries.zipIdx.mergeSort (List.zipIdxLE RouteEntry.leads)).map Prod.snd).Nodup := by
    refine ((List.mergeSort_perm _ _).map Prod.snd).nodup_iff.mpr ?_
    rw [List.zipIdx_map_snd]
    exact List.nodup_range'
  refine (hsorted.and (List.pairwise_map.mp hplaces)).imp ?_
  rintro a b ⟨hle, hne⟩ r hr r' hr'
  obtain ⟨hentry, hindex⟩ := RouteEntry.mem_declared hr
  obtain ⟨hentry', hindex'⟩ := RouteEntry.mem_declared hr'
  unfold DeclaredRule.Precedes
  rw [hentry, hentry', hindex, hindex']
  exact (RouteEntry.lt_of_zipIdxLE hle hne).imp_right (And.imp_right .inl)

/-! ## What rules ask -/

namespace RoutingRule

theorem admits_iff {r : RoutingRule} {e : RouteEntry} (hbots : r.allowBots = e.allowBots)
    (hmyself : r.allowMyself = e.allowMyself) (hdirect : r.allowDirect = e.allowDirect)
    (botId : String) (m : MessageContext) :
    r.admits botId m = true ↔ e.LetsThrough botId m := by
  simp only [admits, hbots, hmyself, hdirect, Bool.and_eq_true, Bool.or_eq_true, bne_iff_ne,
    Bool.not_eq_true']
  constructor
  · rintro ⟨⟨hb, hm⟩, hd⟩
    exact ⟨fun h => hb.resolve_right (by simp [h]), fun h => hm.resolve_right (by simp [h]),
      fun h => hd.resolve_right (by simp [h])⟩
  · rintro ⟨hb, hm, hd⟩
    refine ⟨⟨?_, ?_⟩, ?_⟩
    · cases hbot : m.author.bot with
      | true => exact .inl (hb hbot)
      | false => exact .inr rfl
    · by_cases hself : m.author.id = botId
      · exact .inl (hm hself)
      · exact .inr hself
    · cases hprivate : m.isDirect with
      | true => exact .inl (hd hprivate)
      | false => exact .inr rfl

end RoutingRule

namespace Requirement

/-- The part of a message that a rule looks at is the subject of its requirement. -/
theorem isSubject_iff {q : Requirement} {r : RoutingRule} (h : r.withoutPrefix = q.withoutPrefix)
    (m : MessageContext) (text : String) : q.IsSubject m text ↔ text = r.subject m := by
  unfold IsSubject RoutingRule.subject
  rw [h]
  split
  · rfl
  · cases hdrop : Text.dropLead? m.lead.toList m.content.toList with
    | some rest =>
        have hcontent := Text.dropLead?_eq_some_iff.mp hdrop
        have hlead : m.lead.toList <+: m.content.toList := ⟨rest, hcontent.symm⟩
        constructor
        · rintro ⟨rest', rfl, hrest' | ⟨hno, -⟩⟩
          · have : m.lead.toList ++ rest'.toList = m.lead.toList ++ rest := by
              rw [← hcontent, hrest', String.toList_append]
            rw [Option.getD_some, ← List.append_cancel_left this, String.ofList_toList]
          · exact absurd hlead hno
        · rintro rfl
          refine ⟨String.ofList rest, rfl, .inl (String.toList_inj.mp ?_)⟩
          rw [hcontent, String.toList_append, String.toList_ofList]
    | none =>
        have hno : ¬ m.lead.toList <+: m.content.toList := by
          rintro ⟨rest, hrest⟩
          rw [Text.dropLead?_eq_some_iff.mpr hrest.symm] at hdrop
          cases hdrop
        rw [Option.getD_none, String.ofList_toList]
        constructor
        · rintro ⟨rest, rfl, hrest | ⟨-, rfl⟩⟩
          · exact absurd ⟨rest.toList, by rw [hrest, String.toList_append]⟩ hno
          · rfl
        · rintro rfl
          exact ⟨m.content, rfl, .inr ⟨hno, rfl⟩⟩

theorem beginsWith_iff {q : Requirement} {r : RoutingRule} (hbegin : r.beginning = q.beginning)
    (hcase : r.caseSensitive = q.caseSensitive) (m : MessageContext) :
    r.beginsWith m = true ↔ (q.beginning ≠ "" → ∃ first ∈ m.arguments.head?,
      if q.caseSensitive then first = q.beginning
      else Text.lowerCase first = Text.lowerCase q.beginning) := by
  unfold RoutingRule.beginsWith
  rw [hbegin, hcase]
  by_cases hblank : q.beginning = ""
  · simp [hblank]
  · have hempty : q.beginning.isEmpty = false := by simpa using hblank
    rw [hempty, Bool.false_or]
    cases m.arguments with
    | nil => simp [hblank]
    | cons first rest => cases q.caseSensitive <;> simp [hblank]

/-- A rule with the parts of a requirement asks of messages what the requirement asks. -/
theorem meets_iff {q : Requirement} {r : RoutingRule} (hbegin : r.beginning = q.beginning)
    (hregex : q.pattern? engine = some r.regex) (hsubject : r.withoutPrefix = q.withoutPrefix)
    (hcase : r.caseSensitive = q.caseSensitive) (m : MessageContext) :
    r.meets m = true ↔ q.MetBy engine m := by
  have hlead : (r.withoutPrefix || !m.lead.isEmpty) = true
      ↔ (q.withoutPrefix = false → m.lead ≠ "") := by
    rw [hsubject]
    cases q.withoutPrefix <;> simp
  have hpattern : (r.regex.all fun regex => regex.isMatch (r.subject m)) = true
      ↔ (q.regex ≠ "" → ∃ isMatch ∈ engine.read? q.patternText, ∃ text, q.IsSubject m text ∧
        isMatch text = true) := by
    unfold pattern? at hregex
    by_cases hblank : q.regex = ""
    · rw [if_pos (by simpa using hblank)] at hregex
      rw [← Option.some.inj hregex]
      simp [hblank]
    · rw [if_neg (by simpa using hblank)] at hregex
      obtain ⟨p, hp, hr⟩ := Option.map_eq_some_iff.mp hregex
      rw [← hr, hp]
      simp [hblank, isSubject_iff hsubject]
  unfold RoutingRule.meets
  rw [Bool.and_eq_true, Bool.and_eq_true, hlead, beginsWith_iff hbegin hcase, hpattern]
  exact ⟨fun ⟨⟨h, h'⟩, h''⟩ => ⟨h, h', h''⟩, fun ⟨h, h', h''⟩ => ⟨⟨h, h'⟩, h''⟩⟩

theorem hasRequirement_iff {q : Requirement} {r : RoutingRule} (hbegin : r.beginning = q.beginning)
    (hregex : q.pattern? engine = some r.regex) : r.hasRequirement = true ↔ q.Asks := by
  have hsome : r.regex.isSome = true ↔ q.regex ≠ "" := by
    unfold pattern? at hregex
    by_cases hblank : q.regex = ""
    · rw [if_pos (by simpa using hblank)] at hregex
      rw [← Option.some.inj hregex]
      simp [hblank]
    · rw [if_neg (by simpa using hblank)] at hregex
      obtain ⟨p, -, hr⟩ := Option.map_eq_some_iff.mp hregex
      rw [← hr]
      simp [hblank]
  unfold RoutingRule.hasRequirement Asks
  rw [Bool.or_eq_true, hsome, hbegin]
  simp

end Requirement

namespace DeclaredRule

/-- What compiling keeps of a declared rule. -/
structure Compiles (r : DeclaredRule) (engine : PatternEngine) (rule : RoutingRule) : Prop where
  rule? : r.rule? engine = some rule
  always : rule.always = r.entry.always
  destination : rule.destination = r.destination
  fits : ∀ i : MatchInput, (rule.kind = i.kind && rule.fits i) = true ↔ r.Fits engine i

theorem compiles_none {r : DeclaredRule} (h : r.requirement = none) :
    r.Compiles engine (r.entry.bareRule r.kind) where
  rule? := by rw [DeclaredRule.rule?, h]
  always := rfl
  destination := by rw [destination, h]; rfl
  fits i := by
    have hbare : (r.entry.bareRule r.kind).hasRequirement = false := rfl
    have hadmits := RoutingRule.admits_iff (r := r.entry.bareRule r.kind) (e := r.entry) rfl rfl rfl
    simp only [Fits, RoutingRule.fits, hbare, h, Bool.and_eq_true, decide_eq_true_eq]
    refine and_congr Iff.rfl ?_
    cases hmessage : i.kind.isMessage with
    | false => simp
    | true => cases i.message <;> simp [hadmits]

/-- What it takes a rule to be as a requirement asks. -/
theorem fits_some {r : DeclaredRule} {q : Requirement} (h : r.requirement = some q)
    {rule : RoutingRule} (hkind : rule.kind = r.kind) (hbegin : rule.beginning = q.beginning)
    (hregex : q.pattern? engine = some rule.regex) (hsubject : rule.withoutPrefix = q.withoutPrefix)
    (hcase : rule.caseSensitive = q.caseSensitive) (i : MatchInput)
    (hadmits : ∀ m, rule.admits i.botId m = true ↔ r.entry.LetsThrough i.botId m) :
    (rule.kind = i.kind && rule.fits i) = true ↔ r.Fits engine i := by
  have hasks := Requirement.hasRequirement_iff hbegin hregex
  have hmeets := Requirement.meets_iff hbegin hregex hsubject hcase
  simp only [Fits, RoutingRule.fits, h, hkind, Bool.and_eq_true, decide_eq_true_eq]
  refine and_congr Iff.rfl ?_
  cases i.kind.isMessage with
  | false => simp
  | true =>
      cases i.message with
      | none => simp [← hasks]
      | some m =>
          have hor : (!rule.hasRequirement || rule.meets m) = true
              ↔ (q.Asks → q.MetBy engine m) := by
            rw [← hasks, ← hmeets]
            cases rule.hasRequirement <;> simp
          simp [hadmits, hor]

theorem compiles_some {r : DeclaredRule} {q : Requirement} (h : r.requirement = some q)
    (hread : q.IsReadable engine) : ∃ rule, r.Compiles engine rule := by
  obtain ⟨regex, hregex⟩ := Option.isSome_iff_exists.mp (q.isSome_pattern?.mpr hread)
  obtain ⟨rule, hrule⟩ : ∃ rule, r.entry.rule? engine r.kind q = some rule := by
    rw [RouteEntry.rule?, hregex]
    exact ⟨_, rfl⟩
  have hcompiled : r.rule? engine = some rule := by simp only [DeclaredRule.rule?, h, hrule]
  rw [RouteEntry.rule?, hregex] at hrule
  cases hrule
  exact ⟨_, hcompiled, rfl, by rw [destination, h]; rfl, fun i =>
    fits_some h rfl rfl hregex rfl rfl i (RoutingRule.admits_iff rfl rfl rfl i.botId)⟩

end DeclaredRule

theorem DeclaredRule.exists_compiles {r : DeclaredRule} {entries : List RouteEntry}
    (h : r.IsDeclaredIn engine entries) : ∃ rule, r.Compiles engine rule := by
  have hrequirement := h.requirement
  cases hr : r.requirement with
  | none => exact ⟨_, compiles_none hr⟩
  | some q =>
      rw [hr] at hrequirement
      exact compiles_some hr hrequirement.2.2

/-! ## The search -/

/-- Compiled rules are searched as the declared rules are that they come from. -/
theorem RoutingTable.firstFits_filterMap (i : MatchInput) (fitting : DeclaredRule → Bool)
    (hfitting : ∀ r, fitting r = true ↔ r.Fits engine i) (rules : List DeclaredRule)
    (hcompile : ∀ r ∈ rules, ∃ rule, r.Compiles engine rule) :
    firstFits i (rules.filterMap (DeclaredRule.rule? engine)) =
      let fit := rules.filter fitting
      (fit.takeWhile (·.entry.always) ++ (fit.dropWhile (·.entry.always)).take 1).map
        (·.destination) := by
  induction rules with
  | nil => rfl
  | cons r rest ih =>
      obtain ⟨rule, hrule, halways, hdestination, hfits⟩ := hcompile r (List.mem_cons_self ..)
      have ih := ih fun r hr => hcompile r (List.mem_cons_of_mem _ hr)
      have hsame : fitting r = (rule.kind = i.kind && rule.fits i) :=
        Bool.eq_iff_iff.mpr ((hfitting r).trans (hfits i).symm)
      rw [List.filterMap_cons_some hrule, firstFits, List.filter_cons, hsame, ih, halways,
        hdestination]
      by_cases hfit : (rule.kind = i.kind && rule.fits i) = true
      · cases hgo : r.entry.always with
        | true => simp [hfit, hgo]
        | false => simp [hfit, hgo]
      · simp [hfit]

/-- Whatever engine reads the patterns, the destinations of an event are those of the declared rules
that fit it, in the order of the document, up to the first whose entry does not ask to go on. -/
theorem RoutingTable.matching_compile (engine : PatternEngine) (entries : List RouteEntry)
    (i : MatchInput) :
    ∃ rules : List DeclaredRule, rules.Pairwise DeclaredRule.Precedes
      ∧ (∀ r, r ∈ rules ↔ r.IsDeclaredIn engine entries ∧ r.Fits engine i)
      ∧ (compile engine entries).matching i =
        (rules.takeWhile (·.entry.always) ++ (rules.dropWhile (·.entry.always)).take 1).map
          (·.destination) := by
  classical
  refine ⟨(declaredRules engine entries).filter fun r => decide (r.Fits engine i),
    (pairwise_declaredRules entries).filter _, fun r => ?_, ?_⟩
  · rw [List.mem_filter, mem_declaredRules, decide_eq_true_eq]
  · rw [matching, rules_compile]
    exact firstFits_filterMap i _ (fun r => decide_eq_true_iff) _ fun r hr =>
      DeclaredRule.exists_compiles (mem_declaredRules.mp hr)

end GuildRelay
