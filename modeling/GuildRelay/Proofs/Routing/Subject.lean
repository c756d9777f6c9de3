import GuildRelay.Routing.Matching
import Mathlib.Data.List.Basic
/-!
# The text that a pattern is matched with

The prefix of a message is taken off in two places: where its dispatch is made, to find the
arguments, and again in each rule that has a pattern, to find what the pattern is for. The dispatch
keeps only the prefix, so the rule has to come to the same rest from the prefix alone. It does
whatever the prefixes are, since the one that was used is what the message begins with
(`strip_spec`); `Dispatch.one_split` follows the rest from the dispatch to the rules.

Which prefix is used is said without the search for it: `Prefixes.Offers` is the list that a guild's
messages are tried with, and `IsLead` is the first of the list that can be taken off.
-/

namespace GuildRelay

/-! ## Texts without their ends -/

namespace Text

theorem dropLead?_append {content lead rest : String} (h : content = lead ++ rest) :
    dropLead? lead.toList content.toList = some rest.toList :=
  dropLead?_eq_some_iff.mpr (by rw [h, String.toList_append])

/-- What is left of a text when the blanks around it are gone. -/
structure IsTrimmed (core cs : List Char) : Prop where
  around : ∃ before after, cs = before ++ core ++ after
    ∧ (∀ c ∈ before, isBlank c = true) ∧ ∀ c ∈ after, isBlank c = true
  head : ∀ c ∈ core.head?, isBlank c = false
  last : ∀ c ∈ core.getLast?, isBlank c = false

theorem exists_append_trimStart (cs : List Char) :
    ∃ blanks, cs = blanks ++ trimStart cs ∧ ∀ c ∈ blanks, isBlank c = true := by
  induction cs with
  | nil => exact ⟨[], rfl, List.forall_mem_nil _⟩
  | cons c rest ih =>
      by_cases hc : isBlank c = true
      · obtain ⟨blanks, hrest, hblanks⟩ := ih
        refine ⟨c :: blanks, ?_, List.forall_mem_cons.mpr ⟨hc, hblanks⟩⟩
        rw [trimStart, if_pos hc, List.cons_append, ← hrest]
      · exact ⟨[], by rw [trimStart, if_neg hc, List.nil_append], List.forall_mem_nil _⟩

theorem exists_trimEnd_append (cs : List Char) :
    ∃ blanks, cs = trimEnd cs ++ blanks ∧ ∀ c ∈ blanks, isBlank c = true := by
  obtain ⟨blanks, hcs, hblanks⟩ := exists_append_trimStart cs.reverse
  refine ⟨blanks.reverse, ?_, fun c hc => hblanks c (List.mem_reverse.mp hc)⟩
  rw [trimEnd, ← List.reverse_append, ← hcs, List.reverse_reverse]

theorem isTrimmed_trim (cs : List Char) : IsTrimmed (trim cs) cs := by
  obtain ⟨before, hbefore, hblank⟩ := exists_append_trimStart cs
  obtain ⟨after, hafter, hblank'⟩ := exists_trimEnd_append (trimStart cs)
  refine ⟨⟨before, after, ?_, hblank, hblank'⟩, fun c hc => ?_, fun c hc => ?_⟩
  · rw [List.append_assoc, trim, ← hafter, ← hbefore]
  · -- Dropping blanks from the end leaves the first character, if it leaves any.
    refine head?_trimStart cs c ?_
    rw [hafter]
    exact List.mem_head?_append_of_mem_head? hc
  · rw [trim, trimEnd, List.getLast?_reverse] at hc
    exact head?_trimStart _ c hc

end Text

/-! ## The prefix of a message -/

namespace Command

/-- The candidate is not blank and the content starts with it. -/
def Opens (candidate content : String) : Prop :=
  candidate ≠ "" ∧ ∃ rest, content = candidate ++ rest

/-- The first of the candidates that opens the content, blank if none does. -/
inductive IsLead (content : String) : List String → String → Prop
  | first {before after : List String} {lead : String} (opens : Opens lead content)
      (earlier : ∀ c ∈ before, ¬Opens c content) : IsLead content (before ++ lead :: after) lead
  | none {candidates : List String} (others : ∀ c ∈ candidates, ¬Opens c content) :
      IsLead content candidates ""

theorem IsLead.of_opens {content lead : String} {others : List String} (h : Opens lead content) :
    IsLead content (lead :: others) lead :=
  show IsLead content ([] ++ lead :: others) lead from .first h (List.forall_mem_nil _)

theorem IsLead.skip {content candidate lead : String} {others : List String}
    (hno : ¬Opens candidate content) (h : IsLead content others lead) :
    IsLead content (candidate :: others) lead := by
  cases h with
  | first opens earlier => exact .first opens (List.forall_mem_cons.mpr ⟨hno, earlier⟩)
  | none others => exact .none (List.forall_mem_cons.mpr ⟨hno, others⟩)

theorem strip_spec (content : String) (candidates : List String) :
    IsLead content candidates (strip content candidates).lead
      ∧ content = (strip content candidates).lead ++ (strip content candidates).rest := by
  induction candidates with
  | nil => exact ⟨.none (List.forall_mem_nil _), rfl⟩
  | cons candidate others ih =>
      unfold strip
      split
      · next hblank =>
        have hno : ¬Opens candidate content := fun h => h.1 (String.isEmpty_iff.mp hblank)
        exact ⟨ih.1.skip hno, ih.2⟩
      · next hblank =>
        split
        · next rest hdrop =>
          have hcontent : content = candidate ++ String.ofList rest := by
            refine String.toList_inj.mp ?_
            rw [Text.dropLead?_eq_some_iff.mp hdrop, String.toList_append, String.toList_ofList]
          have hopens : Opens candidate content :=
            ⟨fun h => hblank (String.isEmpty_iff.mpr h), _, hcontent⟩
          exact ⟨.of_opens hopens, hcontent⟩
        · next hdrop =>
          have hno : ¬Opens candidate content := by
            rintro ⟨-, rest, hrest⟩
            rw [Text.dropLead?_append hrest] at hdrop
            cases hdrop
          exact ⟨ih.1.skip hno, ih.2⟩

/-- The two ways to mention a bot. -/
def mentions (botId : String) : List String :=
  ["<@" ++ botId ++ ">", "<@!" ++ botId ++ ">"]

/-- The prefixes that a message of a guild is tried with: the mentions of the bot and those of the
first rule for the guild, or the default one if no rule is for it. -/
inductive Prefixes.Offers (p : Prefixes) (botId guildId : String) : List String → Prop
  | ruled {before after : List GuildPrefixes} {rule : GuildPrefixes}
      (rules : p.guilds = before ++ rule :: after) (names : rule.guildId = guildId)
      (earlier : ∀ r ∈ before, r.guildId ≠ guildId) :
      Offers p botId guildId (mentions botId ++ rule.prefixes)
  | unruled (others : ∀ r ∈ p.guilds, r.guildId ≠ guildId) :
      Offers p botId guildId (mentions botId ++ [p.default])

theorem Prefixes.offers_candidates (p : Prefixes) (botId guildId : String) :
    p.Offers botId guildId (p.candidates botId guildId) := by
  unfold candidates
  cases hfind : p.guilds.find? fun g => g.guildId == guildId with
  | some rule =>
      obtain ⟨hnames, before, after, hrules, hearlier⟩ :=
        List.find?_eq_some_iff_append.mp hfind
      exact .ruled hrules (beq_iff_eq.mp hnames) fun r hr => by simpa using hearlier r hr
  | none => exact .unruled fun r hr => by simpa using List.find?_eq_none.mp hfind r hr

end Command

/-! ## What rules are shown of a dispatch -/

namespace Dispatch

/-- A message as rules look at it. -/
def context (d : Dispatch) (m : Message) (isDirect : Bool) : MessageContext :=
  ⟨m.author, m.content, d.lead, d.arguments, isDirect⟩

theorem ofEvent_message {e : Event} {m : Message} (h : e.message? = some m) (key botId : String)
    (prefixes : Command.Prefixes) :
    let stripped := Command.strip m.content (prefixes.candidates botId m.guildId)
    ofEvent e key botId prefixes
      = ⟨e, key, botId, stripped.lead, Command.arguments stripped.rest⟩ := by
  simp only [ofEvent, h, Command.splitMessage]

end Dispatch

theorem RoutingTable.destinations_message (t : RoutingTable) {d : Dispatch} {m : Message}
    (h : d.event.message? = some m) : t.destinations d = (isDirect m).andThen fun isDirect =>
      .done (t.matching ⟨d.kind, d.botId, some (d.context m isDirect)⟩) := by
  simp only [destinations, h, Dispatch.context]

namespace RoutingRule

/-- A rule finds the rest behind a prefix that the message does start with. -/
theorem subject_eq {r : RoutingRule} {m : MessageContext} {rest : String}
    (hwith : r.withoutPrefix = false) (h : m.content = m.lead ++ rest) :
    r.subject m = Text.trimText rest := by
  rw [subject, hwith, if_neg Bool.false_ne_true, Text.dropLead?_append h, Option.getD_some,
    String.ofList_toList]

/-- A rule with a pattern and for prefixed messages fits those that it lets through, that have a
prefix and begin as it asks, and whose rest its pattern matches. -/
theorem fits_iff_isMatch {r : RoutingRule} {i : MatchInput} {m : MessageContext}
    {regex : WrittenPattern} (hkind : i.kind.isMessage = true) (hmessage : i.message = some m)
    (hregex : r.regex = some regex) (hwith : r.withoutPrefix = false) :
    r.fits i = true ↔ r.admits i.botId m = true ∧ m.lead ≠ "" ∧ r.beginsWith m = true
      ∧ regex.isMatch (r.subject m) = true := by
  have hasks : r.hasRequirement = true := by
    rw [hasRequirement, hregex, Option.isSome_some, Bool.or_true]
  simp only [fits, hkind, hmessage, hasks, meets, hregex, hwith, Bool.not_true, Bool.false_or,
    Bool.false_eq_true, if_false, Option.all_some, Bool.and_eq_true, Bool.not_eq_true',
    String.isEmpty_eq_false_iff, and_assoc]

end RoutingRule

/-- One split of a message accounts for what a dispatch says of it and for what its rules match
patterns with. -/
structure Dispatch.SplitsAt (d : Dispatch) (m : Message) (candidates : List String)
    (rest subject : String) : Prop where
  lead : Command.IsLead m.content candidates d.lead
  content : m.content = d.lead ++ rest
  words : ∀ ws, Command.words rest = .ok ws → d.arguments = ws
  unsplit : ∀ why, Command.words rest = .error why → d.arguments = [rest]
  trimmed : Text.IsTrimmed subject.toList rest.toList
  destinations (t : RoutingTable) :
    t.destinations d = (RoutingTable.isDirect m).andThen fun isDirect =>
      .done (t.matching ⟨d.kind, d.botId, some (d.context m isDirect)⟩)
  fits (r : RoutingRule) (regex : WrittenPattern) (isDirect : Bool) : r.regex = some regex →
    r.withoutPrefix = false →
      (r.fits ⟨d.kind, d.botId, some (d.context m isDirect)⟩ = true ↔
        r.admits d.botId (d.context m isDirect) = true ∧ d.lead ≠ ""
          ∧ r.beginsWith (d.context m isDirect) = true ∧ regex.isMatch subject = true)

theorem Dispatch.splitsAt_ofEvent {e : Event} {m : Message} (h : e.message? = some m)
    (key botId : String) (prefixes : Command.Prefixes) :
    let candidates := prefixes.candidates botId m.guildId
    let rest := (Command.strip m.content candidates).rest
    (ofEvent e key botId prefixes).SplitsAt m candidates rest (Text.trimText rest) := by
  intro candidates rest
  obtain ⟨hlead, hcontent⟩ := Command.strip_spec m.content candidates
  have hkind : e.kind.isMessage = true := by rw [← Event.message?_isSome, h, Option.isSome_some]
  rw [ofEvent_message h key botId prefixes]
  refine ⟨hlead, hcontent, fun ws hws => ?_, fun why hwhy => ?_, ?_,
    fun t => t.destinations_message h, fun r regex isDirect hregex hwith => ?_⟩
  · rw [Command.arguments, hws]
  · rw [Command.arguments, hwhy]
  · rw [Text.trimText, String.toList_ofList]
    exact Text.isTrimmed_trim rest.toList
  · rw [RoutingRule.fits_iff_isMatch hkind rfl hregex hwith, RoutingRule.subject_eq hwith hcontent]
    rfl

/-- The prefix, the arguments and the text for the patterns of a message come from one split of its
content. Other events have neither a prefix nor arguments. -/
theorem Dispatch.one_split (e : Event) (key botId : String) (prefixes : Command.Prefixes) :
    let d := ofEvent e key botId prefixes
    (∀ m, (e = .messageCreate m ∨ e = .messageUpdate m) →
      ∃ candidates rest subject, prefixes.Offers botId m.guildId candidates
        ∧ d.SplitsAt m candidates rest subject)
    ∧ ((∀ m, e ≠ .messageCreate m ∧ e ≠ .messageUpdate m) → d.lead = "" ∧ d.arguments = []) := by
  constructor
  · intro m he
    have hmessage : e.message? = some m := by rcases he with rfl | rfl <;> rfl
    exact ⟨_, _, _, prefixes.offers_candidates botId m.guildId,
      splitsAt_ofEvent hmessage key botId prefixes⟩
  · intro hother
    have hnone : e.message? = none := by
      cases e with
      | messageCreate m => exact absurd rfl (hother m).1
      | messageUpdate m => exact absurd rfl (hother m).2
      | _ => rfl
    exact ⟨ofEvent_lead hnone key botId prefixes, ofEvent_arguments hnone key botId prefixes⟩

-- A shorter prefix that is listed first is used, and a blank one never is.
example :
    let d := Dispatch.ofEvent (.messageCreate { guildId := "7", content := "!! roll  20 " }) "k" "1"
      ⟨"/", [⟨"7", ["", "!", "!!"]⟩]⟩
    d.lead = "!" ∧ d.arguments = ["!", "roll", "20"] := by
  decide

end GuildRelay
