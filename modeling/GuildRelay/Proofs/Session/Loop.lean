import GuildRelay.Proofs.Cache.View
import GuildRelay.Proofs.Session.Printed
import GuildRelay.Proofs.Time.Timestamp
import GuildRelay.Store.Host
import Mathlib.Data.List.Induction
/-!
# What a session puts out

A session reads lines one after the other, and any line may be passed over: it may be blank or no
event, its claim may be refused, applying it may fail, and it may have no destinations. What comes
of a line is told by three things only, the line itself, the bot that was ready last and the state
of the store (`Session.outcome`), so nothing that goes wrong with one line is felt by another unless
the store remembers it.

The store may behave in any way: the statements are about every `Backend` and every state of it.
`Session.exec_step` says what one line does, `Session.exec_run_append` puts lines together, and
`Session.routes_new_events` is what follows for a whole input. What is put out is text, and it is
read back with `Routed.ofJson?`.
-/

namespace GuildRelay

/-! ## Blank lines -/

theorem Text.isBlank_ne {c d : Char} (hc : isBlank c = true) (hd : isBlank d = false) : c ≠ d := by
  rintro rfl
  rw [hc] at hd
  cases hd

namespace Json

theorem skipSpace_blank {cs : List Char} (hcs : ∀ c ∈ cs, Text.isBlank c = true) :
    skipSpace cs = [] ∨ ∃ c rest, skipSpace cs = c :: rest ∧ Text.isBlank c = true := by
  induction cs with
  | nil => exact .inl rfl
  | cons c cs ih =>
      rw [skipSpace]
      split
      · exact ih fun d hd => hcs d (List.mem_cons_of_mem c hd)
      · exact .inr ⟨c, cs, rfl, hcs c List.mem_cons_self⟩

/-- No value starts with a blank that JSON does not skip. -/
theorem readValue_blank {cs : List Char} (hcs : ∀ c ∈ cs, Text.isBlank c = true) (fuel : Nat) :
    readValue fuel cs = none := by
  cases fuel with
  | zero => rfl
  | succ fuel =>
      rcases skipSpace_blank hcs with hskip | ⟨c, rest, hskip, hc⟩
      · rw [readValue, hskip]
      · have hne : ∀ d, Text.isBlank d = false → c ≠ d := fun d hd => Text.isBlank_ne hc hd
        have hdigit : Text.isDigit c = false :=
          Bool.eq_false_iff.mpr fun hd => hne c (Text.isBlank_of_isDigit hd) rfl
        simp [readValue, hskip, hne '"' rfl, hne '[' rfl, hne '{' rfl, hne '-' rfl,
          hdigit, readWord, Text.dropLead?, (hne 'n' rfl).symm,
          (hne 't' rfl).symm, (hne 'f' rfl).symm]

end Json

/-- The line has nothing but blanks. -/
def isBlankLine (line : String) : Bool :=
  line.toList.all Text.isBlank

theorem Event.ofJson?_of_isBlankLine {line : String} (h : isBlankLine line = true) :
    Event.ofJson? line = none := by
  rw [ofJson?, Document.ofJson?, Json.readValue_blank (List.all_eq_true.mp h)]
  rfl

theorem Dispatch.ofEvent_botId (e : Event) (key botId : String) (prefixes : Command.Prefixes) :
    (ofEvent e key botId prefixes).botId = botId := by
  unfold ofEvent
  split <;> rfl

/-! ## The bot that was ready last -/

/-- The bot that an event tells of. -/
def Event.readyBot? : Event → Option String
  | .ready r => some r.user.id
  | _ => none

namespace Session

/-- The bot of the last event in the lines that tells of one, blank if there is none. -/
def lastBot (lines : List String) : String :=
  ((lines.filterMap Event.ofJson?).filterMap Event.readyBot?).getLast?.getD ""

/-- The bot after a line. -/
def botAfterLine (botId line : String) : String :=
  ((Event.ofJson? line).map (botAfter botId)).getD botId

theorem botAfter_eq (botId : String) (e : Event) : botAfter botId e = e.readyBot?.getD botId := by
  cases e <;> rfl

theorem lastBot_concat (lines : List String) (line : String) :
    lastBot (lines ++ [line]) = botAfterLine (lastBot lines) line := by
  unfold lastBot botAfterLine
  rw [List.filterMap_append, List.filterMap_append]
  cases hline : Event.ofJson? line with
  | none => simp [hline]
  | some e =>
      cases hbot : e.readyBot? with
      | none => simp [hline, hbot, botAfter_eq]
      | some botId => simp [hline, hbot, botAfter_eq]

/-! ## One line -/

section

variable {σ α β : Type} (s : Session) (backend : Backend σ)

/-- The result of a program on the session's keys, and the state that the store ends in. -/
def exec (p : Program Key α) (st : σ) : α × σ :=
  (p.mapKeys (Key.text s.settings.ns)).run backend st

/-- Whether an event is new. -/
def claim (e : Event) (st : σ) : Bool × σ :=
  s.exec backend (Cache.isNew (Cache.claimKey e s.source)) st

/-- An event is applied, which may fail. -/
def applied (botId : String) (e : Event) (st : σ) : Except CacheError (Option String) × σ :=
  s.exec backend (ExceptT.run (Cache.apply s.cacheSettings botId e)) st

/-- A message stands in a private channel. A channel that cannot be read counts as unknown. -/
def isDirectAt (m : Message) (st : σ) : Bool :=
  match (s.exec backend (ExceptT.run (Cache.channel m.channelId)) st).1 with
  | .ok c => c.isPrivate
  | .error _ => m.guildId.isEmpty

/-- The destinations of an event by the state of the store. -/
def destinationsAt (botId : String) (e : Event) (st : σ) : List Destination :=
  let d := Dispatch.ofEvent e ((Cache.claimKey e s.source).text s.settings.ns) botId
    s.settings.prefixes
  s.table.matching ⟨e.kind, botId, e.message?.map fun m =>
    ⟨m.author, m.content, d.lead, d.arguments, s.isDirectAt backend m st⟩⟩

/-- What is put out for a line by the bot after it and the state of the store before it. -/
def outcome (botId line : String) (st : σ) : Option Routed :=
  match Event.ofJson? line with
  | none => none
  | some e =>
    let (new, st) := s.claim backend e st
    if new then
      let destinations := s.destinationsAt backend botId e (s.applied backend botId e st).2
      if destinations.isEmpty then none
      else some ⟨(Cache.claimKey e s.source).text s.settings.ns, e.kind, destinations⟩
    else none

theorem exec_andThen (p : Program Key α) (f : α → Program Key β) (st : σ) :
    s.exec backend (p.andThen f) st
      = s.exec backend (f (s.exec backend p st).1) (s.exec backend p st).2 := by
  unfold exec
  rw [Program.mapKeys_andThen, Program.run_andThen]

theorem exec_isDirect (m : Message) (st : σ) :
    (s.exec backend (RoutingTable.isDirect m) st).1 = s.isDirectAt backend m st := by
  rw [RoutingTable.isDirect, exec_andThen, isDirectAt]
  cases (s.exec backend (Cache.channel m.channelId).run st).1 with
  | ok _ => rfl
  | error _ => rfl

theorem exec_destinations (botId : String) (e : Event) (st : σ) :
    (s.exec backend (s.table.destinations (Dispatch.ofEvent e
        ((Cache.claimKey e s.source).text s.settings.ns) botId s.settings.prefixes)) st).1
      = s.destinationsAt backend botId e st := by
  unfold RoutingTable.destinations destinationsAt Dispatch.kind
  simp only [Dispatch.ofEvent_event, Dispatch.ofEvent_botId]
  cases e.message? with
  | none => rfl
  | some m =>
      simp only [exec_andThen]
      rw [exec_isDirect]
      rfl

/-- Only the message of an event is looked up. -/
theorem destinationsAt_congr {e : Event} (hmessage : e.message? = none) (botId : String)
    (st st' : σ) : s.destinationsAt backend botId e st = s.destinationsAt backend botId e st' := by
  simp only [destinationsAt, hmessage, Option.map_none]

theorem applied_asks {botId : String} {e : Event} {st : σ} {asked : Option String}
    (h : (s.applied backend botId e st).1 = .ok asked) : asked = Cache.bansToCheck e := by
  unfold applied Cache.apply at h
  rw [Action.run_bind, exec_andThen] at h
  cases hupdate : (s.exec backend (ExceptT.run (Cache.update s.cacheSettings botId e)) st).1 with
  | error error =>
      rw [hupdate] at h
      cases h
  | ok done =>
      rw [hupdate] at h
      cases h
      rfl

/-- Beside the events that carry a message no ban list is looked at. -/
theorem exec_handle_message {e : Event} (hmessage : e.message? ≠ none) (hasBanSource : Bool)
    (botId : String) (st : σ) :
    (s.exec backend (Cache.handle s.cacheSettings hasBanSource botId e) st).2
      = (s.applied backend botId e st).2 := by
  have hasks : Cache.bansToCheck e = none := by
    cases e <;> first | rfl | exact absurd rfl hmessage
  rw [Cache.handle, exec_andThen, ← applied]
  cases happlied : (s.applied backend botId e st).1 with
  | error error => rfl
  | ok asked =>
      rw [s.applied_asks backend happlied, hasks]
      rfl

/-- An event is routed by the state of the store right after it was applied, even where a ban list
is looked at in between. -/
theorem destinationsAt_handle (hasBanSource : Bool) (botId : String) (e : Event) (st : σ) :
    s.destinationsAt backend botId e
        (s.exec backend (Cache.handle s.cacheSettings hasBanSource botId e) st).2
      = s.destinationsAt backend botId e (s.applied backend botId e st).2 := by
  by_cases hmessage : e.message? = none
  · exact s.destinationsAt_congr backend hmessage ..
  · rw [s.exec_handle_message backend hmessage]

/-- Nothing more is done about an event that was claimed before. -/
theorem exec_handle_claimed {e : Event} {st : σ} (hclaim : (s.claim backend e st).1 = false)
    (botId : String) :
    s.exec backend (s.handle botId e) st = (none, (s.claim backend e st).2) := by
  rw [handle, exec_andThen]
  show s.exec backend (if (s.claim backend e st).1 = true then _ else _) (s.claim backend e st).2
    = _
  rw [hclaim]
  rfl

theorem exec_handle_new {e : Event} {st : σ} (hclaim : (s.claim backend e st).1 = true)
    (botId : String) :
    (s.exec backend (s.handle botId e) st).1
      = let destinations := s.destinationsAt backend botId e
          (s.applied backend botId e (s.claim backend e st).2).2
        if destinations.isEmpty then none
        else some ⟨(Cache.claimKey e s.source).text s.settings.ns, e.kind, destinations⟩ := by
  rw [handle, exec_andThen]
  show (s.exec backend (if (s.claim backend e st).1 = true then _ else _)
    (s.claim backend e st).2).1 = _
  rw [hclaim, if_pos rfl, exec_andThen, route, exec_andThen, exec_destinations,
    destinationsAt_handle]
  rfl

/-- What a line comes to: the bot that is told on, and what is put out. -/
theorem exec_step (botId line : String) (st : σ) :
    (s.exec backend (s.step botId line) st).1
      = (botAfterLine botId line, s.outcome backend (botAfterLine botId line) line st) := by
  unfold step botAfterLine outcome
  cases Event.ofJson? line with
  | none => rfl
  | some e =>
      simp only [exec_andThen]
      refine Prod.ext rfl ?_
      show (s.exec backend (s.handle (botAfter botId e) e) st).1 = _
      cases hclaim : (s.claim backend e st).1 with
      | false =>
          rw [s.exec_handle_claimed backend hclaim]
          simp
      | true =>
          rw [s.exec_handle_new backend hclaim]
          simp

/-! ## All lines -/

theorem exec_run_cons (botId line : String) (rest : List String) (st : σ) :
    s.exec backend (s.run botId (line :: rest)) st
      = let others := s.exec backend (s.run (botAfterLine botId line) rest)
          (s.exec backend (s.step botId line) st).2
        ((s.outcome backend (botAfterLine botId line) line st).toList ++ others.1, others.2) := by
  rw [run, exec_andThen, exec_step, exec_andThen]
  rfl

theorem exec_run_append (botId : String) (before after : List String) (st : σ) :
    s.exec backend (s.run botId (before ++ after)) st
      = let first := s.exec backend (s.run botId before) st
        let others := s.exec backend (s.run (before.foldl botAfterLine botId) after) first.2
        (first.1 ++ others.1, others.2) := by
  induction before generalizing botId st with
  | nil => rfl
  | cons line before ih =>
      rw [List.cons_append, exec_run_cons, ih, exec_run_cons]
      simp only [List.foldl_cons, List.append_assoc]

theorem lastBot_eq_foldl (lines : List String) : lastBot lines = lines.foldl botAfterLine "" := by
  induction lines using List.reverseRecOn with
  | nil => rfl
  | append_singleton lines line ih =>
      rw [lastBot_concat, ih, List.foldl_append]
      rfl

/-- The state of the store after lines. -/
def storeAfter (lines : List String) (st : σ) : σ :=
  (s.exec backend (s.run "" lines) st).2

/-- What is put out for the line at a position. -/
def outcomeAt (lines : List String) (st : σ) (i : Nat) : Option Routed :=
  lines[i]?.bind fun line => s.outcome backend (lastBot (lines.take (i + 1))) line
    (s.storeAfter backend (lines.take i) st)

theorem exec_run_append_last (before after : List String) (st : σ) :
    s.exec backend (s.run "" (before ++ after)) st
      = let others := s.exec backend (s.run (lastBot before) after)
          (s.storeAfter backend before st)
        ((s.exec backend (s.run "" before) st).1 ++ others.1, others.2) := by
  rw [exec_run_append, lastBot_eq_foldl, storeAfter]

/-- The lines that are put out for lines which a bot receives. -/
def printed (botId : String) (lines : List String) (st : σ) : List String :=
  (s.exec backend (s.run botId lines) st).1.map Routed.json

/-- The lines that are put out tell the routed events and nothing else. -/
theorem map_ofJson?_printed (botId : String) (lines : List String) (st : σ) :
    (s.printed backend botId lines st).map Routed.ofJson?
      = (s.exec backend (s.run botId lines) st).1.map some := by
  rw [printed, List.map_map]
  refine List.map_congr_left fun r _ => ?_
  rw [Function.comp_apply, r.ofJson?_json]

theorem newline_not_mem_printed {botId : String} {lines : List String} {st : σ} {line : String}
    (h : line ∈ s.printed backend botId lines st) : '\n' ∉ line.toList := by
  obtain ⟨r, -, rfl⟩ := List.mem_map.mp h
  exact r.newline_not_mem_json

theorem storeAfter_concat (lines : List String) (line : String) (st : σ) :
    s.storeAfter backend (lines ++ [line]) st
      = (s.exec backend (s.step (lastBot lines) line) (s.storeAfter backend lines st)).2 := by
  rw [storeAfter, exec_run_append_last, exec_run_cons]
  rfl

theorem outcomeAt_length (before : List String) (line : String) (after : List String) (st : σ) :
    s.outcomeAt backend (before ++ line :: after) st before.length
      = s.outcome backend (botAfterLine (lastBot before) line) line
          (s.storeAfter backend before st) := by
  have htake : (before ++ line :: after).take (before.length + 1) = before ++ [line] := by
    rw [List.take_length_add_append]
    rfl
  simp [outcomeAt, htake, lastBot_concat]

/-- The lines after others put out what is put out at their positions. -/
theorem exec_run_from (before rest : List String) (st : σ) :
    (s.exec backend (s.run (lastBot before) rest) (s.storeAfter backend before st)).1
      = (List.range' before.length rest.length).filterMap
          (s.outcomeAt backend (before ++ rest) st) := by
  induction rest generalizing before with
  | nil => rfl
  | cons line rest ih =>
      have hnext := ih (before ++ [line])
      rw [lastBot_concat, storeAfter_concat, List.append_assoc, List.singleton_append,
        List.length_append] at hnext
      rw [exec_run_cons, List.length_cons, List.range'_succ, List.filterMap_cons, outcomeAt_length]
      simp only [hnext]
      cases s.outcome backend (botAfterLine (lastBot before) line) line
        (s.storeAfter backend before st) <;> rfl

theorem outcome_eq_some_iff {botId line : String} {st : σ} {r : Routed} :
    s.outcome backend botId line st = some r
      ↔ isBlankLine line = false ∧ ∃ e, Event.ofJson? line = some e
        ∧ (s.claim backend e st).1 = true
        ∧ s.destinationsAt backend botId e
            (s.applied backend botId e (s.claim backend e st).2).2 ≠ []
        ∧ r = ⟨(Cache.claimKey e s.source).text s.settings.ns, e.kind,
            s.destinationsAt backend botId e
              (s.applied backend botId e (s.claim backend e st).2).2⟩ := by
  unfold outcome
  cases hline : Event.ofJson? line with
  | none => simp
  | some e =>
      have hblank : isBlankLine line = false := by
        rw [← Bool.not_eq_true]
        intro hblank
        rw [Event.ofJson?_of_isBlankLine hblank] at hline
        cases hline
      simp only [hblank, true_and, Option.some.injEq, exists_eq_left']
      cases (s.claim backend e st).1 with
      | false => simp
      | true =>
          simp only [if_true, true_and, List.isEmpty_iff]
          split
          · next hempty => simp [hempty]
          · next hsome => simp [hsome, eq_comm]

theorem exec_step_malformed {line : String} (hline : Event.ofJson? line = none) (botId : String)
    (st : σ) : s.exec backend (s.step botId line) st = ((botId, none), st) := by
  rw [step, hline]
  rfl

theorem exec_step_claimed {line : String} {e : Event} {st : σ} (hline : Event.ofJson? line = some e)
    (hclaim : (s.claim backend e st).1 = false) (botId : String) :
    s.exec backend (s.step botId line) st
      = ((botAfterLine botId line, none), (s.claim backend e st).2) := by
  rw [step, botAfterLine, hline]
  simp only [exec_andThen, s.exec_handle_claimed backend hclaim]
  rfl

theorem exec_run_outcomes (lines : List String) (st : σ) :
    (s.exec backend (s.run "" lines) st).1
      = (List.range lines.length).filterMap (s.outcomeAt backend lines st) := by
  have hall := s.exec_run_from backend [] lines st
  rw [List.nil_append, List.length_nil, ← List.range_eq_range'] at hall
  exact hall

/-- Whatever the store does, a line is put out for each line of the input that is an event whose
claim is granted and that has destinations, in the order of the input. It has no break in it and is
read as the key of the event, its kind and its destinations. The destinations are those by the store
right after the event was applied, whether that succeeded or not, for the bot that was ready last. A
line that is no event leaves everything as if it had not been there, and one that was
claimed before leaves its claim and the bot. What is put out before a line does not depend on it,
and what is put out after it depends on it by the bot and the store alone. -/
theorem routes_new_events (lines : List String) (st : σ) :
    s.printed backend "" lines st
      = ((List.range lines.length).filterMap (s.outcomeAt backend lines st)).map Routed.json
    ∧ (s.printed backend "" lines st).map Routed.ofJson?
      = ((List.range lines.length).filterMap (s.outcomeAt backend lines st)).map some
    ∧ (∀ line ∈ s.printed backend "" lines st, '\n' ∉ line.toList)
    ∧ (∀ i r, s.outcomeAt backend lines st i = some r ↔ ∃ line e, lines[i]? = some line
      ∧ isBlankLine line = false ∧ Event.ofJson? line = some e
      ∧ let botId := lastBot (lines.take (i + 1))
        let claimed := s.claim backend e (s.storeAfter backend (lines.take i) st)
        let after := (s.applied backend botId e claimed.2).2
        claimed.1 = true ∧ s.destinationsAt backend botId e after ≠ []
        ∧ r = ⟨(Cache.claimKey e s.source).text s.settings.ns, e.kind,
            s.destinationsAt backend botId e after⟩)
    ∧ (∀ before line after, Event.ofJson? line = none →
      s.exec backend (s.run "" (before ++ line :: after)) st
        = s.exec backend (s.run "" (before ++ after)) st)
    ∧ (∀ before line e, Event.ofJson? line = some e →
      (s.claim backend e (s.storeAfter backend before st)).1 = false →
      s.outcomeAt backend (before ++ [line]) st before.length = none
      ∧ s.storeAfter backend (before ++ [line]) st
        = (s.claim backend e (s.storeAfter backend before st)).2)
    ∧ ∀ before line after, s.printed backend "" (before ++ line :: after) st
      = s.printed backend "" before st
        ++ ((s.outcomeAt backend (before ++ [line]) st before.length).toList.map Routed.json
          ++ s.printed backend (lastBot (before ++ [line])) after
            (s.storeAfter backend (before ++ [line]) st)) := by
  refine ⟨congrArg (List.map Routed.json) (s.exec_run_outcomes backend lines st), ?_,
    fun _ => s.newline_not_mem_printed backend, fun i r => ?_, fun before line after hline => ?_,
    fun before line e hline hclaim => ?_, fun before line after => ?_⟩
  · rw [map_ofJson?_printed, exec_run_outcomes]
  · simp only [outcomeAt, Option.bind_eq_some_iff, outcome_eq_some_iff]
    constructor
    · rintro ⟨line, hline, hblank, e, he, hclaim, hsome, rfl⟩
      exact ⟨line, e, hline, hblank, he, hclaim, hsome, rfl⟩
    · rintro ⟨line, e, hline, hblank, he, hclaim, hsome, rfl⟩
      exact ⟨line, hline, hblank, e, he, hclaim, hsome, rfl⟩
  · have hbot : botAfterLine (lastBot before) line = lastBot before := by
      rw [botAfterLine, hline]
      rfl
    have hnone : s.outcome backend (botAfterLine (lastBot before) line) line
        (s.storeAfter backend before st) = none := by
      rw [outcome, hline]
    rw [exec_run_append_last, exec_run_append_last, exec_run_cons, hnone, hbot,
      s.exec_step_malformed backend hline]
    rfl
  · refine ⟨?_, ?_⟩
    · rw [outcomeAt_length, outcome, hline]
      simp [hclaim]
    · rw [storeAfter_concat, s.exec_step_claimed backend hline hclaim]
  · rw [outcomeAt_length, storeAfter_concat, lastBot_concat]
    simp only [printed, exec_run_append_last, exec_run_cons, List.map_append]

end

/-- A session that announces its bots. -/
def sample : Session where
  settings := {}
  source := "relay"
  table := { rules := [{
    kind := .ready
    destination := ⟨.queue, "bots", [], ""⟩
    always := false
    allowBots := true
    allowMyself := true
    allowDirect := true }] }

def sampleReady : Event := .ready { user := { id := "3" } }

/-- A bot announces itself twice, with something in between that is no event. It is put out once, on
a line that tells what was routed. -/
theorem sample_routes_new_events :
    let key := "project-d:gateway:event-READY-" ++
      "9b2c1dce0502dabc3510cafd61f6d1f980db97f8a5ec9d2cae7dce4fd55518d2:relay"
    let line := "\x7b\"key\":\"" ++ key ++ "\",\"kind\":\"READY\",\"destinations\":[\x7b" ++
      "\"type\":\"queue\",\"name\":\"bots\",\"error_handlers\":[],\"alias\":\"\"\x7d]\x7d"
    sample.printed Host.backend "" [sampleReady.toJson, "oops", sampleReady.toJson] {} = [line]
    ∧ Routed.ofJson? line = some ⟨key, .ready, [⟨.queue, "bots", [], ""⟩]⟩ := by
  intro key line
  let ready := sampleReady.toJson
  have hready : Event.ofJson? ready = some sampleReady := Event.ofJson?_toJson sampleReady
  obtain ⟨hprinted, hread, -, hroutes, hmalformed, hclaimed, -⟩ :=
    sample.routes_new_events Host.backend [ready, ready] {}
  have hblank : isBlankLine ready = false := by
    rw [← Bool.not_eq_true]
    intro hblank
    exact nomatch hready.symm.trans (Event.ofJson?_of_isBlankLine hblank)
  have hkey : (Cache.claimKey sampleReady "relay").text "project-d" = key := by decide +kernel
  have hfirst : sample.outcomeAt Host.backend [ready, ready] {} 0
      = some ⟨key, .ready, [⟨.queue, "bots", [], ""⟩]⟩ := by
    rw [← hkey]
    exact (hroutes 0 _).mpr ⟨ready, sampleReady, rfl, hblank, hready, rfl, by decide, rfl⟩
  have hstore : sample.storeAfter Host.backend [ready] {}
      = (sample.exec Host.backend (sample.handle "3" sampleReady) {}).2 := by
    rw [storeAfter, run, exec_andThen, step, hready, exec_andThen]
    rfl
  have hagain : (sample.claim Host.backend sampleReady
      (sample.storeAfter Host.backend [ready] {})).1 = false := by
    rw [hstore]
    decide +kernel
  have hsecond : sample.outcomeAt Host.backend [ready, ready] {} 1 = none :=
    (hclaimed [ready] ready sampleReady hready hagain).1
  have houtcomes : (List.range [ready, ready].length).filterMap
      (sample.outcomeAt Host.backend [ready, ready] {})
        = [⟨key, .ready, [⟨.queue, "bots", [], ""⟩]⟩] := by
    simp [List.range_succ, hfirst, hsecond]
  have hskipped : sample.printed Host.backend "" [ready, "oops", ready] {}
      = sample.printed Host.backend "" [ready, ready] {} :=
    congrArg (fun out => out.1.map Routed.json) (hmalformed [ready] "oops" [ready] rfl)
  have hline : Routed.json ⟨key, .ready, [⟨.queue, "bots", [], ""⟩]⟩ = line := by decide +kernel
  have hlines : sample.printed Host.backend "" [ready, ready] {} = [line] := by
    rw [hprinted, houtcomes, List.map_singleton, hline]
  rw [hlines, houtcomes] at hread
  exact ⟨hskipped.trans hlines, List.singleton_inj.mp hread⟩

end Session

end GuildRelay
