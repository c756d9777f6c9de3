import GuildRelay.Proofs.Cache.BanRace
/-!
# How a race for a ban list ends

What a race leaves behind is told by `Race.Reachable.listed_iff`. No ban is lost, but the fetched
list wins over the events that were applied before it was written: whoever was named by the fetch
and unbanned before the list was written stays on it.

The proof follows one user at a time. As long as an event about a user is still to come, nothing has
to be known about them but that the last such event is right; otherwise the phase of the run tells
how the list and the truth about the user are related (`Race.Phase.Knows`).
-/

namespace GuildRelay

/-! ## Where the run and the handler are -/

/-- Nothing fails on the host, the bot may read the bans of the guild, and all values are among some
texts. -/
structure Host.Grants (ns botId guildId : String) (texts : Key → Option String) (h : Host) :
    Prop where
  faultless : ∀ n, h.faults n = none
  permitted : h.mayReadBans ns botId guildId = true
  known : ∀ k text, h.value ns k = some text → texts k = some text

theorem Host.Grants.call {ns botId guildId : String} {texts : Key → Option String} {h : Host}
    (hh : h.Grants ns botId guildId texts) {k : Key} {op : Operation}
    (hop : op.isRead = true ∨ op.isOnSet = true)
    (hmay : (h.call (k.text ns) op).2.mayReadBans ns botId guildId = true) :
    (h.call (k.text ns) op).2.Grants ns botId guildId texts :=
  ⟨Host.faults_call hh.faultless _ _, hmay, fun k text hlive =>
    hh.known k text (Host.value_of_value_call hh.faultless hop hlive)⟩

namespace Program

variable {ns botId guildId : String} {texts : Key → Option String} {h : Host}
variable {p : Program Key (Except CacheError Bool)} {α : Type}
variable {cont : Except CacheError Bool → Program Key α}

/-- On every such host the program reads its way to a yes. -/
def Permits (ns botId guildId : String) (texts : Key → Option String)
    (p : Program Key (Except CacheError Bool)) : Prop :=
  ∀ h : Host, h.Grants ns botId guildId texts → p.Reads (h.value ns) (.ok true)

theorem permits_canReadBans :
    (ExceptT.run (Cache.canReadBans botId guildId)).Permits ns botId guildId texts :=
  fun _ hh => Host.reads_canReadBans hh.faultless hh.permitted

/-- The next call is another question, unless the answer is known. -/
theorem Permits.call (hp : p.Permits ns botId guildId texts)
    (hh : h.Grants ns botId guildId texts) {k : Key} {op : Operation}
    {next : Except CacheError op.Reply → Program Key α}
    (heq : p.andThen cont = .call k op next) :
    cont (.ok true) = .call k op next
      ∨ (k.isBan = false ∧ op.isRead = true
        ∧ ∃ p' : Program Key (Except CacheError Bool), p'.Permits ns botId guildId texts
          ∧ next (h.call (k.text ns) op).1 = p'.andThen cont) := by
  cases hp h hh with
  | done => exact .inl heq
  | @get _ text next' _ hban htext _ =>
      cases heq
      refine .inr ⟨hban, rfl, next' (.ok (some text)), fun h' hh' => ?_, ?_⟩
      · cases hp h' hh' with
        | @get _ text' _ _ _ htext' hrest =>
            have hsame : some text' = some text :=
              (hh'.known _ _ htext').symm.trans (hh.known _ _ htext)
            rwa [Option.some.inj hsame] at hrest
      · rw [Host.reply_call hh.faultless]
        show (next' (.ok (h.value ns k))).andThen cont = _
        rw [htext]

theorem Permits.fetchBans (hp : p.Permits ns botId guildId texts)
    (hh : h.Grants ns botId guildId texts) {g : String}
    {next : Except CacheError (List Ban) → Program Key α}
    (heq : p.andThen cont = .fetchBans g next) : cont (.ok true) = .fetchBans g next := by
  cases hp h hh with
  | done => exact heq
  | get => cases heq

theorem Permits.done (hp : p.Permits ns botId guildId texts)
    (hh : h.Grants ns botId guildId texts) {a : α} (heq : p.andThen cont = .done a) :
    cont (.ok true) = .done a := by
  cases hp h hh with
  | done => exact heq
  | get => cases heq

end Program

namespace Race

/-- How far the run is. -/
inductive Phase where
  | before | cleared | fetched | written

/-- How the list and the truth about a user are related, when there is no event about them to come:
the list has the user, the user is banned, the fetch named the user, and an event about them came
after the list was written. -/
def Phase.Knows : Phase → (listed banned named told : Prop) → Prop
  | before, _, _, _, _ => True
  | cleared, listed, banned, _, _ => listed → banned
  | fetched, listed, banned, named, _ => (listed → banned) ∧ (banned → named ∨ listed)
  | written, listed, banned, named, told => listed ↔ banned ∨ (named ∧ ¬told)

/-- An event that is right settles everything. -/
theorem Phase.knows_told (phase : Phase) (banned named : Prop) :
    phase.Knows banned banned named True := by
  cases phase with
  | before => trivial
  | cleared => exact id
  | fetched => exact ⟨id, .inr⟩
  | written => exact ⟨.inl, fun h => h.elim id fun h => absurd trivial h.2⟩

section

variable (ns botId guildId : String) (texts : Key → Option String)

/-- What is left of the run in a phase. -/
inductive RunAt (fetched : List String) : Program Key (Except CacheError Unit) → Phase → Prop
  | checking {p : Program Key (Except CacheError Bool)}
      {cont : Except CacheError Bool → Program Key (Except CacheError Unit)} :
      p.Permits ns botId guildId texts →
      cont (.ok true) = ExceptT.run (Cache.fillBans guildId) →
      RunAt fetched (p.andThen cont) .before
  | clearing : RunAt fetched (ExceptT.run (Cache.refillBans guildId)) .before
  | fetching : RunAt fetched (ExceptT.run (Cache.fetchAndWriteBans guildId)) .cleared
  | writing : RunAt fetched (ExceptT.run (Cache.writeBans guildId fetched)) .fetched
  | marking : RunAt fetched (ExceptT.run (Cache.markFilled guildId)) .written
  | finished : RunAt fetched (.done (.ok ())) .written

/-- What is left of the handler, and the changes that it has not written yet. -/
inductive HandlerAt (pending : List BanChange) :
    Option (BanChange × Program Key (Except CacheError (Option String))) → List BanChange → Prop
  | idle : HandlerAt pending none pending
  | applying {c : BanChange} {p : Program Key (Except CacheError Bool)}
      {cont : Except CacheError Bool → Program Key (Except CacheError (Option String))}
      {next : Except CacheError c.op.Reply → Program Key (Except CacheError (Option String))} :
      p.Permits ns botId guildId texts →
      cont (.ok true) = .call (.guildBannedUserIds guildId) c.op next →
      (∀ reply, next (.ok reply) = .done (.ok none)) →
      HandlerAt pending (some (c, p.andThen cont)) (c :: pending)
  | applied {c : BanChange} {result : Except CacheError (Option String)} :
      HandlerAt pending (some (c, .done result)) pending

end

variable {ns botId guildId : String} {texts : Key → Option String} {h : Host}

/-- What the next call of the run does. -/
theorem RunAt.call {fetched : List String} {p : Program Key (Except CacheError Unit)}
    {phase : Phase} (hp : RunAt ns botId guildId texts fetched p phase)
    (hh : h.Grants ns botId guildId texts)
    (hmark : phase = .before → guildId ∉ h.members ns .banInitializedGuildIds) {k : Key}
    {op : Operation} {next : Except CacheError op.Reply → Program Key (Except CacheError Unit)}
    (heq : p = .call k op next) :
    ∃ phase', RunAt ns botId guildId texts fetched (next (h.call (k.text ns) op).1) phase'
      ∧ ((phase' = phase ∧ op.isRead = true ∧ k ≠ .guildBannedUserIds guildId)
        ∨ (phase' = .cleared ∧ k = .guildBannedUserIds guildId ∧ op = .delete)
        ∨ (phase = .fetched ∧ phase' = .written ∧ k = .guildBannedUserIds guildId
          ∧ op = .addToSet fetched)
        ∨ (phase' = phase ∧ phase = .written ∧ k = .banInitializedGuildIds
          ∧ op = .addToSet [guildId])) := by
  have hreply := Host.reply_call hh.faultless (k.text ns) op
  cases hp with
  | @checking p cont hpermits hcont =>
      rcases hpermits.call hh heq with hyes | ⟨hban, hread, p', hp', hnext⟩
      · rw [hcont] at hyes
        cases hyes
        rw [hreply, Host.reply_isSetMember_of_not_mem (hmark rfl)]
        exact ⟨.before, .clearing, .inl ⟨rfl, rfl, nofun⟩⟩
      · rw [hnext]
        refine ⟨.before, .checking hp' hcont, .inl ⟨rfl, hread, ?_⟩⟩
        rintro rfl
        cases hban
  | clearing =>
      cases heq
      rw [hreply]
      exact ⟨.cleared, .fetching, .inr (.inl ⟨rfl, rfl, rfl⟩)⟩
  | fetching => cases heq
  | writing =>
      cases heq
      rw [hreply]
      exact ⟨.written, .marking, .inr (.inr (.inl ⟨rfl, rfl, rfl, rfl⟩))⟩
  | marking =>
      cases heq
      rw [hreply]
      exact ⟨.written, .finished, .inr (.inr (.inr ⟨rfl, rfl, rfl, rfl⟩))⟩
  | finished => cases heq

/-- After the fetch the list is written that it brought. -/
theorem RunAt.fetch {fetched : List String} {p : Program Key (Except CacheError Unit)}
    {phase : Phase} (hp : RunAt ns botId guildId texts fetched p phase)
    (hh : h.Grants ns botId guildId texts) {g : String}
    {next : Except CacheError (List Ban) → Program Key (Except CacheError Unit)}
    (heq : p = .fetchBans g next) :
    phase = .cleared ∧ ∀ bans : List Ban, RunAt ns botId guildId texts
      (bans.map fun ban => ban.user.id) (next (.ok bans)) .fetched := by
  cases hp with
  | checking hpermits hcont =>
      have hyes := hpermits.fetchBans hh heq
      rw [hcont] at hyes
      cases hyes
  | fetching =>
      cases heq
      exact ⟨rfl, fun _ => .writing⟩
  | _ => cases heq

theorem RunAt.done {fetched : List String} {p : Program Key (Except CacheError Unit)}
    {phase : Phase} (hp : RunAt ns botId guildId texts fetched p phase)
    (hh : h.Grants ns botId guildId texts) {result : Except CacheError Unit}
    (heq : p = .done result) : phase = .written := by
  cases hp with
  | checking hpermits hcont =>
      have hyes := hpermits.done hh heq
      rw [hcont] at hyes
      cases hyes
  | finished => rfl
  | _ => cases heq

/-- More changes upstream do not concern the handler yet. -/
theorem HandlerAt.concat {pending unapplied : List BanChange}
    {handler : Option (BanChange × Program Key (Except CacheError (Option String)))}
    (hat : HandlerAt ns botId guildId texts pending handler unapplied) (c : BanChange) :
    HandlerAt ns botId guildId texts (pending ++ [c]) handler (unapplied ++ [c]) := by
  cases hat with
  | idle => exact .idle
  | applying hp hcont hnext => exact .applying hp hcont hnext
  | applied => exact .applied

/-- What the next call of the handler does. -/
theorem HandlerAt.call {pending unapplied : List BanChange} {c : BanChange} {k : Key}
    {op : Operation}
    {next : Except CacheError op.Reply → Program Key (Except CacheError (Option String))}
    (hat : HandlerAt ns botId guildId texts pending (some (c, .call k op next)) unapplied)
    (hh : h.Grants ns botId guildId texts) :
    ∃ unapplied', HandlerAt ns botId guildId texts pending
        (some (c, next (h.call (k.text ns) op).1)) unapplied'
      ∧ ((unapplied' = unapplied ∧ op.isRead = true ∧ k ≠ .guildBannedUserIds guildId)
        ∨ (unapplied = c :: unapplied' ∧ k = .guildBannedUserIds guildId ∧ op = c.op)) := by
  generalize hhandler : some (c, Program.call k op next) = handler at hat
  cases hat with
  | idle => cases hhandler
  | @applying c' p cont _ hp hcont hnext =>
      obtain ⟨rfl, heq⟩ := Prod.mk.injEq .. |>.mp (Option.some.inj hhandler)
      rcases hp.call hh heq.symm with hyes | ⟨hban, hread, p', hp', hrest⟩
      · rw [hcont] at hyes
        cases hyes
        rw [Host.reply_call hh.faultless, hnext]
        exact ⟨pending, .applied, .inr ⟨rfl, rfl, rfl⟩⟩
      · rw [hrest]
        refine ⟨_, .applying hp' hcont hnext, .inl ⟨rfl, hread, ?_⟩⟩
        rintro rfl
        cases hban
  | applied => cases hhandler

theorem HandlerAt.finish {pending unapplied : List BanChange} {c : BanChange}
    {result : Except CacheError (Option String)}
    (hat : HandlerAt ns botId guildId texts pending (some (c, .done result)) unapplied)
    (hh : h.Grants ns botId guildId texts) : unapplied = pending := by
  generalize hhandler : some (c, Program.done result) = handler at hat
  cases hat with
  | idle => cases hhandler
  | applying hp hcont hnext =>
      obtain ⟨rfl, heq⟩ := Prod.mk.injEq .. |>.mp (Option.some.inj hhandler)
      have hyes := hp.done hh heq.symm
      rw [hcont] at hyes
      cases hyes
  | applied => rfl

/-! ## What is known during a race -/

/-- What is known in a phase, with the changes that are not written yet. -/
structure Traced (ns botId guildId : String) (texts : Key → Option String) (r : Race)
    (phase : Phase) (unapplied : List BanChange) : Prop where
  host : r.host.Grants ns botId guildId texts
  run : RunAt ns botId guildId texts r.fetched r.run phase
  handler : HandlerAt ns botId guildId texts r.pending r.handler unapplied
  unmarked : phase = .before → guildId ∉ r.host.members ns .banInitializedGuildIds
  last : ∀ u c, lastWith BanChange.userId u unapplied = some c → (u ∈ r.upstream ↔ c.isBan = true)
  known : ∀ u, lastWith BanChange.userId u unapplied = none →
    phase.Knows (u ∈ r.host.members ns (.guildBannedUserIds guildId)) (u ∈ r.upstream)
      (u ∈ r.fetched) (u ∈ r.told)

variable {settings : CacheSettings} {r r' : Race} {phase : Phase} {unapplied : List BanChange}

theorem Traced.change (hr : Traced ns botId guildId texts r phase unapplied) (c : BanChange) :
    Traced ns botId guildId texts
      { r with upstream := c.applyTo r.upstream, pending := r.pending ++ [c] } phase
      (unapplied ++ [c]) where
  host := hr.host
  run := hr.run
  handler := hr.handler.concat c
  unmarked := hr.unmarked
  last u c' hlast := by
    rw [lastWith_concat] at hlast
    split at hlast
    · next heq =>
      rw [← heq, ← Option.some.inj hlast]
      exact c.mem_applyTo_self r.upstream
    · next hne =>
      show u ∈ c.applyTo r.upstream ↔ _
      rw [BanChange.mem_applyTo_of_ne (Ne.symm hne)]
      exact hr.last u c' hlast
  known u hlast := by
    rw [lastWith_concat] at hlast
    split at hlast
    · cases hlast
    · next hne =>
      simpa only [BanChange.mem_applyTo_of_ne (Ne.symm hne)] using hr.known u hlast

theorem Traced.handle (hr : Traced ns botId guildId texts r phase unapplied) {c : BanChange}
    {k : Key} {op : Operation}
    {next : Except CacheError op.Reply → Program Key (Except CacheError (Option String))}
    (hhandler : r.handler = some (c, .call k op next))
    (hmay : (r.host.call (k.text ns) op).2.mayReadBans ns botId guildId = true) :
    ∃ unapplied', Traced ns botId guildId texts
      { r with
        host := (r.host.call (k.text ns) op).2
        handler := some (c, next (r.host.call (k.text ns) op).1)
        told := if k = .guildBannedUserIds guildId then c.userId :: r.told else r.told }
      phase unapplied' := by
  have hf := hr.host.faultless
  have hat := hr.handler
  rw [hhandler] at hat
  obtain ⟨unapplied', hat', ⟨rfl, hread, hne⟩ | ⟨rfl, rfl, rfl⟩⟩ := hat.call hr.host
  · refine ⟨unapplied', hr.host.call (.inl hread) hmay, hr.run, hat', fun hphase => ?_, hr.last,
      fun u hlast => ?_⟩
    · rw [Host.members_call_of_isRead hf hread]
      exact hr.unmarked hphase
    · rw [Host.members_call_of_isRead hf hread, if_neg hne]
      exact hr.known u hlast
  · have hlisted : (r.host.call ((Key.guildBannedUserIds guildId).text ns) c.op).2.members ns
        (.guildBannedUserIds guildId)
          = c.applyTo (r.host.members ns (.guildBannedUserIds guildId)) := by
      rw [Host.members_call hf, if_pos rfl, c.members_answer_op]
      rfl
    refine ⟨unapplied', hr.host.call (.inr c.isOnSet_op) hmay, hr.run, hat', fun hphase => ?_,
      fun u c' hlast => ?_, fun u hlast => ?_⟩
    · rw [Host.members_call hf, if_neg (Key.text_guildBannedUserIds_ne ns guildId).symm]
      exact hr.unmarked hphase
    · refine hr.last u c' ?_
      rw [lastWith_cons, hlast, Option.some_or]
    · rw [hlisted, if_pos rfl]
      by_cases heq : u = c.userId
      · -- The event was the last about its user, so it is right.
        subst heq
        have hright : c.userId ∈ r.upstream ↔ c.isBan = true := by
          refine hr.last _ c ?_
          rw [lastWith_cons, hlast, Option.none_or, if_pos rfl]
        simpa [hright, c.mem_applyTo_self] using phase.knows_told (c.isBan = true) _
      · have hknown := hr.known u (by
          rw [lastWith_cons, hlast, Option.none_or, if_neg (Ne.symm heq)])
        simpa [BanChange.mem_applyTo_of_ne heq, heq] using hknown

theorem Traced.call (hr : Traced ns botId guildId texts r phase unapplied) {k : Key}
    {op : Operation} {next : Except CacheError op.Reply → Program Key (Except CacheError Unit)}
    (hrun : r.run = .call k op next)
    (hmay : (r.host.call (k.text ns) op).2.mayReadBans ns botId guildId = true) :
    ∃ phase', Traced ns botId guildId texts
      { r with
        host := (r.host.call (k.text ns) op).2
        run := next (r.host.call (k.text ns) op).1
        told := if k = .guildBannedUserIds guildId then [] else r.told }
      phase' unapplied := by
  have hf := hr.host.faultless
  obtain ⟨phase', hat, hcases⟩ := hr.run.call hr.host hr.unmarked hrun
  rcases hcases with
    ⟨rfl, hread, hne⟩ | ⟨rfl, rfl, rfl⟩ | ⟨rfl, rfl, rfl, rfl⟩ | ⟨rfl, rfl, rfl, rfl⟩
  · refine ⟨phase', hr.host.call (.inl hread) hmay, hat, hr.handler, fun hphase => ?_, hr.last,
      fun u hlast => ?_⟩
    · rw [Host.members_call_of_isRead hf hread]
      exact hr.unmarked hphase
    · rw [Host.members_call_of_isRead hf hread, if_neg hne]
      exact hr.known u hlast
  · refine ⟨.cleared, hr.host.call (.inr rfl) hmay, hat, hr.handler, nofun, hr.last,
      fun u _ hlisted => ?_⟩
    rw [Host.members_call hf, if_pos rfl] at hlisted
    exact absurd hlisted List.not_mem_nil
  · refine ⟨.written, hr.host.call (.inr rfl) hmay, hat, hr.handler, nofun, hr.last,
      fun u hlast => ?_⟩
    obtain ⟨hright, hmissed⟩ := hr.known u hlast
    have hlisted : u ∈ (r.host.call ((Key.guildBannedUserIds guildId).text ns)
        (.addToSet r.fetched)).2.members ns (.guildBannedUserIds guildId)
          ↔ u ∈ r.fetched ∨ u ∈ r.host.members ns (.guildBannedUserIds guildId) := by
      rw [Host.members_call hf, if_pos rfl]
      exact mem_insertAll
    show _ ↔ _ ∨ (_ ∧ u ∉ if _ then [] else _)
    rw [hlisted, if_pos rfl]
    constructor
    · rintro (hnamed | hold)
      · exact .inr ⟨hnamed, List.not_mem_nil⟩
      · exact .inl (hright hold)
    · rintro (hbanned | ⟨hnamed, -⟩)
      · exact hmissed hbanned
      · exact .inl hnamed
  · refine ⟨.written, hr.host.call (.inr rfl) hmay, hat, hr.handler, nofun, hr.last,
      fun u hlast => ?_⟩
    rw [Host.members_call hf, if_neg (Key.text_guildBannedUserIds_ne ns guildId), if_neg nofun]
    exact hr.known u hlast

/-- Whatever happens next in a race, it is known where the race is. -/
theorem Traced.step (hr : Traced ns botId guildId texts r phase unapplied)
    (hstep : Step ns settings botId guildId r r')
    (hmay : r'.host.mayReadBans ns botId guildId = true) :
    ∃ phase' unapplied', Traced ns botId guildId texts r' phase' unapplied' := by
  cases hstep with
  | wait hnow =>
      refine ⟨phase, unapplied, ⟨hr.host.faultless, hmay, fun k text hlive => ?_⟩, hr.run,
        hr.handler, hr.unmarked, hr.last, hr.known⟩
      exact hr.host.known k text (Host.value_of_value_wait hnow hlive)
  | change c => exact ⟨phase, _, hr.change c⟩
  | @receive c rest hhandler hpending =>
      have hat := hr.handler
      rw [hhandler, hpending] at hat
      cases hat with
      | idle =>
          obtain ⟨cont, hrun, next, hcont, hnext⟩ :=
            Cache.run_apply_event settings botId guildId c
          refine ⟨phase, c :: rest, hr.host, hr.run, ?_, hr.unmarked, hr.last, hr.known⟩
          simp only [hrun]
          exact .applying Program.permits_canReadBans hcont hnext
  | handle hhandler =>
      obtain ⟨unapplied', hr'⟩ := hr.handle hhandler hmay
      exact ⟨phase, unapplied', hr'⟩
  | finish hhandler =>
      have hat := hr.handler
      rw [hhandler] at hat
      obtain rfl := hat.finish hr.host
      exact ⟨phase, _, hr.host, hr.run, .idle, hr.unmarked, hr.last, hr.known⟩
  | call hrun =>
      obtain ⟨phase', hr'⟩ := hr.call hrun hmay
      exact ⟨phase', unapplied, hr'⟩
  | fetch hrun _ hbans =>
      obtain ⟨rfl, hat⟩ := hr.run.fetch hr.host hrun
      refine ⟨.fetched, unapplied, ⟨hr.host.faultless, hmay, hr.host.known⟩, hat _, hr.handler,
        nofun, hr.last, fun u hlast => ⟨hr.known u hlast, fun hbanned => .inl ?_⟩⟩
      exact (hbans u).mpr hbanned

/-- It is known where a race is. -/
theorem Reachable.traced (hr : Reachable ns settings botId guildId r) :
    ∃ texts phase unapplied, Traced ns botId guildId texts r phase unapplied := by
  induction hr with
  | @start h upstream hfaults hmay hunmarked =>
      obtain ⟨cont, hrun, hcont⟩ := Cache.run_initializeBans guildId botId
      refine ⟨h.value ns, .before, [], ⟨hfaults, hmay, fun _ _ => id⟩, ?_, .idle,
        fun _ => hunmarked, nofun, fun _ _ => trivial⟩
      simp only [hrun]
      exact .checking Program.permits_canReadBans hcont
  | step _ hstep hmay ih =>
      obtain ⟨texts, phase, unapplied, hr⟩ := ih
      exact ⟨texts, hr.step hstep hmay⟩

/-- When the run has ended and all events have been applied, the list has the users who are banned,
and besides them those whom the fetched list named and about whom no event was applied after it was
written. -/
theorem Reachable.listed_iff (hr : Reachable ns settings botId guildId r)
    {result : Except CacheError Unit} (hrun : r.run = .done result) (hhandler : r.handler = none)
    (hpending : r.pending = []) (userId : String) :
    userId ∈ r.host.members ns (.guildBannedUserIds guildId)
      ↔ userId ∈ r.upstream ∨ (userId ∈ r.fetched ∧ userId ∉ r.told) := by
  obtain ⟨texts, phase, unapplied, htraced⟩ := hr.traced
  obtain rfl := htraced.run.done htraced.host hrun
  have hat := htraced.handler
  rw [hhandler, hpending] at hat
  cases hat with
  | idle => exact htraced.known userId rfl

theorem sample_listed_iff : ∃ r, Reachable "relay" {} "3" "1" r
    ∧ r.run = .done (.ok ()) ∧ r.handler = none ∧ r.pending = []
    ∧ ("7" ∈ r.host.members "relay" (.guildBannedUserIds "1")
      ↔ "7" ∈ r.upstream ∨ ("7" ∈ r.fetched ∧ "7" ∉ r.told)) := by
  obtain ⟨r, hr, hrun, hhandler, hpending, -, -⟩ := sample_exists_overtaken
  exact ⟨r, hr, hrun, hhandler, hpending, hr.listed_iff hrun hhandler hpending "7"⟩

/-- A race may leave users on the list who are not banned: the bot `3` owns the guild `1`, the list
that is fetched names `7`, and the event by which `7` is unbanned is applied before the list is
written. -/
theorem sample_overtaken : ¬ ∀ r, Reachable "relay" {} "3" "1" r →
    r.run = .done (.ok ()) → r.handler = none → r.pending = [] →
    ∀ userId, userId ∈ r.host.members "relay" (.guildBannedUserIds "1") ↔ userId ∈ r.upstream := by
  intro hclaim
  obtain ⟨r, hr, hrun, hhandler, hpending, hlisted, hgone⟩ := sample_exists_overtaken
  exact hgone ((hclaim r hr hrun hhandler hpending "7").mp hlisted)

end Race

end GuildRelay
