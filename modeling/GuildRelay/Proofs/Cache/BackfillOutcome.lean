import GuildRelay.Proofs.Cache.BanCheck
import GuildRelay.Proofs.Cache.Pauses
/-!
# How a backfill ends

A run in the background asks for the ban list of a guild up to three times, and the last reply is
all that its end depends on. An attempt that fails has dropped the list by then but has not touched
the mark, and it has changed no record, so the next attempt starts from a host that is as good as
the one before (`Host.CanFill`, kept by `Host.Tried.canFill`). The induction is on the attempts that
are left.

Time passes between the attempts, and while a bot's permission is looked up. That changes nothing as
long as nothing expires (`Host.Lasting`).
-/

namespace GuildRelay

/-! ## Hosts on which nothing fails or expires -/

namespace Host

variable {ns : String} {h h₁ h' : Host} {k : Key} {op : Operation} {now : Nat}

/-- No value is kept to expire. -/
def Lasting (h : Host) : Prop :=
  ∀ name, ∀ v ∈ (h.store.cell name).value, v.expiry = none

theorem Lasting.liveValue_eq (hlasting : h.Lasting) (name : String) (now : Nat) :
    (h.store.cell name).liveValue now = (h.store.cell name).value.map (·.text) := by
  unfold Cell.liveValue
  cases hv : (h.store.cell name).value with
  | none => rfl
  | some v => simp [StoredValue.isLive, hlasting name v hv]

theorem Shows.lasting {s : Surroundings} {v : View} (hv : h.Shows ns s v)
    (hf : s.fading = false) : h.Lasting := by
  intro name
  by_cases hplain : ∃ k : Key, k.IsPlain ∧ k.text ns = name
  · obtain ⟨k, hk, rfl⟩ := hplain
    exact (hv.plain k hk).lasting hf
  · rw [hv.other name fun k hk hname => hplain ⟨k, hk, hname⟩]
    exact fun v hv => absurd hv (Option.not_mem_none v)

/-- A call was answered from the store at some moment. -/
structure Answered (ns : String) (k : Key) (op : Operation) (now : Nat) (h h' : Host) : Prop where
  faults : h'.faults = h.faults
  banLists : h'.banLists = h.banLists
  fetches : h'.fetches = h.fetches
  self : h'.store.cell (k.text ns) = ((h.store.cell (k.text ns)).answer now op).2
  other : ∀ name, name ≠ k.text ns → h'.store.cell name = h.store.cell name

theorem Called.answered {reply : Except CacheError op.Reply} (hc : Called ns k op h reply h')
    (hf : ∀ n, h.faults n = none) : ∃ now,
      reply = .ok ((h.store.cell (k.text ns)).answer now op).1 ∧ Answered ns k op now h h' := by
  rcases hc.outcome with ⟨e, hfault, -, -⟩ | ⟨now, -, hreply, hstore⟩
  · rw [hf] at hfault
    cases hfault
  · refine ⟨now, hreply, hc.faults, hc.banLists, hc.fetches, ?_, fun name hname => ?_⟩
    · rw [hstore, Store.cell_answer, if_pos rfl]
    · rw [hstore, Store.cell_answer, if_neg hname]

/-- The hosts are the same but for the time and the calls. -/
structure Agrees (h h' : Host) : Prop where
  faults : h'.faults = h.faults
  banLists : h'.banLists = h.banLists
  fetches : h'.fetches = h.fetches
  cell : ∀ name, h'.store.cell name = h.store.cell name

theorem Answered.agrees (ha : Answered ns k op now h h') (hop : op.isRead = true) :
    h.Agrees h' := by
  refine ⟨ha.faults, ha.banLists, ha.fetches, fun name => ?_⟩
  by_cases hname : name = k.text ns
  · rw [hname, ha.self, Cell.answer_of_isRead hop]
  · exact ha.other name hname

end Host

namespace Program

variable {α : Type} {ns : String} {h h' : Host}

theorem FetchesNothing.fetches_eq {p : Program Key α} {a : α} (hp : p.FetchesNothing)
    (hrun : p.Finishes ns h a h') : h'.fetches = h.fetches := by
  induction hrun with
  | done => rfl
  | @call k op _ h _ _ now _ _ ih =>
      exact (ih (hp _)).trans (Host.called_call ns k op h now).fetches
  | fetch => exact hp.elim

theorem OnlyReads.agrees {p : Program Key α} {a : α} (hp : p.OnlyReads)
    (hrun : p.Finishes ns h a h') : h.Agrees h' := by
  refine ⟨hrun.faults_eq, hrun.banLists_eq, hp.fetchesNothing.fetches_eq hrun, fun name => ?_⟩
  exact (hp.makes (P := fun _ op => op.isRead = true) fun _ _ hop => hop).cell_eq
    (fun _ _ hop => .inl hop) hrun

/-- Whatever time it takes, a program that needs texts comes to its result where they last. -/
theorem Reads.result {p : Program Key α} {a r : α} {texts : Key → Option String}
    (hp : p.Reads texts a) (hf : ∀ n, h.faults n = none)
    (htexts : ∀ k now, (h.store.cell (k.text ns)).liveValue now = texts k)
    (hrun : p.Finishes ns h r h') : r = a := by
  induction hp generalizing h with
  | done a =>
      cases hrun
      rfl
  | @get k text next a _ htext _ ih =>
      cases hrun with
      | call now _ hrest =>
          have hcalled := Host.called_call ns k .get h now
          obtain ⟨now', hreply, hanswered⟩ := hcalled.answered hf
          have hfound : ({ h with now }.call (k.text ns) .get).1 = .ok (some text) := by
            rw [hreply, ← htext, ← htexts k now']
            rfl
          rw [hfound] at hrest
          refine ih (fun n => ?_) (fun k' now => ?_) hrest
          · rw [hanswered.faults]
            exact hf n
          · rw [hcalled.cell_eq (.inl rfl)]
            exact htexts k' now

end Program

namespace Action

variable {α β : Type} {ns : String} {h h' : Host}

/-- Where no call fails, a sequence goes on with the answer to its first call. -/
theorem finishes_of_ask_bind {k : Key} {op : Operation} {f : op.Reply → Action Key β}
    {r : Except CacheError β} (hf : ∀ n, h.faults n = none)
    (hrun : (ExceptT.run (ask k op >>= f)).Finishes ns h r h') :
    ∃ now h₁, h.Answered ns k op now h₁
      ∧ (ExceptT.run (f ((h.store.cell (k.text ns)).answer now op).1)).Finishes ns h₁ r h' := by
  rcases finishes_of_bind hrun with ⟨e, -, hask⟩ | ⟨answer, h₁, hask, hrest⟩
  · obtain ⟨now, hreply, -⟩ := (called_of_finishes hask).answered hf
    cases hreply
  · obtain ⟨now, hreply, hanswered⟩ := (called_of_finishes hask).answered hf
    rw [Except.ok.inj hreply] at hrest
    exact ⟨now, h₁, hanswered, hrest⟩

end Action

/-! ## One attempt -/

/-- The users that a reply names. -/
def bannedIn : Except CacheError (List Ban) → List String
  | .ok bans => bans.map fun ban => ban.user.id
  | .error _ => []

/-- The guilds that are marked for a reply. -/
def markedBy (guildId : String) : Except CacheError (List Ban) → List String
  | .ok _ => [guildId]
  | .error _ => []

namespace Host

variable {ns botId guildId : String} {h h₁ h' : Host} {n : Nat}
  {reply : Except CacheError (List Ban)}

/-- A run for the ban list of a guild will fetch it. -/
structure CanFill (ns botId guildId : String) (h : Host) : Prop where
  faultless : ∀ n, h.faults n = none
  lasting : h.Lasting
  noValue : (h.store.cell ((Key.guildBannedUserIds guildId).text ns)).value = none
  mayRead : h.mayReadBans ns botId guildId = true
  unmarked : guildId ∉ h.members ns .banInitializedGuildIds

/-- The ban list of a guild was asked for some times, the last time with a reply. -/
structure Tried (ns guildId : String) (h : Host) (n : Nat)
    (reply : Except CacheError (List Ban)) (h' : Host) : Prop where
  faults : h'.faults = h.faults
  banLists : h'.banLists = h.banLists
  fetches : h'.fetches = List.replicate n guildId ++ h.fetches
  list : h'.store.cell ((Key.guildBannedUserIds guildId).text ns)
    = { members := insertAll (bannedIn reply) [] }
  marks : h'.store.cell (Key.banInitializedGuildIds.text ns)
    = { h.store.cell (Key.banInitializedGuildIds.text ns) with
        members := insertAll (markedBy guildId reply) (h.members ns .banInitializedGuildIds) }
  other : ∀ name, name ≠ (Key.guildBannedUserIds guildId).text ns →
    name ≠ Key.banInitializedGuildIds.text ns → h'.store.cell name = h.store.cell name

theorem Tried.of_agrees (hsame : h.Agrees h₁) (ht : h₁.Tried ns guildId n reply h') :
    h.Tried ns guildId n reply h' where
  faults := ht.faults.trans hsame.faults
  banLists := ht.banLists.trans hsame.banLists
  fetches := by rw [ht.fetches, hsame.fetches]
  list := ht.list
  marks := by rw [ht.marks, hsame.cell, members_of_cell (hsame.cell _)]
  other name hlist hmark := (ht.other name hlist hmark).trans (hsame.cell name)

/-- An attempt that failed has left no mark. -/
theorem Tried.marks_of_error {e : CacheError} (ht : h.Tried ns guildId n (.error e) h') :
    h'.store.cell (Key.banInitializedGuildIds.text ns)
      = h.store.cell (Key.banInitializedGuildIds.text ns) :=
  ht.marks

theorem Tried.cell_eq_of_error {e : CacheError} (ht : h.Tried ns guildId n (.error e) h')
    {name : String} (hname : name ≠ (Key.guildBannedUserIds guildId).text ns) :
    h'.store.cell name = h.store.cell name := by
  by_cases hmark : name = Key.banInitializedGuildIds.text ns
  · rw [hmark]
    exact ht.marks
  · exact ht.other name hname hmark

theorem Tried.canFill {e : CacheError} (ht : h.Tried ns guildId n (.error e) h')
    (hh : h.CanFill ns botId guildId) : h'.CanFill ns botId guildId := by
  have hvalue (name : String) : (h'.store.cell name).value = (h.store.cell name).value := by
    by_cases hname : name = (Key.guildBannedUserIds guildId).text ns
    · rw [hname, ht.list, hh.noValue]
    · rw [ht.cell_eq_of_error hname]
  have hfaultless : ∀ n, h'.faults n = none := by
    rw [ht.faults]
    exact hh.faultless
  have hlasting : h'.Lasting := by
    intro name v hv
    rw [hvalue] at hv
    exact hh.lasting name v hv
  refine ⟨hfaultless, hlasting, (hvalue _).trans hh.noValue, ?_, ?_⟩
  · refine mayReadBans_of_value hh.faultless hh.mayRead hfaultless (funext fun k => ?_)
    show (h'.store.cell (k.text ns)).liveValue h'.now = (h.store.cell (k.text ns)).liveValue h.now
    rw [hlasting.liveValue_eq, hh.lasting.liveValue_eq, hvalue]
  · rw [members_of_cell (k := .banInitializedGuildIds) ht.marks]
    exact hh.unmarked

/-- More attempts after one that failed. -/
theorem Tried.succ {e : CacheError} (hfirst : h.Tried ns guildId 1 (.error e) h₁)
    (hrest : h₁.Tried ns guildId n reply h') : h.Tried ns guildId (n + 1) reply h' := by
  refine ⟨hrest.faults.trans hfirst.faults, hrest.banLists.trans hfirst.banLists, ?_, hrest.list,
    ?_, fun name hlist hmark => (hrest.other name hlist hmark).trans
      (hfirst.other name hlist hmark)⟩
  · rw [hrest.fetches, hfirst.fetches, List.replicate_succ' (n := n), List.append_assoc]
    rfl
  · rw [hrest.marks, members_of_cell (k := .banInitializedGuildIds) hfirst.marks]
    rw [hfirst.marks_of_error]

end Host

namespace Cache

open GuildRelay.Action

variable {ns botId guildId : String} {h h' : Host}

theorem tried_of_refillBans {r : Except CacheError Unit} (hf : ∀ n, h.faults n = none)
    (hrun : (ExceptT.run (refillBans guildId)).Finishes ns h r h') :
    r = (h.banLists h.fetches guildId).map (fun _ => ())
      ∧ h.Tried ns guildId 1 (h.banLists h.fetches guildId) h' := by
  have hother := Key.text_guildBannedUserIds_ne ns guildId
  obtain ⟨_, h₁, hdrop, hrun⟩ := finishes_of_ask_bind hf hrun
  rw [← hdrop.banLists, ← hdrop.fetches]
  have hdropped : h₁.store.cell ((Key.guildBannedUserIds guildId).text ns) = {} := hdrop.self
  rcases finishes_of_bind hrun with ⟨e, rfl, hfetch⟩ | ⟨bans, h₂, hfetch, hrun⟩
  · obtain ⟨hreply, now, rfl⟩ := fetched_of_finishes hfetch
    rw [← hreply]
    exact ⟨rfl, hdrop.faults, hdrop.banLists, congrArg (guildId :: ·) hdrop.fetches, hdropped,
      hdrop.other _ hother.symm, fun name hlist _ => hdrop.other name hlist⟩
  · obtain ⟨hreply, now, rfl⟩ := fetched_of_finishes hfetch
    rw [← hreply]
    have hf₂ : ∀ n, h₁.faults n = none := by
      rw [hdrop.faults]
      exact hf
    obtain ⟨_, h₃, hlist, hrun⟩ := finishes_of_ask_bind (h := { h₁ with
      now, fetches := guildId :: h₁.fetches }) hf₂ hrun
    have hf₃ : ∀ n, h₃.faults n = none := by
      rw [hlist.faults]
      exact hf₂
    obtain ⟨_, hmarked, hmark⟩ := (called_of_finishes hrun).answered hf₃
    refine ⟨hmarked, ?_, ?_, ?_, ?_, ?_, ?_⟩
    · rw [hmark.faults, hlist.faults, ← hdrop.faults]
    · rw [hmark.banLists, hlist.banLists, ← hdrop.banLists]
    · rw [hmark.fetches, hlist.fetches, ← hdrop.fetches]
      rfl
    · rw [hmark.other _ hother, hlist.self]
      show ((h₁.store.cell _).answer _ _).2 = _
      rw [hdropped]
      rfl
    · rw [hmark.self, hlist.other _ hother.symm]
      show ((h₁.store.cell _).answer _ _).2 = _
      rw [hdrop.other _ hother.symm]
      rfl
    · intro name hname hname'
      rw [hmark.other name hname', hlist.other name hname]
      exact hdrop.other name hname

/-- One attempt, where the bot may read the bans and the guild is not marked. -/
theorem tried_of_initializeBans {r : Except CacheError Unit} (hh : h.CanFill ns botId guildId)
    (hrun : (ExceptT.run (initializeBans guildId botId)).Finishes ns h r h') :
    r = (h.banLists h.fetches guildId).map (fun _ => ())
      ∧ h.Tried ns guildId 1 (h.banLists h.fetches guildId) h' := by
  have hresult {r : Except CacheError Bool} {h₁ : Host}
      (hcheck : (ExceptT.run (canReadBans botId guildId)).Finishes ns h r h₁) : r = .ok true := by
    refine (Host.reads_canReadBans hh.faultless hh.mayRead).result hh.faultless
      (fun k now => ?_) hcheck
    show (h.store.cell (k.text ns)).liveValue now = (h.store.cell (k.text ns)).liveValue h.now
    rw [hh.lasting.liveValue_eq, hh.lasting.liveValue_eq]
  rw [initializeBans_eq] at hrun
  rcases finishes_of_bind hrun with ⟨e, -, hcheck⟩ | ⟨allowed, h₁, hcheck, hrun⟩
  · cases hresult hcheck
  · obtain rfl := Except.ok.inj (hresult hcheck)
    have hsame := Program.OnlyReads.agrees (onlyReads_canReadBans botId guildId) hcheck
    have hf : ∀ n, h₁.faults n = none := by
      rw [hsame.faults]
      exact hh.faultless
    obtain ⟨now, h₂, hask, hrun⟩ := finishes_of_ask_bind hf hrun
    have hsame₂ := hask.agrees rfl
    have hunmarked : ((h₁.store.cell (Key.banInitializedGuildIds.text ns)).answer now
        (.isSetMember guildId)).1 = false := by
      show (h₁.members ns .banInitializedGuildIds).contains guildId = false
      rw [Host.members_of_cell (hsame.cell _), ← Bool.not_eq_true, List.contains_iff_mem]
      exact hh.unmarked
    rw [hunmarked] at hrun
    have hf₂ : ∀ n, h₂.faults n = none := by
      rw [hsame₂.faults]
      exact hf
    have htried := tried_of_refillBans hf₂ hrun
    rw [hsame₂.banLists, hsame₂.fetches, hsame.banLists, hsame.fetches] at htried
    exact ⟨htried.1, (htried.2.of_agrees hsame₂).of_agrees hsame⟩

end Cache

/-! ## All attempts -/

/-- The same may be tried again after such a reply. -/
def MayPass (reply : Except CacheError (List Ban)) : Prop :=
  ∃ e, reply = .error e ∧ e.isTransient = true

/-- A run makes a number of attempts: the last one is the first whose reply is not a failure that
may pass, or there may be no more. -/
structure MakesAttempts (replies : Nat → Except CacheError (List Ban)) (limit n : Nat) : Prop where
  pos : 0 < n
  le : n ≤ limit
  earlier : ∀ i, i + 1 < n → MayPass (replies i)
  last : n = limit ∨ ¬MayPass (replies (n - 1))

namespace MakesAttempts

variable {replies : Nat → Except CacheError (List Ban)} {attempts n : Nat}

theorem eq_one (hn : MakesAttempts replies attempts n) (hno : ¬MayPass (replies 0)) : n = 1 := by
  have hpos := hn.pos
  by_contra hne
  exact hno (hn.earlier 0 (by omega))

theorem tail (hn : MakesAttempts replies (attempts + 1) (n + 2)) :
    MakesAttempts (fun i => replies (i + 1)) attempts (n + 1) := by
  obtain ⟨-, hle, hearlier, hlast⟩ := hn
  refine ⟨by omega, by omega, fun i hi => hearlier (i + 1) (by omega), ?_⟩
  exact hlast.imp_left fun heq => by omega

end MakesAttempts

theorem exists_attempts : ∀ (attempts : Nat) (replies : Nat → Except CacheError (List Ban)),
    ∃ n, MakesAttempts replies (attempts + 1) n
  | 0, _ => ⟨1, Nat.one_pos, Nat.le_refl 1, fun i hi => absurd hi (by omega), .inl rfl⟩
  | attempts + 1, replies => by
      by_cases hfirst : MayPass (replies 0)
      · obtain ⟨n, hpos, hle, hearlier, hlast⟩ :=
          exists_attempts attempts fun i => replies (i + 1)
        obtain ⟨m, rfl⟩ := Nat.exists_eq_succ_of_ne_zero (Nat.ne_of_gt hpos)
        refine ⟨m + 2, by omega, by omega, fun i hi => ?_, ?_⟩
        · cases i with
          | zero => exact hfirst
          | succ i => exact hearlier i (by omega)
        · exact hlast.imp_left fun heq => by omega
      · exact ⟨1, Nat.one_pos, by omega, fun i hi => absurd hi (by omega), .inr hfirst⟩

/-- The reply to a request for the ban list of a guild after some others. -/
def Host.banReply (h : Host) (guildId : String) (n : Nat) : Except CacheError (List Ban) :=
  h.banLists (List.replicate n guildId ++ h.fetches) guildId

theorem Host.Tried.banReply_succ {ns guildId : String} {h h₁ : Host}
    {reply : Except CacheError (List Ban)} (ht : h.Tried ns guildId 1 reply h₁) (n : Nat) :
    h₁.banReply guildId n = h.banReply guildId (n + 1) := by
  rw [banReply, banReply, ht.banLists, ht.fetches, List.replicate_succ' (n := n),
    List.append_assoc]
  rfl

namespace Cache

variable {ns botId guildId : String} {h h' : Host}

/-- After an attempt there is another one just if the reply was a failure that may pass. -/
theorem exists_tried_of_attemptBackfill {attempts : Nat} (hh : h.CanFill ns botId guildId)
    (hrun : (attemptBackfill guildId botId (attempts + 1)).Finishes ns h () h') :
    ∃ h₁, h.Tried ns guildId 1 (h.banReply guildId 0) h₁
      ∧ ((MayPass (h.banReply guildId 0)
          ∧ (attemptBackfill guildId botId attempts).Finishes ns h₁ () h')
        ∨ (¬MayPass (h.banReply guildId 0) ∧ h' = h₁)) := by
  obtain ⟨r, h₁, hattempt, hrun⟩ := hrun.of_andThen
  obtain ⟨rfl, htried⟩ := tried_of_initializeBans hh hattempt
  refine ⟨h₁, htried, ?_⟩
  rw [show h.banLists h.fetches guildId = h.banReply guildId 0 from rfl] at hrun
  cases hreply : h.banReply guildId 0 with
  | ok bans =>
      rw [hreply] at hrun
      cases hrun
      refine .inr ⟨?_, rfl⟩
      rintro ⟨e, he, -⟩
      cases he
  | error e =>
      rw [hreply] at hrun
      replace hrun : (if e.isTransient then attemptBackfill guildId botId attempts
        else .done ()).Finishes ns h₁ () h' := hrun
      split at hrun
      · next htransient => exact .inl ⟨⟨e, rfl, htransient⟩, hrun⟩
      · next hfinal =>
        cases hrun
        refine .inr ⟨?_, rfl⟩
        rintro ⟨e', he, htransient⟩
        cases he
        exact hfinal htransient

theorem tried_of_attemptBackfill : ∀ {attempts n : Nat} {h : Host}, h.CanFill ns botId guildId →
    MakesAttempts (h.banReply guildId) attempts n →
    (attemptBackfill guildId botId attempts).Finishes ns h () h' →
    h.Tried ns guildId n (h.banReply guildId (n - 1)) h'
  | 0, n, h, _, hn, _ => absurd hn.pos (Nat.not_lt.mpr hn.le)
  | attempts + 1, 0, h, _, hn, _ => absurd hn.pos (Nat.lt_irrefl 0)
  | attempts + 1, 1, h, hh, hn, hrun => by
      obtain ⟨h₁, htried, ⟨hagain, hrest⟩ | ⟨-, rfl⟩⟩ := exists_tried_of_attemptBackfill hh hrun
      · obtain rfl : attempts = 0 := by
          rcases hn.last with heq | hno
          · omega
          · exact absurd hagain hno
        cases hrest
        exact htried
      · exact htried
  | attempts + 1, n + 2, h, hh, hn, hrun => by
      obtain ⟨h₁, htried, ⟨⟨e, hreply, -⟩, hrest⟩ | ⟨hno, -⟩⟩ :=
        exists_tried_of_attemptBackfill hh hrun
      · rw [hreply] at htried
        have hsame : h₁.banReply guildId = fun i => h.banReply guildId (i + 1) :=
          funext htried.banReply_succ
        have hall := tried_of_attemptBackfill (htried.canFill hh) (hsame ▸ hn.tail) hrest
        rw [hsame] at hall
        exact htried.succ hall
      · exact absurd (hn.eq_one hno) (by omega)

/-- What is told of an event does not depend on the run that it asks for. -/
theorem result_of_handle {settings : CacheSettings} {hasBanSource : Bool} {e : Event}
    {r : Except CacheError Unit}
    (hrun : (handle settings hasBanSource botId e).Finishes ns h r h') :
    ∃ asked h₁, (ExceptT.run (apply settings botId e)).Finishes ns h asked h₁
      ∧ r = asked.map fun _ => () := by
  obtain ⟨asked, h₁, happly, hrest⟩ := hrun.of_andThen
  refine ⟨asked, h₁, happly, ?_⟩
  cases asked with
  | error e =>
      cases hrest
      rfl
  | ok asked =>
      obtain ⟨_, h₂, -, hdone⟩ := Program.Finishes.of_andThen hrest
      cases hdone
      rfl

end Cache

/-! ## Backfills in a world -/

/-- A run in the background for a guild that is not marked, by a bot that may read its bans, asks
for the list up to the first reply that is no failure that may pass, and three times at most. If
that reply is a list, it is the ban list afterwards and the guild is marked; otherwise the ban list
is empty and the guild is not marked. Nothing else is changed, and nobody is told how the run
went. -/
theorem World.Reachable.backfill_outcome {ns : String} {settings : CacheSettings} {w : World}
    {botId guildId : String} (h : Reachable ns settings Event.IsWellNamed w)
    (hexpiry : settings.expiry = none) (hg : PlainId guildId) (hbot : botId ≠ "")
    (hmay : w.host.mayReadBans ns botId guildId = true)
    (hmark : guildId ∉ w.host.members ns .banInitializedGuildIds) :
    let run := Cache.backfillIfAsked true botId (some guildId)
    let list := Key.guildBannedUserIds guildId
    let marks := Key.banInitializedGuildIds
    (∃ n, MakesAttempts (w.host.banReply guildId) Cache.backfillAttempts n
      ∧ (∃ h', run.Finishes ns w.host () h')
      ∧ ∀ h', run.Finishes ns w.host () h' →
        h'.fetches = List.replicate n guildId ++ w.host.fetches
        ∧ (∀ bans, w.host.banReply guildId (n - 1) = .ok bans →
          (∀ userId, userId ∈ h'.members ns list ↔ userId ∈ bans.map fun ban => ban.user.id)
          ∧ ∀ other, other ∈ h'.members ns marks
            ↔ other = guildId ∨ other ∈ w.host.members ns marks)
        ∧ (∀ e, w.host.banReply guildId (n - 1) = .error e →
          h'.members ns list = [] ∧ guildId ∉ h'.members ns marks
          ∧ h'.members ns marks = w.host.members ns marks)
        ∧ ∀ name, name ≠ list.text ns → name ≠ marks.text ns →
          h'.store.cell name = w.host.store.cell name)
    ∧ ∀ e r h', (Cache.handle settings true botId e).Finishes ns w.host r h' →
      ∃ asked h₁, (ExceptT.run (Cache.apply settings botId e)).Finishes ns w.host asked h₁
        ∧ r = asked.map fun _ => () := by
  intro run list marks
  refine ⟨?_, fun e r h' => Cache.result_of_handle⟩
  obtain ⟨t, -, hw⟩ := h.exists_sound settings.surroundings_allows rfl fun _ he => he
  have hready : w.host.CanFill ns botId guildId :=
    ⟨hw.host.faultless, hw.host.lasting (CacheSettings.not_fading hexpiry),
      ((hw.host.plain list hg).onlySet rfl).1, hmay, hmark⟩
  have hrun : run = Cache.attemptBackfill guildId botId Cache.backfillAttempts := by
    show (if true && !botId.isEmpty then _ else _) = _
    rw [Bool.true_and, if_pos (by simpa using hbot)]
    rfl
  obtain ⟨n, hn⟩ := exists_attempts 2 (w.host.banReply guildId)
  refine ⟨n, hn, ⟨_, Program.finishes_run ns run w.host⟩, ?_⟩
  rw [hrun]
  intro h' hfinishes
  have htried := Cache.tried_of_attemptBackfill hready hn hfinishes
  have hlist : h'.members ns list = insertAll (bannedIn (w.host.banReply guildId (n - 1))) [] :=
    congrArg Cell.members htried.list
  have hmarks : h'.members ns marks = insertAll
      (markedBy guildId (w.host.banReply guildId (n - 1))) (w.host.members ns marks) :=
    congrArg Cell.members htried.marks
  refine ⟨htried.fetches, fun bans hreply => ?_, fun e hreply => ?_, htried.other⟩
  · rw [hlist, hmarks, hreply]
    refine ⟨fun userId => ?_, fun other => ?_⟩
    · simp [mem_insertAll, bannedIn]
    · simp [mem_insertAll, markedBy]
  · rw [hlist, hmarks, hreply]
    exact ⟨rfl, hmark, rfl⟩

/-- A guild has become known to the bot that owns it. The first request for its ban list fails, the
next one does not. -/
def sampleFlaky : World :=
  World.after { host := { banLists := fun before _ =>
    if before.isEmpty then .error (.banSource "flaky") else .ok [{ user := { id := "7" } }] } }
    "relay" {} "3" (.guildCreate { id := "1", ownerId := "3" })

theorem sampleFlaky_backfill_outcome : ∃ h',
    (Cache.backfillIfAsked true "3" (some "1")).Finishes "relay" sampleFlaky.host () h'
    ∧ h'.fetches = ["1", "1"]
    ∧ (∀ userId, userId ∈ h'.members "relay" (.guildBannedUserIds "1") ↔ userId = "7")
    ∧ "1" ∈ h'.members "relay" .banInitializedGuildIds := by
  have hflaky : World.Reachable "relay" {} Event.IsWellNamed sampleFlaky :=
    World.Reachable.after (.start rfl fun _ => rfl) "3" ⟨by decide, by decide, by decide⟩
  have hstart : sampleFlaky.host.mayReadBans "relay" "3" "1" = true
      ∧ "1" ∉ sampleFlaky.host.members "relay" .banInitializedGuildIds
      ∧ sampleFlaky.host.fetches = [] := by
    decide +kernel
  obtain ⟨hmay, hmark, hfetches⟩ := hstart
  have hbans : sampleFlaky.host.banLists = fun before _ =>
      if before.isEmpty then .error (.banSource "flaky") else .ok [{ user := { id := "7" } }] :=
    Program.Finishes.banLists_eq (Program.finishes_run "relay"
      (ExceptT.run (Cache.apply {} "3" (.guildCreate { id := "1", ownerId := "3" }))) _)
  have hreply (n : Nat) : sampleFlaky.host.banReply "1" n
      = if n = 0 then .error (.banSource "flaky") else .ok [{ user := { id := "7" } }] := by
    rw [Host.banReply, hbans, hfetches]
    cases n <;> rfl
  obtain ⟨⟨n, hn, ⟨h', hrun⟩, hall⟩, -⟩ := hflaky.backfill_outcome rfl (by decide) (by decide) hmay
    hmark
  have hfirst : MayPass (sampleFlaky.host.banReply "1" 0) := ⟨_, hreply 0, rfl⟩
  have hsecond : ¬MayPass (sampleFlaky.host.banReply "1" 1) := by
    rintro ⟨e, he, -⟩
    rw [hreply] at he
    cases he
  have hpos := hn.pos
  obtain rfl : n = 2 := by
    by_contra hne
    by_cases hone : n = 1
    · rw [hone] at hn
      exact hn.last.elim (fun h => by cases h) fun hno => hno hfirst
    · exact hsecond (hn.earlier 1 (by omega))
  obtain ⟨hasked, hok, -, -⟩ := hall h' hrun
  rw [hfetches] at hasked
  obtain ⟨hlist, hmarks⟩ := hok _ (hreply 1)
  refine ⟨h', hrun, hasked, fun userId => ?_, (hmarks "1").mpr (.inl rfl)⟩
  rw [hlist]
  exact List.mem_singleton

end GuildRelay
