import GuildRelay.Event.Basic
import GuildRelay.Proofs.Rate.Window
import GuildRelay.Report.Basic
import Mathlib.Data.List.Induction
/-!
# What comes of reports

While no time passes, what a reporter does with some reports can be counted beforehand. The service
that collects errors gets the first reports meant for it, as many as the rate bursts to; every
channel is told as often, and of those notices the first that there is room for are queued. Expected
failures count for nothing (`Reporter.accounts_for_every_report`).

`Reporter.Accounts` ties a state to all that was meant for the service and for the channels so far,
whether or not it came through. One handler adds to these two lists (`Reporter.Accounts.tell`), and
a limiter lets an entry through exactly if there are still fewer before it than it has tokens
(`TokenBucket.Holds.taken_iff`). Flags are about single reports instead: `ReporterState.Adds` is
what a report has done since it began.
-/

namespace GuildRelay

/-! ## Buckets while no time passes -/

namespace TokenBucket

variable {limit : RateLimit} {b : TokenBucket} {start now : Rat} {n : Nat}

/-- There are so many tokens in the bucket at a moment. -/
def Holds (limit : RateLimit) (b : TokenBucket) (now : Rat) (n : Nat) : Prop :=
  b.refill limit now = ⟨n, now⟩

theorem Holds.tokens_refill (h : b.Holds limit now n) : (b.refill limit now).tokens = n := by
  rw [h]

theorem Holds.le_capacity (h : b.Holds limit now n) : n ≤ limit.capacity := by
  have hle := tokens_refill_le limit b now
  rw [h.tokens_refill] at hle
  exact_mod_cast hle

theorem holds_full (limit : RateLimit) (h : start ≤ now) :
    (full limit start).Holds limit now limit.capacity :=
  KeyedBuckets.refill_full limit h

theorem Holds.taken_iff (h : b.Holds limit now n) : (b.take limit now).1 = .taken ↔ 0 < n := by
  rw [take_eq_taken_iff, h.tokens_refill, Nat.one_le_cast]
  exact Nat.lt_iff_add_one_le.symm

theorem Holds.take (h : b.Holds limit now n) : (b.take limit now).2.Holds limit now (n - 1) := by
  have hleft : (b.take limit now).2 = ⟨(n - 1 : Nat), now⟩ := by
    rcases take_cases limit b now with ⟨htoken, -, hleft⟩ | ⟨hnone, -, hleft⟩
    · rw [h.tokens_refill] at htoken hleft
      calc (b.take limit now).2
          = ⟨(b.take limit now).2.tokens, (b.take limit now).2.moment⟩ := rfl
        _ = ⟨(n - 1 : Nat), now⟩ := by
          rw [hleft, moment_take, Nat.cast_sub (by exact_mod_cast htoken), Nat.cast_one]
    · rw [h.tokens_refill] at hnone
      have hn : n = 0 := Nat.lt_one_iff.mp (by exact_mod_cast hnone)
      rw [hleft, h, hn]
  have hle : ((n - 1 : Nat) : Rat) ≤ limit.capacity := by
    exact_mod_cast (Nat.sub_le n 1).trans h.le_capacity
  rw [Holds, hleft]
  simp [refill, hle]

end TokenBucket

/-! ## The first entries -/

theorem take_concat {α : Type} (l : List α) (x : α) (n : Nat) :
    (l ++ [x]).take n = l.take n ++ if l.length < n then [x] else [] := by
  rw [List.take_append]
  split
  · next h => rw [List.take_of_length_le (Nat.le_sub_of_add_le' h)]
  · next h => rw [Nat.sub_eq_zero_of_le (not_lt.mp h), List.take_zero]

namespace Notice

/-- The notices for a channel. -/
def forChannel (channelId : String) (notices : List Notice) : List Notice :=
  notices.filter fun n => n.channelId = channelId

/-- The first notices for every channel, so many of each, in order. Those before count. -/
def firstForEach (limit : Nat) (before : List Notice) : List Notice → List Notice
  | [] => []
  | n :: later =>
    (if (forChannel n.channelId before).length < limit then [n] else []) ++
      firstForEach limit (before ++ [n]) later

theorem firstForEach_append (limit : Nat) (before l m : List Notice) :
    firstForEach limit before (l ++ m) =
      firstForEach limit before l ++ firstForEach limit (before ++ l) m := by
  induction l generalizing before with
  | nil => simp [firstForEach]
  | cons n later ih => simp [firstForEach, ih]

theorem firstForEach_concat (limit : Nat) (l : List Notice) (n : Notice) :
    firstForEach limit [] (l ++ [n]) = firstForEach limit [] l ++
      if (forChannel n.channelId l).length < limit then [n] else [] := by
  simp [firstForEach_append, firstForEach]

/-- Every channel is there with its first notices. -/
theorem forChannel_firstForEach (limit : Nat) (channelId : String) (l : List Notice) :
    forChannel channelId (firstForEach limit [] l) = (forChannel channelId l).take limit := by
  induction l using List.reverseRecOn with
  | nil => simp [firstForEach, forChannel]
  | append_singleton l n ih =>
      have hsplit : ∀ l m : List Notice,
          forChannel channelId (l ++ m) = forChannel channelId l ++ forChannel channelId m :=
        fun l m => List.filter_append ..
      rw [firstForEach_concat, hsplit, hsplit, ih]
      by_cases hn : n.channelId = channelId
      · have hself : forChannel channelId [n] = [n] := by simp [forChannel, hn]
        rw [hself, take_concat, hn]
        split
        · rw [hself]
        · rfl
      · have hother : forChannel channelId [n] = [] := by simp [forChannel, hn]
        rw [hother, List.append_nil]
        split
        · rw [hother, List.append_nil]
        · exact List.append_nil _

end Notice

/-! ## Bursts and expected failures -/

/-- The capacity that goes with a rate is the rate rounded up, but at least one and no more than a
word of 32 bits can say. -/
theorem RateLimit.burst_eq (rate : Binary64) :
    (∀ q, rate.toRat? = some q → (burst rate : Int) = max 1 (min q.ceil (2 ^ 32 - 1)))
    ∧ burst .undefined = 1 ∧ burst (.infinite true) = 1 ∧ burst (.infinite false) = 2 ^ 32 - 1 := by
  refine ⟨fun q hq => ?_, rfl, rfl, rfl⟩
  cases rate with
  | undefined => cases hq
  | infinite negative => cases hq
  | finite negative m e =>
      rw [burst, hq, Option.getD_some, greatestBurst]
      omega

namespace Failure

theorem cacheError?_eq_some_iff {f : Failure} {e : CacheError} :
    f.cacheError? = some e ↔ ∃ contexts, f = (cache e).inContexts contexts := by
  constructor
  · intro h
    induction f with
    | plain message => cases h
    | cache error => exact ⟨[], congrArg cache (Option.some.inj h)⟩
    | within context cause ih =>
        obtain ⟨contexts, hcause⟩ := ih h
        exact ⟨contexts ++ [context], by rw [inContexts, List.foldl_append, hcause]; rfl⟩
  · rintro ⟨contexts, rfl⟩
    exact cacheError?_inContexts (cache e) contexts

/-- A failure is expected if it goes back to a miss or a mismatch, whatever was said about it. -/
theorem isExpected_iff {f : Failure} : f.isExpected = true ↔
    ∃ e contexts, f = (cache e).inContexts contexts
      ∧ (e = .notFound ∨ e = .wrongGuild ∨ e = .wrongType) := by
  have herror : ∀ e : CacheError, e.isExpected = true ↔
      e = .notFound ∨ e = .wrongGuild ∨ e = .wrongType := fun e => by
    cases e <;> simp [CacheError.isExpected]
  rw [isExpected, Option.any_eq_true]
  constructor
  · rintro ⟨e, he, hexpected⟩
    obtain ⟨contexts, hf⟩ := cacheError?_eq_some_iff.mp he
    exact ⟨e, contexts, hf, (herror e).mp hexpected⟩
  · rintro ⟨e, contexts, hf, hexpected⟩
    exact ⟨e, cacheError?_eq_some_iff.mpr ⟨contexts, hf⟩, (herror e).mpr hexpected⟩

end Failure

/-! ## Reports -/

/-- What is told to a reporter: an error of a service, while an event was handled or apart from any,
and the handlers of the destination. -/
structure Filing where
  service : String
  failure : Failure
  event : Option Event
  handlers : List ErrorHandler

/-- What came of one report. -/
structure Filed where
  filing : Filing
  outcome : ReportOutcome
  /-- What it added to the collected reports. -/
  collected : List ErrorReport
  /-- What it added to the queue. -/
  notices : List Notice

namespace Filing

def incident (f : Filing) : Incident :=
  ⟨f.service, f.failure, f.event.bind Event.message?⟩

def isExpected (f : Filing) : Bool :=
  f.failure.isExpected

end Filing

namespace Incident

/-- What is meant for the service that collects errors. -/
def reportsFor (i : Incident) : ErrorHandler → List ErrorReport
  | .sentry => [i.report]
  | .discord => []

/-- What is meant for a channel: nothing unless there is a message. -/
def noticesFor (i : Incident) : ErrorHandler → List Notice
  | .sentry => []
  | .discord => (i.message.map i.notice).toList

end Incident

namespace Filing

/-- What is meant for the service that collects errors. -/
def reports (f : Filing) : List ErrorReport :=
  f.handlers.flatMap f.incident.reportsFor

/-- What is meant for channels. -/
def notices (f : Filing) : List Notice :=
  f.handlers.flatMap f.incident.noticesFor

end Filing

namespace Reporter

/-- The state that some reports leave behind, made one after the other at one moment. -/
def after (r : Reporter) (now : Rat) (s : ReporterState) : List Filing → ReporterState
  | [] => s
  | f :: later => r.after now (r.report now f.incident f.handlers s).2 later

/-- What comes of one report. -/
def file (r : Reporter) (now : Rat) (s : ReporterState) (f : Filing) : Filed :=
  let (outcome, after) := r.report now f.incident f.handlers s
  ⟨f, outcome, after.collected.drop s.collected.length, after.notices.drop s.notices.length⟩

/-- What comes of every single one of some reports. -/
def filed (r : Reporter) (now : Rat) (s : ReporterState) : List Filing → List Filed
  | [] => []
  | f :: later => r.file now s f :: r.filed now (r.report now f.incident f.handlers s).2 later

end Reporter

/-! ## What a report adds -/

namespace ReporterState

variable {s s' : ReporterState} {outcome : ReportOutcome} {r : Reporter} {now : Rat} {i : Incident}

/-- What was there stays, and something came to it where the outcome says so. -/
structure Adds (s : ReporterState) (outcome : ReportOutcome) (s' : ReporterState) : Prop where
  collected : ∃ reports, s'.collected = s.collected ++ reports
    ∧ (outcome.captured = true ↔ reports ≠ [])
  notices : ∃ notices, s'.notices = s.notices ++ notices ∧ (outcome.notified = true ↔ notices ≠ [])

theorem Adds.refl (logged : Bool) (s : ReporterState) : s.Adds { logged } s :=
  ⟨⟨[], by simp⟩, ⟨[], by simp⟩⟩

theorem collect_adds (r : Reporter) (now : Rat) (i : Incident) (s : ReporterState) :
    (∃ reports, (r.collect now i s).2.collected = s.collected ++ reports
      ∧ ((r.collect now i s).1 = true ↔ reports ≠ []))
    ∧ (r.collect now i s).2.notices = s.notices := by
  unfold Reporter.collect
  split
  · dsimp only
    split
    · exact ⟨⟨[i.report], by simp⟩, rfl⟩
    · exact ⟨⟨[], by simp⟩, rfl⟩
  · exact ⟨⟨[], by simp⟩, rfl⟩

theorem notify_adds (r : Reporter) (now : Rat) (i : Incident) (s : ReporterState) :
    (∃ notices, (r.notify now i s).2.notices = s.notices ++ notices
      ∧ ((r.notify now i s).1 = true ↔ notices ≠ []))
    ∧ (r.notify now i s).2.collected = s.collected := by
  unfold Reporter.notify
  split
  · next m _ _ =>
      dsimp only
      split
      · unfold Reporter.enqueue
        split
        · exact ⟨⟨[], by simp⟩, rfl⟩
        · exact ⟨⟨[i.notice m], by simp⟩, rfl⟩
      · exact ⟨⟨[], by simp⟩, rfl⟩
  · exact ⟨⟨[], by simp⟩, rfl⟩

/-- A flag stays set when later handlers add nothing. -/
theorem flag_iff {α : Type} {captured done : Bool} {before new : List α}
    (hbefore : captured = true ↔ before ≠ []) (hnew : done = true ↔ new ≠ []) :
    (captured || done) = true ↔ before ++ new ≠ [] := by
  rw [Bool.or_eq_true, hbefore, hnew, ne_eq, ne_eq, ne_eq, List.append_eq_nil_iff, not_and_or]

theorem Adds.tell (h : s.Adds outcome s') (r : Reporter) (now : Rat) (i : Incident)
    (handler : ErrorHandler) :
    s.Adds (r.tell now i (outcome, s') handler).1 (r.tell now i (outcome, s') handler).2 := by
  obtain ⟨⟨reports, hcollected, hcaptured⟩, ⟨notices, hnotices, hnotified⟩⟩ := h
  cases handler with
  | sentry =>
      obtain ⟨⟨new, hnew, hdone⟩, hsame⟩ := collect_adds r now i s'
      exact ⟨⟨reports ++ new, by rw [← List.append_assoc, ← hcollected]; exact hnew,
        flag_iff hcaptured hdone⟩, ⟨notices, hsame.trans hnotices, hnotified⟩⟩
  | discord =>
      obtain ⟨⟨new, hnew, hdone⟩, hsame⟩ := notify_adds r now i s'
      exact ⟨⟨reports, hsame.trans hcollected, hcaptured⟩,
        ⟨notices ++ new, by rw [← List.append_assoc, ← hnotices]; exact hnew,
          flag_iff hnotified hdone⟩⟩

theorem Adds.foldl_tell (r : Reporter) (now : Rat) (i : Incident) (handlers : List ErrorHandler)
    (h : s.Adds outcome s') :
    s.Adds (handlers.foldl (r.tell now i) (outcome, s')).1
      (handlers.foldl (r.tell now i) (outcome, s')).2 := by
  induction handlers generalizing outcome s' with
  | nil => exact h
  | cons handler later ih => exact ih (h.tell r now i handler)

theorem adds_report (r : Reporter) (now : Rat) (i : Incident) (handlers : List ErrorHandler)
    (s : ReporterState) :
    s.Adds (r.report now i handlers s).1 (r.report now i handlers s).2 := by
  unfold Reporter.report
  split
  · exact .refl false s
  · exact .foldl_tell r now i handlers (.refl true s)

end ReporterState

namespace Reporter

variable {r : Reporter} {now start : Rat} {s : ReporterState} {f : Filing} {filings : List Filing}

theorem report_of_isExpected (r : Reporter) (now : Rat) (s : ReporterState)
    (h : f.isExpected = true) : r.report now f.incident f.handlers s = ({}, s) :=
  if_pos h

theorem exists_of_mem_filed {x : Filed} (hx : x ∈ r.filed now s filings) :
    ∃ s', x = r.file now s' x.filing := by
  induction filings generalizing s with
  | nil => cases hx
  | cons f later ih =>
      rcases List.mem_cons.mp hx with hx | hx
      · exact ⟨s, hx ▸ rfl⟩
      · exact ih hx

theorem filing_filed (r : Reporter) (now : Rat) (s : ReporterState) (filings : List Filing) :
    (r.filed now s filings).map (·.filing) = filings := by
  induction filings generalizing s with
  | nil => rfl
  | cons f later ih => exact congrArg (f :: ·) (ih _)

/-- Expected failures come to nothing. -/
theorem file_of_isExpected (r : Reporter) (now : Rat) (s : ReporterState)
    (h : f.isExpected = true) : r.file now s f = ⟨f, {}, [], []⟩ := by
  simp only [file, r.report_of_isExpected now s h, List.drop_length]

/-- What comes of the other reports is the same without those of expected failures. -/
theorem filed_filter (r : Reporter) (now : Rat) (s : ReporterState) (filings : List Filing) :
    r.filed now s (filings.filter (!·.isExpected)) =
      (r.filed now s filings).filter (!·.filing.isExpected) := by
  induction filings generalizing s with
  | nil => rfl
  | cons f later ih =>
      have hfiling : (r.file now s f).filing = f := rfl
      cases h : f.isExpected with
      | true =>
          have hreport := r.report_of_isExpected now s h
          rw [filed, List.filter_cons_of_neg (by simp [h]),
            List.filter_cons_of_neg (by simp [hfiling, h]), hreport]
          exact ih s
      | false =>
          rw [filed, List.filter_cons_of_pos (by simp [h]),
            List.filter_cons_of_pos (by simp [hfiling, h]), filed, ih]

/-- The flags of an outcome tell whether the report added anything. -/
theorem flags_file (r : Reporter) (now : Rat) (s : ReporterState) (f : Filing) :
    ((r.file now s f).outcome.captured = true ↔ (r.file now s f).collected ≠ [])
      ∧ ((r.file now s f).outcome.notified = true ↔ (r.file now s f).notices ≠ []) := by
  obtain ⟨⟨reports, hcollected, hcaptured⟩, ⟨notices, hnotices, hnotified⟩⟩ :=
    ReporterState.adds_report r now f.incident f.handlers s
  simp only [file, hcollected, hnotices, List.drop_left]
  exact ⟨hcaptured, hnotified⟩

/-- All that is there in the end was there before or was added by some report. -/
theorem after_eq_append (r : Reporter) (now : Rat) (s : ReporterState) (filings : List Filing) :
    (r.after now s filings).collected
        = s.collected ++ (r.filed now s filings).flatMap (·.collected)
      ∧ (r.after now s filings).notices
        = s.notices ++ (r.filed now s filings).flatMap (·.notices) := by
  induction filings generalizing s with
  | nil => simp [after, filed]
  | cons f later ih =>
      obtain ⟨⟨reports, hcollected, -⟩, ⟨notices, hnotices, -⟩⟩ :=
        ReporterState.adds_report r now f.incident f.handlers s
      obtain ⟨hall, hall'⟩ := ih (r.report now f.incident f.handlers s).2
      simp only [after, filed, file, List.flatMap_cons]
      rw [hall, hall', hcollected, hnotices, List.drop_left, List.drop_left, List.append_assoc,
        List.append_assoc]
      exact ⟨rfl, rfl⟩

/-! ## What comes through -/

/-- What is meant for the service, if there is one. -/
def reportsFor (r : Reporter) (i : Incident) (handler : ErrorHandler) : List ErrorReport :=
  if r.collects then i.reportsFor handler else []

/-- What is meant for channels, if there is a queue. -/
def noticesFor (r : Reporter) (i : Incident) (handler : ErrorHandler) : List Notice :=
  if r.noticeRoom.isSome then i.noticesFor handler else []

/-- What one report has for the service, if there is one, among several. -/
theorem flatMap_reportsFor (r : Reporter) (filings : List Filing) :
    (filings.flatMap fun f => f.handlers.flatMap (r.reportsFor f.incident)) =
      if r.collects then filings.flatMap Filing.reports else [] := by
  unfold reportsFor
  split
  · rfl
  · simp

theorem flatMap_noticesFor (r : Reporter) (filings : List Filing) :
    (filings.flatMap fun f => f.handlers.flatMap (r.noticesFor f.incident)) =
      if r.noticeRoom.isSome then filings.flatMap Filing.notices else [] := by
  unfold noticesFor
  split
  · rfl
  · simp

/-- The state after so much was meant for the service and for channels. -/
structure Accounts (r : Reporter) (now : Rat) (reports : List ErrorReport) (notices : List Notice)
    (s : ReporterState) : Prop where
  globalLeft : s.globalBucket.Holds r.globalLimit now (r.globalLimit.capacity - reports.length)
  collected : s.collected = reports.take r.globalLimit.capacity
  channelLeft : ∀ channelId, (s.channelBuckets.bucket r.channelLimit channelId now).Holds
    r.channelLimit now (r.channelLimit.capacity - (Notice.forChannel channelId notices).length)
  notices : s.notices
    = (Notice.firstForEach r.channelLimit.capacity [] notices).take (r.noticeRoom.getD 0)
  isOpen : s.isClosed = false

variable {reports : List ErrorReport} {notices : List Notice} {i : Incident}

theorem accounts_start (r : Reporter) (h : start ≤ now) : r.Accounts now [] [] (r.start start) where
  globalLeft := TokenBucket.holds_full r.globalLimit h
  collected := List.take_nil.symm
  channelLeft _ := TokenBucket.holds_full r.channelLimit le_rfl
  notices := List.take_nil.symm
  isOpen := rfl

/-- A report meant for the service comes through while there are tokens. -/
theorem Accounts.collect (h : r.Accounts now reports notices s) (hcollects : r.collects = true)
    (i : Incident) : r.Accounts now (reports ++ [i.report]) notices (r.collect now i s).2 := by
  have htaken := h.globalLeft.taken_iff
  have hleft := h.globalLeft.take
  rw [Nat.sub_sub] at hleft
  simp only [Reporter.collect, hcollects, if_true]
  split
  · next hresult =>
      have hroom : reports.length < r.globalLimit.capacity :=
        Nat.sub_pos_iff_lt.mp (htaken.mp hresult)
      refine ⟨by simpa using hleft, ?_, h.channelLeft, h.notices, h.isOpen⟩
      rw [take_concat, if_pos hroom, h.collected]
  · next hresult =>
      have hnone : ¬reports.length < r.globalLimit.capacity := fun hlt =>
        hresult (htaken.mpr (Nat.sub_pos_of_lt hlt))
      refine ⟨by simpa using hleft, ?_, h.channelLeft, h.notices, h.isOpen⟩
      rw [take_concat, if_neg hnone, List.append_nil]
      exact h.collected

/-- A notice costs a token of its channel, if there is one left, and none of another one. -/
theorem Accounts.channelLeft_take (h : r.Accounts now reports notices s) (n : Notice)
    (channelId : String) :
    ((s.channelBuckets.take r.channelLimit n.channelId now).2.bucket r.channelLimit channelId
      now).Holds r.channelLimit now
        (r.channelLimit.capacity - (Notice.forChannel channelId (notices ++ [n])).length) := by
  rw [KeyedBuckets.bucket_take]
  split
  · next heq =>
      have hcount : (Notice.forChannel channelId (notices ++ [n])).length
          = (Notice.forChannel n.channelId notices).length + 1 := by
        simp [Notice.forChannel, heq]
      rw [hcount, ← Nat.sub_sub]
      exact (h.channelLeft n.channelId).take
  · next hne =>
      have hcount : Notice.forChannel channelId (notices ++ [n])
          = Notice.forChannel channelId notices := by
        simp [Notice.forChannel, Ne.symm hne]
      rw [hcount]
      exact h.channelLeft channelId

/-- A queue that nobody reads has the first notices that there is room for. -/
theorem enqueue_eq {room : Nat} {passed : List Notice} (hopen : s.isClosed = false)
    (hnotices : s.notices = passed.take room) (n : Notice) :
    (enqueue room n s).2 = { s with notices := (passed ++ [n]).take room } := by
  have hfull : room ≤ s.notices.length ↔ ¬passed.length < room := by
    rw [hnotices, List.length_take, le_min_iff, and_iff_right le_rfl, not_lt]
  rw [enqueue, take_concat]
  by_cases hspace : passed.length < room
  · rw [if_pos hspace, if_neg (by simp [hopen, hfull, hspace]), hnotices]
  · rw [if_neg hspace, if_pos (by simp [hopen, hfull, hspace]), List.append_nil, ← hnotices]

/-- A notice comes through the limiter while there are tokens for its channel, and into the queue
while there is room. -/
theorem Accounts.notify (h : r.Accounts now reports notices s) {room : Nat}
    (hroom : r.noticeRoom = some room) {m : Message} (hm : i.message = some m) :
    r.Accounts now reports (notices ++ [i.notice m]) (r.notify now i s).2 := by
  have hleft := h.channelLeft_take (i.notice m)
  have hfirst := Notice.firstForEach_concat r.channelLimit.capacity notices (i.notice m)
  have htaken : (s.channelBuckets.take r.channelLimit m.channelId now).1 = .taken ↔
      (Notice.forChannel (i.notice m).channelId notices).length < r.channelLimit.capacity :=
    (h.channelLeft m.channelId).taken_iff.trans Nat.sub_pos_iff_lt
  have hqueued := h.notices
  rw [hroom, Option.getD_some] at hqueued
  simp only [Reporter.notify, hroom, hm]
  split
  · next hresult =>
      rw [if_pos (htaken.mp hresult)] at hfirst
      let s' : ReporterState :=
        { s with channelBuckets := (s.channelBuckets.take r.channelLimit m.channelId now).2 }
      have hlast := enqueue_eq (s := s') h.isOpen hqueued (i.notice m)
      rw [hlast]
      exact ⟨h.globalLeft, h.collected, hleft, by rw [hroom, hfirst, Option.getD_some], h.isOpen⟩
  · next hresult =>
      rw [if_neg fun hlt => hresult (htaken.mpr hlt), List.append_nil] at hfirst
      exact ⟨h.globalLeft, h.collected, hleft, by rw [hroom, hfirst]; exact hqueued, h.isOpen⟩

theorem Accounts.tell (h : r.Accounts now reports notices s) (i : Incident)
    (outcome : ReportOutcome) (handler : ErrorHandler) :
    r.Accounts now (reports ++ r.reportsFor i handler) (notices ++ r.noticesFor i handler)
      (r.tell now i (outcome, s) handler).2 := by
  cases handler with
  | sentry =>
      have hnone : r.noticesFor i .sentry = [] := ite_self _
      rw [hnone, List.append_nil]
      show r.Accounts now _ _ (r.collect now i s).2
      by_cases hcollects : r.collects = true
      · rw [reportsFor, if_pos hcollects]
        exact h.collect hcollects i
      · rw [reportsFor, if_neg hcollects, List.append_nil, Reporter.collect, if_neg hcollects]
        exact h
  | discord =>
      have hnone : r.reportsFor i .discord = [] := ite_self _
      rw [hnone, List.append_nil]
      show r.Accounts now _ _ (r.notify now i s).2
      cases hroom : r.noticeRoom with
      | none => simpa [noticesFor, Reporter.notify, hroom] using h
      | some room =>
          cases hm : i.message with
          | none => simpa [noticesFor, Incident.noticesFor, Reporter.notify, hroom, hm] using h
          | some m =>
              have hone : r.noticesFor i .discord = [i.notice m] := by
                simp [noticesFor, Incident.noticesFor, hroom, hm]
              rw [hone]
              exact h.notify hroom hm

theorem Accounts.foldl_tell (h : r.Accounts now reports notices s) (i : Incident)
    (outcome : ReportOutcome) (handlers : List ErrorHandler) :
    r.Accounts now (reports ++ handlers.flatMap (r.reportsFor i))
      (notices ++ handlers.flatMap (r.noticesFor i))
      (handlers.foldl (r.tell now i) (outcome, s)).2 := by
  induction handlers generalizing reports notices outcome s with
  | nil => simpa using h
  | cons handler later ih =>
      rw [List.flatMap_cons, List.flatMap_cons, ← List.append_assoc, ← List.append_assoc]
      exact ih (h.tell i outcome handler) _

theorem Accounts.report (h : r.Accounts now reports notices s) (hf : f.isExpected = false) :
    r.Accounts now (reports ++ f.handlers.flatMap (r.reportsFor f.incident))
      (notices ++ f.handlers.flatMap (r.noticesFor f.incident))
      (r.report now f.incident f.handlers s).2 := by
  have hreport : r.report now f.incident f.handlers s =
      f.handlers.foldl (r.tell now f.incident) ({ logged := true }, s) :=
    if_neg (Bool.eq_false_iff.mp hf)
  rw [hreport]
  exact h.foldl_tell f.incident _ f.handlers

/-- Reports of expected failures do not count. -/
theorem Accounts.foldl_report (h : r.Accounts now reports notices s) (filings : List Filing) :
    r.Accounts now
      (reports ++ (filings.filter (!·.isExpected)).flatMap fun f =>
        f.handlers.flatMap (r.reportsFor f.incident))
      (notices ++ (filings.filter (!·.isExpected)).flatMap fun f =>
        f.handlers.flatMap (r.noticesFor f.incident))
      (r.after now s filings) := by
  induction filings generalizing reports notices s with
  | nil => simpa [Reporter.after] using h
  | cons f later ih =>
      rw [Reporter.after]
      cases hf : f.isExpected with
      | true =>
          rw [List.filter_cons_of_neg (by simp [hf]), r.report_of_isExpected now s hf]
          exact ih h
      | false =>
          rw [List.filter_cons_of_pos (by simp [hf]), List.flatMap_cons, List.flatMap_cons,
            ← List.append_assoc, ← List.append_assoc]
          exact ih (h.report hf)

/-- What reports leave behind, by what was meant for the service and for channels. -/
theorem accounts_after (r : Reporter) (h : start ≤ now) (filings : List Filing) :
    r.Accounts now
      (if r.collects then (filings.filter (!·.isExpected)).flatMap Filing.reports else [])
      (if r.noticeRoom.isSome then (filings.filter (!·.isExpected)).flatMap Filing.notices else [])
      (r.after now (r.start start) filings) := by
  have hall := (r.accounts_start h).foldl_report filings
  rwa [List.nil_append, List.nil_append, flatMap_reportsFor, flatMap_noticesFor] at hall

/-- What came through for a channel and what is left are the tokens that there were. -/
theorem Accounts.tokens_add_passed (h : r.Accounts now reports notices s) (channelId : String) :
    ((s.channelBuckets.bucket r.channelLimit channelId now).refill r.channelLimit now).tokens
      + (Notice.forChannel channelId
          (Notice.firstForEach r.channelLimit.capacity [] notices)).length
      = r.channelLimit.capacity := by
  rw [(h.channelLeft channelId).tokens_refill, Notice.forChannel_firstForEach, List.length_take]
  norm_cast
  omega

/-- Reports are made at one moment, of any failures, with or without an event, and to any handlers.
Failures that go back to a miss or a mismatch come to nothing, and the others come to the same
without them. Of all that is meant for the service that collects errors, so much is collected in
order as its rate bursts to; of all notices meant for a channel, so many come through the limiter,
and those that do are queued in order while there is room. A notice that finds no room has cost its
token, and where there is no message no token is taken. The flags of a report tell whether it added
anything. -/
theorem accounts_for_every_report (globalRate channelRate : Binary64) (collects : Bool)
    (noticeRoom : Option Nat) {start now : Rat} (h : start ≤ now) (filings : List Filing) :
    let r : Reporter :=
      ⟨.perSecond globalRate, .perSecond channelRate, collects, noticeRoom⟩
    let log := r.filed now (r.start start) filings
    let s := r.after now (r.start start) filings
    let told := filings.filter (!·.isExpected)
    let meant := told.flatMap Filing.notices
    let passed := Notice.firstForEach (RateLimit.burst channelRate) [] meant
    (∀ rate : Binary64,
      (∀ q, rate.toRat? = some q →
        (RateLimit.burst rate : Int) = max 1 (min q.ceil (2 ^ 32 - 1)))
      ∧ RateLimit.burst .undefined = 1 ∧ RateLimit.burst (.infinite true) = 1
      ∧ RateLimit.burst (.infinite false) = 2 ^ 32 - 1)
    ∧ (∀ f : Filing, f.isExpected = true ↔
      ∃ e contexts, f.failure = (Failure.cache e).inContexts contexts
        ∧ (e = .notFound ∨ e = .wrongGuild ∨ e = .wrongType))
    ∧ log.map (·.filing) = filings
    ∧ (∀ x ∈ log, x.filing.isExpected = true →
      x.outcome = {} ∧ x.collected = [] ∧ x.notices = [])
    ∧ r.filed now (r.start start) told = log.filter (!·.filing.isExpected)
    ∧ s.collected = log.flatMap (·.collected)
    ∧ s.notices = log.flatMap (·.notices)
    ∧ s.collected = (if collects then
      (told.flatMap Filing.reports).take (RateLimit.burst globalRate) else [])
    ∧ (∀ room, noticeRoom = some room → s.notices = passed.take room
      ∧ ∀ channelId, Notice.forChannel channelId passed
          = (Notice.forChannel channelId meant).take (RateLimit.burst channelRate)
        ∧ ((s.channelBuckets.bucket r.channelLimit channelId now).refill r.channelLimit now).tokens
          + (Notice.forChannel channelId passed).length = RateLimit.burst channelRate)
    ∧ ∀ x ∈ log, (x.outcome.captured = true ↔ x.collected ≠ [])
      ∧ (x.outcome.notified = true ↔ x.notices ≠ []) := by
  intro r log s told meant passed
  have haccounts : r.Accounts now (if collects then told.flatMap Filing.reports else [])
      (if noticeRoom.isSome then meant else []) s := r.accounts_after h filings
  obtain ⟨hcollected, hnotices⟩ := r.after_eq_append now (r.start start) filings
  have hfile : ∀ x ∈ log, ∃ s', x = r.file now s' x.filing := fun x hx => exists_of_mem_filed hx
  refine ⟨RateLimit.burst_eq, fun f => Failure.isExpected_iff, filing_filed .., fun x hx hx' => ?_,
    filed_filter .., hcollected, hnotices, ?_, fun room hroom => ?_, fun x hx => ?_⟩
  · obtain ⟨s', hfile⟩ := hfile x hx
    rw [hfile, file_of_isExpected r now s' hx']
    exact ⟨rfl, rfl, rfl⟩
  · have hreports := haccounts.collected
    cases collects with
    | true => exact hreports
    | false => exact hreports.trans List.take_nil
  · subst hroom
    exact ⟨haccounts.notices, fun channelId =>
      ⟨Notice.forChannel_firstForEach .., haccounts.tokens_add_passed channelId⟩⟩
  · obtain ⟨s', hfile⟩ := hfile x hx
    rw [hfile]
    exact flags_file r now s' x.filing

/-- Some reports about two channels, one of them about no event and one of a miss. -/
def sampleFilings : List Filing :=
  let said (channelId : String) : Option Event := some (.messageCreate { id := "m", channelId })
  [⟨"stats", (Failure.cache .notFound).inContexts ["loading"], said "a", [.sentry, .discord]⟩,
    ⟨"stats", .plain "boom", said "a", [.discord, .sentry, .discord]⟩,
    ⟨"stats", .plain "alone", none, [.discord, .sentry]⟩,
    ⟨"stats", .plain "late", said "b", [.sentry, .discord]⟩]

/-- Two reports are collected in all and one notice goes to each channel, of which the second one
finds no room. It has cost the token of its channel nevertheless. -/
theorem sample_accounts_for_every_report :
    let r : Reporter := ⟨.perSecond (.finite false 3 (-1)), .perSecond sampleRate, true, some 1⟩
    let log := r.filed 5 (r.start 0) sampleFilings
    let s := r.after 5 (r.start 0) sampleFilings
    log.map (·.outcome)
        = [{}, ⟨true, true, true⟩, ⟨true, true, false⟩, { logged := true }]
      ∧ s.collected.map (·.error) = ["boom", "alone"]
      ∧ s.notices.map (·.channelId) = ["a"]
      ∧ ((s.channelBuckets.bucket r.channelLimit "b" 5).refill r.channelLimit 5).tokens = 0
      ∧ r.filed 5 (r.start 0) (sampleFilings.drop 1) = log.drop 1 := by
  intro r log s
  obtain ⟨-, -, -, -, hother, -, -, hcollected, hnotices, -⟩ :=
    accounts_for_every_report (.finite false 3 (-1)) sampleRate true (some 1)
      (show (0 : Rat) ≤ 5 by decide +kernel) sampleFilings
  obtain ⟨hqueued, hchannels⟩ := hnotices 1 rfl
  have htokens := (hchannels "b").2
  refine ⟨by decide +kernel, ?_, ?_, ?_, ?_⟩
  · rw [hcollected]
    decide +kernel
  · rw [hqueued]
    decide +kernel
  · have hpassed : (Notice.forChannel "b" (Notice.firstForEach (RateLimit.burst sampleRate) []
        ((sampleFilings.filter (!·.isExpected)).flatMap Filing.notices))).length = 1 := by
      decide +kernel
    have hburst : RateLimit.burst sampleRate = 1 := by decide +kernel
    rw [hpassed, hburst] at htokens
    exact add_eq_right.mp htokens
  · exact hother

end Reporter

end GuildRelay
