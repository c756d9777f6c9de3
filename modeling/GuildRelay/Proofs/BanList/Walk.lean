import GuildRelay.BanList.Walk
import Mathlib.Data.List.Forall2
import Mathlib.Data.String.Basic
import Mathlib.Order.Defs.Unbundled
import Mathlib.Order.RelClasses
/-!
# What a walk through the pages reads

A walk makes one request after the other, and what it has come to is told by the replies so far
(`PageWalk.Stands`): as long as it goes on every reply was a full page, it ends well at the first
page that is not full, and it ends with an error at the first reply that is no page. Whatever the
server does, a walk that ends well has all the bans of all its pages.

That these are all bans of the guild depends on the server. `BanServer.Keeps` says what it has to
do: it keeps a list in some order of the users, and answers with the part of it behind a user, up to
the limit. The invariant (`PageWalk.run_full_pages`) ties the user behind whom the next page starts
to the part of the list that the walk has by then.
-/

namespace GuildRelay

/-! ## Replies -/

namespace BanPageReply

variable {url : String} {reply : BanPageReply} {page : List Ban}

/-- The reply is a page of bans. -/
def Brings (reply : BanPageReply) (page : List Ban) : Prop :=
  ∃ status body, reply = .answered status (some body) ∧ isSuccess status = true
    ∧ banPage? body = some page

/-- The guild or its ban list is not for the bot to see. -/
def Denies (reply : BanPageReply) : Prop :=
  ∃ body, reply = .answered 403 body ∨ reply = .answered 404 body

theorem isSuccess_iff {status : Nat} : isSuccess status = true ↔ 200 ≤ status ∧ status < 300 := by
  simp [isSuccess]

/-- The bans of an answer, by its status. -/
theorem bans_answered (url : String) (status : Nat) (body : Option Document) :
    (answered status body).bans url
      = if status = 403 ∨ status = 404 then .error .inaccessible
        else if isSuccess status then (body.bind banPage?).elim (.error .malformed) .ok
        else .error (.refused url status) := by
  by_cases hseen : status = 403 ∨ status = 404
  · simp [bans, hseen]
  · cases hsuccess : isSuccess status with
    | false => simp [bans, hseen, hsuccess]
    | true => cases hpage : body.bind banPage? <;> simp [bans, hseen, hsuccess, hpage]

theorem bans_eq_ok_iff : reply.bans url = .ok page ↔ reply.Brings page := by
  constructor
  · intro h
    cases reply with
    | unreachable => cases h
    | answered status body =>
        rw [bans_answered] at h
        split at h
        · cases h
        · split at h
          · next hsuccess =>
            cases hpage : body.bind banPage? with
            | none => rw [hpage] at h; cases h
            | some bans =>
                rw [hpage] at h
                obtain ⟨doc, rfl, hdoc⟩ := Option.bind_eq_some_iff.mp hpage
                exact ⟨status, doc, rfl, hsuccess, hdoc.trans (congrArg some (Except.ok.inj h))⟩
          · cases h
  · rintro ⟨status, body, rfl, hsuccess, hpage⟩
    have hrange := isSuccess_iff.mp hsuccess
    have hseen : ¬(status = 403 ∨ status = 404) := by omega
    rw [bans_answered, if_neg hseen, if_pos hsuccess, Option.bind_some, hpage]
    rfl

theorem bans_of_denies (h : reply.Denies) : reply.bans url = .error .inaccessible := by
  obtain ⟨body, rfl | rfl⟩ := h <;> rfl

/-- A reply that is neither a page nor a denial is a failure of the server. -/
theorem bans_of_other (hdenies : ¬reply.Denies) (hbrings : ∀ page, ¬reply.Brings page) :
    ∃ e reason, reply.bans url = .error e ∧ e.cacheError = .banSource reason := by
  cases reply with
  | unreachable => exact ⟨_, _, rfl, rfl⟩
  | answered status body =>
      have hseen : ¬(status = 403 ∨ status = 404) := by
        rintro (rfl | rfl)
        · exact hdenies ⟨body, .inl rfl⟩
        · exact hdenies ⟨body, .inr rfl⟩
      rw [bans_answered, if_neg hseen]
      cases hsuccess : isSuccess status with
      | false => exact ⟨_, _, rfl, rfl⟩
      | true =>
          cases hpage : body.bind banPage? with
          | none => exact ⟨_, _, rfl, rfl⟩
          | some page =>
              obtain ⟨doc, rfl, hdoc⟩ := Option.bind_eq_some_iff.mp hpage
              exact absurd ⟨status, doc, rfl, hsuccess, hdoc⟩ (hbrings page)

theorem Denies.not_brings (h : reply.Denies) : ¬reply.Brings page := by
  intro hbrings
  have hok : reply.bans "" = .ok page := bans_eq_ok_iff.mpr hbrings
  rw [bans_of_denies h] at hok
  cases hok

end BanPageReply

/-- The replies to requests, of which the latest is the first. -/
def BanServer.repliesTo (server : BanServer) : List BanPageRequest → List BanPageReply
  | [] => []
  | request :: before => server before request :: server.repliesTo before

/-! ## Steps -/

namespace PageWalk

variable {api : BanApi} {server : BanServer} {guildId : String} {w : PageWalk}

/-- The replies so far, the latest first. -/
def replies (server : BanServer) (w : PageWalk) : List BanPageReply :=
  server.repliesTo w.requests

/-- What the walk has led to, as it is told to those who asked for the ban list. -/
def outcome (w : PageWalk) : Option (Except CacheError (List Ban)) :=
  w.result.map fun r => r.mapError BanListError.cacheError

theorem run_succ_of_none {n : Nat} (h : (run api server guildId n w).result = none) :
    run api server guildId (n + 1) w = (run api server guildId n w).step api server guildId := by
  rw [run_add, run, h]
  rfl

theorem run_succ_of_isSome {n : Nat} (h : (run api server guildId n w).result.isSome) :
    run api server guildId (n + 1) w = run api server guildId n w := by
  rw [run_add, run, if_pos h]

theorem result_of_succ {n : Nat} (h : (run api server guildId (n + 1) w).result = none) :
    (run api server guildId n w).result = none := by
  rw [← Option.not_isSome_iff_eq_none]
  intro hsome
  rw [run_succ_of_isSome hsome] at h
  rw [h] at hsome
  cases hsome

theorem result_of_le {m n : Nat} (hmn : m ≤ n) (h : (run api server guildId n w).result = none) :
    (run api server guildId m w).result = none := by
  induction hmn with
  | refl => exact h
  | step _ ih => exact ih (result_of_succ h)

theorem requests_step :
    (w.step api server guildId).requests = ⟨guildId, w.after⟩ :: w.requests := by
  simp only [step]
  split <;> rfl

theorem replies_step :
    (w.step api server guildId).replies server
      = server w.requests ⟨guildId, w.after⟩ :: w.replies server := by
  rw [replies, requests_step]
  rfl

theorem step_of_brings {page : List Ban}
    (h : (server w.requests ⟨guildId, w.after⟩).Brings page) :
    w.step api server guildId
      = { w with requests := ⟨guildId, w.after⟩ :: w.requests }.addPage page := by
  simp only [step, BanPageReply.bans_eq_ok_iff.mpr h]

theorem step_of_error {e : BanListError}
    (h : (server w.requests ⟨guildId, w.after⟩).bans (api.url guildId) = .error e) :
    (w.step api server guildId).result = some (.error e) := by
  simp only [step, h]

/-- A page is the last one just if it is not full. An empty page has no last user, but it is not
full anyway. -/
theorem result_addPage (w : PageWalk) (page : List Ban) :
    (w.addPage page).result
      = if page.length < banPageLimit then some (.ok (w.bans ++ page)) else none := by
  unfold addPage
  by_cases hshort : page.length < banPageLimit
  · simp [hshort]
  · have hne : page ≠ [] := by
      rintro rfl
      exact hshort (by decide)
    simp [hshort, hne]

/-! ## What the replies tell -/

/-- What a walk has come to, by its replies. -/
inductive Stands (api : BanApi) (server : BanServer) (guildId : String) (w : PageWalk) : Prop
  | goesOn {pages : List (List Ban)} : w.result = none →
      List.Forall₂ BanPageReply.Brings (w.replies server) pages →
      (∀ page ∈ pages, banPageLimit ≤ page.length) → w.bans = pages.reverse.flatten →
      Stands api server guildId w
  | ended {last : List Ban} {pages : List (List Ban)} :
      List.Forall₂ BanPageReply.Brings (w.replies server) (last :: pages) →
      last.length < banPageLimit → (∀ page ∈ pages, banPageLimit ≤ page.length) →
      w.result = some (.ok (last :: pages).reverse.flatten) → Stands api server guildId w
  | failed {reply : BanPageReply} {older : List BanPageReply} {pages : List (List Ban)}
      {e : BanListError} : w.replies server = reply :: older →
      List.Forall₂ BanPageReply.Brings older pages → reply.bans (api.url guildId) = .error e →
      w.result = some (.error e) → Stands api server guildId w

theorem Stands.step (hw : w.Stands api server guildId) (hresult : w.result = none) :
    (w.step api server guildId).Stands api server guildId := by
  cases hw with
  | ended _ _ _ hended => rw [hresult] at hended; cases hended
  | failed _ _ _ hfailed => rw [hresult] at hfailed; cases hfailed
  | @goesOn pages _ hpages hfull hbans =>
      cases hreply : (server w.requests ⟨guildId, w.after⟩).bans (api.url guildId) with
      | error e => exact .failed replies_step hpages hreply (step_of_error hreply)
      | ok page =>
          have hbrings := BanPageReply.bans_eq_ok_iff.mp hreply
          have hread : List.Forall₂ BanPageReply.Brings
              ((w.step api server guildId).replies server) (page :: pages) := by
            rw [replies_step]
            exact .cons hbrings hpages
          have hflat : w.bans ++ page = (page :: pages).reverse.flatten := by
            simp [hbans]
          have hresult' : (w.step api server guildId).result
              = if page.length < banPageLimit then some (.ok (w.bans ++ page)) else none := by
            rw [step_of_brings hbrings, result_addPage]
          by_cases hshort : page.length < banPageLimit
          · rw [if_pos hshort, hflat] at hresult'
            exact .ended hread hshort hfull hresult'
          · rw [if_neg hshort] at hresult'
            refine .goesOn hresult' hread (List.forall_mem_cons.mpr ⟨by omega, hfull⟩) ?_
            rw [step_of_brings hbrings, ← hflat]
            rfl

theorem stands_run (n : Nat) : (run api server guildId n {}).Stands api server guildId := by
  induction n with
  | zero => exact .goesOn rfl .nil (fun _ h => absurd h List.not_mem_nil) rfl
  | succ n ih =>
      cases hresult : (run api server guildId n {}).result with
      | none =>
          rw [run_succ_of_none hresult]
          exact ih.step hresult
      | some r =>
          rw [run_succ_of_isSome (by rw [hresult]; rfl)]
          exact ih

/-- Where one reply is no page, the walk has ended with it. -/
theorem Stands.of_no_page (hw : w.Stands api server guildId) {reply : BanPageReply}
    (hreply : reply ∈ w.replies server) (hno : ∀ page, ¬reply.Brings page) :
    ∃ e, reply.bans (api.url guildId) = .error e ∧ w.result = some (.error e) := by
  have hbrings : ∀ {replies : List BanPageReply} {pages : List (List Ban)},
      List.Forall₂ BanPageReply.Brings replies pages → reply ∉ replies := by
    intro replies pages hpages hmem
    induction hpages with
    | nil => cases hmem
    | cons hfirst _ ih =>
        rcases List.mem_cons.mp hmem with rfl | hmem
        · exact hno _ hfirst
        · exact ih hmem
  cases hw with
  | goesOn _ hpages _ _ => exact absurd hreply (hbrings hpages)
  | ended hpages _ _ _ => exact absurd hreply (hbrings hpages)
  | @failed last older pages e hreplies hpages herror hresult =>
      rw [hreplies] at hreply
      rcases List.mem_cons.mp hreply with rfl | hmem
      · exact ⟨e, herror, hresult⟩
      · exact absurd hmem (hbrings hpages)

theorem Stands.outcome_of_denies (hw : w.Stands api server guildId) {reply : BanPageReply}
    (hreply : reply ∈ w.replies server) (hdenies : reply.Denies) :
    w.outcome = some (.error .notFound) := by
  obtain ⟨e, herror, hresult⟩ := hw.of_no_page hreply fun _ => hdenies.not_brings
  rw [BanPageReply.bans_of_denies hdenies] at herror
  rw [outcome, hresult, ← Except.error.inj herror]
  rfl

theorem Stands.outcome_of_other (hw : w.Stands api server guildId) {reply : BanPageReply}
    (hreply : reply ∈ w.replies server) (hdenies : ¬reply.Denies)
    (hbrings : ∀ page, ¬reply.Brings page) :
    ∃ reason, w.outcome = some (.error (.banSource reason)) := by
  obtain ⟨e, herror, hresult⟩ := hw.of_no_page hreply hbrings
  obtain ⟨e', reason, herror', hreason⟩ : ∃ e reason, reply.bans (api.url guildId) = .error e
      ∧ e.cacheError = .banSource reason := BanPageReply.bans_of_other hdenies hbrings
  obtain rfl := Except.error.inj (herror.symm.trans herror')
  refine ⟨reason, ?_⟩
  rw [outcome, hresult, ← hreason]
  rfl

/-- A list that is returned has the bans of all pages, and the last page was not full. -/
theorem Stands.exists_pages (hw : w.Stands api server guildId) {bans : List Ban}
    (houtcome : w.outcome = some (.ok bans)) :
    ∃ last pages, List.Forall₂ BanPageReply.Brings (w.replies server) (last :: pages)
      ∧ last.length < banPageLimit ∧ (∀ page ∈ pages, banPageLimit ≤ page.length)
      ∧ bans = (last :: pages).reverse.flatten := by
  cases hw with
  | goesOn hresult _ _ _ => rw [outcome, hresult] at houtcome; cases houtcome
  | failed _ _ _ hresult => rw [outcome, hresult] at houtcome; cases houtcome
  | ended hpages hlast hfull hresult =>
      rw [outcome, hresult] at houtcome
      exact ⟨_, _, hpages, hlast, hfull, (Except.ok.inj (Option.some.inj houtcome)).symm⟩

end PageWalk

/-! ## Servers that keep a list -/

section

variable (lt : String → String → Prop) [DecidableRel lt]

/-- The bans of users behind a user, all of them if there is none. -/
def bansBehind (bans : List Ban) : Option String → List Ban
  | none => bans
  | some id => bans.filter fun ban => lt id ban.user.id

/-- The server keeps a list of bans and answers each request with the part of it that is asked for,
up to the limit. -/
def BanServer.Keeps (server : BanServer) (guildId : String) (bans : List Ban) : Prop :=
  ∀ before after, (server before ⟨guildId, after⟩).Brings
    ((bansBehind lt bans after).take banPageLimit)

/-- The bans are those of different users, in order. -/
def InUserOrder (bans : List Ban) : Prop :=
  bans.Pairwise fun a b => lt a.user.id b.user.id

/-- The last user of a list. -/
def lastUser (bans : List Ban) : Option String :=
  bans.getLast?.map fun ban => ban.user.id

variable {lt}

theorem lastUser_append {xs ys : List Ban} (hys : ys ≠ []) : lastUser (xs ++ ys) = lastUser ys := by
  obtain ⟨init, last, rfl⟩ := (List.eq_nil_or_concat ys).resolve_left hys
  simp [lastUser]

/-- Behind the last user of its first part is the rest of a list. -/
theorem bansBehind_lastUser [IsStrictOrder String lt] {xs ys : List Ban}
    (h : InUserOrder lt (xs ++ ys)) : bansBehind lt (xs ++ ys) (lastUser xs) = ys := by
  rcases List.eq_nil_or_concat xs with rfl | ⟨init, last, rfl⟩
  · rfl
  · rw [List.concat_eq_append] at h ⊢
    have hlast : lastUser (init ++ [last]) = some last.user.id := by
      simp [lastUser]
    obtain ⟨hxs, -, hcross⟩ := List.pairwise_append.mp h
    obtain ⟨-, -, hinit⟩ := List.pairwise_append.mp hxs
    rw [hlast, bansBehind, List.filter_append, List.filter_eq_nil_iff.mpr, List.filter_eq_self.mpr,
      List.nil_append]
    · intro ban hban
      exact decide_eq_true (hcross last (by simp) ban hban)
    · intro ban hban hbehind
      have hbehind : lt last.user.id ban.user.id := of_decide_eq_true hbehind
      rcases List.mem_append.mp hban with hban | hban
      · have hbefore := hinit ban hban last List.mem_cons_self
        exact irrefl _ (IsTrans.trans _ _ _ hbehind hbefore)
      · rw [List.mem_singleton.mp hban] at hbehind
        exact irrefl _ hbehind

namespace PageWalk

variable {api : BanApi} {server : BanServer} {guildId : String} {w : PageWalk} {n : Nat}

/-- The walk goes on, and in `n` requests it has got some bans. -/
structure HasRead (w : PageWalk) (n : Nat) (read : List Ban) : Prop where
  goesOn : w.result = none
  requests : w.requests.length = n
  bans : w.bans = read
  after : w.after = lastUser read

/-- The next page is the next part of the list. -/
theorem HasRead.step_eq (api : BanApi) [IsStrictOrder String lt] {xs ys : List Ban}
    (hw : w.HasRead n xs) (hbans : InUserOrder lt (xs ++ ys))
    (hserver : server.Keeps lt guildId (xs ++ ys)) :
    w.step api server guildId
      = { w with requests := ⟨guildId, w.after⟩ :: w.requests }.addPage (ys.take banPageLimit) := by
  have hbrings := hserver w.requests w.after
  rw [hw.after, bansBehind_lastUser hbans, ← hw.after] at hbrings
  exact step_of_brings hbrings

theorem run_full_pages (api : BanApi) [IsStrictOrder String lt] {bans : List Ban}
    (hbans : InUserOrder lt bans) (hserver : server.Keeps lt guildId bans) :
    ∀ n, n * banPageLimit ≤ bans.length →
      (run api server guildId n {}).HasRead n (bans.take (n * banPageLimit)) := by
  intro n
  induction n with
  | zero =>
      intro _
      rw [Nat.zero_mul, List.take_zero]
      exact ⟨rfl, rfl, rfl, rfl⟩
  | succ n ih =>
      intro hn
      rw [Nat.succ_mul] at hn ⊢
      have hread := ih (by omega)
      have hsplit := List.take_append_drop (n * banPageLimit) bans
      have hstep := hread.step_eq api (hsplit.symm ▸ hbans) (hsplit.symm ▸ hserver)
      have hlength : ((bans.drop (n * banPageLimit)).take banPageLimit).length = banPageLimit := by
        rw [List.length_take, List.length_drop]
        omega
      have hne : (bans.drop (n * banPageLimit)).take banPageLimit ≠ [] := by
        rw [← List.length_pos_iff, hlength]
        decide
      rw [run_succ_of_none hread.goesOn, hstep, List.take_add]
      refine ⟨?_, ?_, ?_, ?_⟩
      · rw [result_addPage, if_neg (by omega)]
      · simp [addPage, hread.requests]
      · simp [addPage, hread.bans]
      · rw [lastUser_append hne]
        rfl

/-- A walk through a list that a server keeps ends with the list, at the first page that is not
full. -/
theorem run_whole_list (api : BanApi) [IsStrictOrder String lt] {bans : List Ban}
    (hbans : InUserOrder lt bans) (hserver : server.Keeps lt guildId bans) :
    let w := run api server guildId (bans.length / banPageLimit + 1) {}
    w.result = some (.ok bans) ∧ w.requests.length = bans.length / banPageLimit + 1 := by
  intro w
  have hread := run_full_pages api hbans hserver _ (Nat.div_mul_le_self bans.length _)
  have hsplit := List.take_append_drop (bans.length / banPageLimit * banPageLimit) bans
  have hstep := hread.step_eq api (hsplit.symm ▸ hbans) (hsplit.symm ▸ hserver)
  have hrest : (bans.drop (bans.length / banPageLimit * banPageLimit)).length < banPageLimit := by
    have hmod := Nat.mod_lt bans.length (show 0 < banPageLimit by decide)
    have hsum := Nat.div_add_mod' bans.length banPageLimit
    rw [List.length_drop]
    omega
  have hw : w = _ := (run_succ_of_none hread.goesOn).trans hstep
  rw [hw, List.take_of_length_le (Nat.le_of_lt hrest), result_addPage, if_pos hrest]
  refine ⟨?_, ?_⟩
  · simp only [hread.bans, hsplit]
  · simp [addPage, hread.requests]

end PageWalk

end

namespace PageWalk

/-- Where a server keeps a list, a walk ends with the whole list, after as many requests as there
are full pages and one more, and it does not end before. Whatever the server does, a denial makes
the list inaccessible, and any other reply that is no page is a failure of the source. A list is
only returned with the bans of all pages, up to the one that was not full. -/
theorem reads_whole_list (api : BanApi) (server : BanServer) (guildId : String) :
    (∀ (lt : String → String → Prop) [IsStrictTotalOrder String lt] [DecidableRel lt]
        (bans : List Ban), InUserOrder lt bans → server.Keeps lt guildId bans →
      let w := run api server guildId (bans.length / banPageLimit + 1) {}
      w.outcome = some (.ok bans) ∧ w.requests.length = bans.length / banPageLimit + 1
      ∧ ∀ n ≤ bans.length / banPageLimit, (run api server guildId n {}).outcome = none)
    ∧ ∀ n, let w := run api server guildId n {}
      (∀ reply ∈ w.replies server, reply.Denies → w.outcome = some (.error .notFound))
      ∧ (∀ reply ∈ w.replies server, ¬reply.Denies → (∀ page, ¬reply.Brings page) →
        ∃ reason, w.outcome = some (.error (.banSource reason)))
      ∧ ∀ bans, w.outcome = some (.ok bans) →
        ∃ last pages, List.Forall₂ BanPageReply.Brings (w.replies server) (last :: pages)
          ∧ last.length < banPageLimit ∧ (∀ page ∈ pages, banPageLimit ≤ page.length)
          ∧ bans = (last :: pages).reverse.flatten := by
  refine ⟨?_, ?_⟩
  · intro lt _ _ bans hbans hserver w
    obtain ⟨hresult, hrequests⟩ := run_whole_list api hbans hserver
    refine ⟨by rw [outcome, hresult]; rfl, hrequests, ?_⟩
    intro n hn
    have hle := Nat.le_trans (Nat.mul_le_mul_right _ hn) (Nat.div_mul_le_self bans.length _)
    rw [outcome, (run_full_pages api hbans hserver n hle).goesOn]
    rfl
  · intro n w
    have hw : w.Stands api server guildId := stands_run n
    refine ⟨?_, ?_, ?_⟩
    · intro reply hreply hdenies
      exact hw.outcome_of_denies hreply hdenies
    · intro reply hreply hdenies hbrings
      exact hw.outcome_of_other hreply hdenies hbrings
    · intro bans houtcome
      exact hw.exists_pages houtcome

end PageWalk

/-! ## A server that keeps a list -/

namespace Ban

/-- Pages tell no more of a user than the id and the name. -/
def IsOnPage (b : Ban) : Prop :=
  b.user = { id := b.user.id, username := b.user.username }

def pageEntry (b : Ban) : Document :=
  .ofFields
    [("user", .ofFields [("id", encode b.user.id), ("username", encode b.user.username)]),
     ("reason", encode b.reason)]

theorem banOnPage?_pageEntry {b : Ban} (h : b.IsOnPage) :
    banOnPage? Dialect.json b.pageEntry = some b := by
  have huser : bannedUser? Dialect.json
      (.ofFields [("id", encode b.user.id), ("username", encode b.user.username)])
        = some b.user := by
    rw [bannedUser?, Document.record?_ofFields _ (by simp) (by simp), h]
    simp [Fields.required, Fields.field, List.lookup_cons, LawfulCodec.decode_encode]
  rw [banOnPage?, pageEntry, Document.record?_ofFields _ (by simp) (by simp)]
  simp [Fields.field, List.lookup_cons, huser, LawfulCodec.decode_encode]

end Ban

theorem banPage?_pageEntries {bans : List Ban} (h : ∀ b ∈ bans, b.IsOnPage) :
    banPage? (.list (bans.map Ban.pageEntry)) = some bans := by
  show (bans.map Ban.pageEntry).mapM (banOnPage? Dialect.json) = some bans
  induction bans with
  | nil => rfl
  | cons b bans ih =>
      obtain ⟨hfirst, hrest⟩ := List.forall_mem_cons.mp h
      rw [List.map_cons, List.mapM_cons, Ban.banOnPage?_pageEntry hfirst, ih hrest]
      rfl

/-- The server that keeps a list of bans and never fails. -/
def BanServer.ofList (lt : String → String → Prop) [DecidableRel lt] (bans : List Ban) :
    BanServer :=
  fun _ request =>
    .answered 200
      (some (.list (((bansBehind lt bans request.after).take banPageLimit).map Ban.pageEntry)))

theorem BanServer.keeps_ofList (lt : String → String → Prop) [DecidableRel lt] (guildId : String)
    {bans : List Ban} (h : ∀ b ∈ bans, b.IsOnPage) : (ofList lt bans).Keeps lt guildId bans := by
  intro before after
  refine ⟨200, _, rfl, rfl, banPage?_pageEntries fun b hb => ?_⟩
  cases after with
  | none => exact h b (List.mem_of_mem_take hb)
  | some id => exact h b (List.mem_filter.mp (List.mem_of_mem_take hb)).1

/-- As many bans as there are on a full page. -/
def sampleFullPage : List Ban :=
  (List.range banPageLimit).map fun i =>
    { user := { id := String.ofList (List.replicate (i + 1) '1') } }

theorem inUserOrder_sampleFullPage : InUserOrder (· < ·) sampleFullPage := by
  have hlt : ∀ i j, i < j → List.replicate i '1' < List.replicate j '1' := by
    intro i
    induction i with
    | zero =>
        intro j hj
        obtain ⟨k, rfl⟩ := Nat.exists_eq_succ_of_ne_zero (by omega : j ≠ 0)
        exact List.nil_lt_cons _ _
    | succ i ih =>
        intro j hj
        obtain ⟨k, rfl⟩ := Nat.exists_eq_succ_of_ne_zero (by omega : j ≠ 0)
        exact List.cons_lt_cons_iff.mpr (.inr ⟨rfl, ih k (by omega)⟩)
  refine List.pairwise_map.mpr (List.pairwise_lt_range.imp ?_)
  intro i j hij
  show String.ofList (List.replicate (i + 1) '1') < String.ofList (List.replicate (j + 1) '1')
  rw [String.lt_iff_toList_lt, String.toList_ofList, String.toList_ofList]
  exact hlt _ _ (by omega)

/-- A list that just fills a page takes a second request, which finds nothing more. -/
theorem PageWalk.reads_sampleFullPage :
    let api : BanApi := ⟨"https://relay", "token"⟩
    let server := BanServer.ofList (· < ·) sampleFullPage
    (run api server "1" 2 {}).outcome = some (.ok sampleFullPage)
    ∧ (run api server "1" 2 {}).requests.length = 2
    ∧ (run api server "1" 1 {}).outcome = none := by
  intro api server
  have hlength : sampleFullPage.length / banPageLimit = 1 := by
    rw [sampleFullPage, List.length_map, List.length_range]
    rfl
  have hserver : server.Keeps (· < ·) "1" sampleFullPage := by
    refine BanServer.keeps_ofList _ "1" fun b hb => ?_
    obtain ⟨i, -, rfl⟩ := List.mem_map.mp hb
    rfl
  obtain ⟨hwhole, -⟩ := reads_whole_list api server "1"
  have hread := hwhole (· < ·) sampleFullPage inUserOrder_sampleFullPage hserver
  rw [hlength] at hread
  obtain ⟨houtcome, hrequests, hbefore⟩ := hread
  exact ⟨houtcome, hrequests, hbefore 1 le_rfl⟩

end GuildRelay
