import GuildRelay.Proofs.BanList.Walk
import Mathlib.Data.List.Perm.Subperm
/-!
# When a walk through the pages ends

A walk has no other bound than what the server does: a full page is followed by another request, and
nothing checks that its last user lies behind the one asked for. With finitely many bans to show, a
server can only keep the walk going by sending it back, to a user behind whom a page was asked for
before (`PageWalk.IsSentBack`). Until then the pages start behind different users, so there are no
more requests than bans, and one (`PageWalk.requests_le_of_not_sentBack`). A server that goes by the
request alone then answers as it did the first time, and the walk goes round for good.
-/

namespace GuildRelay

/-- The pages of the server only show bans of a list. -/
def BanServer.ShowsOnly (server : BanServer) (banned : List Ban) : Prop :=
  ∀ before request page, (server before request).Brings page → page ⊆ banned

/-- The server answers a request the same way whatever was asked before. -/
def BanServer.GoesByRequest (server : BanServer) : Prop :=
  ∀ before before' request, server before request = server before' request

namespace PageWalk

variable {api : BanApi} {server : BanServer} {guildId : String} {w w' : PageWalk} {m n : Nat}

/-! ## Where the pages start -/

/-- The users behind whom the pages started, the latest first. -/
def starts (w : PageWalk) : List (Option String) :=
  w.requests.map fun request => request.after

/-- The next page starts where an earlier one did. -/
def IsSentBack (w : PageWalk) : Prop :=
  w.after ∈ w.starts

theorem starts_step : (w.step api server guildId).starts = w.after :: w.starts := by
  rw [starts, requests_step]
  rfl

/-- The walk goes on with a full page, and the next one starts behind its last user. -/
theorem step_goesOn_iff : (w.step api server guildId).result = none ↔
    ∃ page, (server w.requests ⟨guildId, w.after⟩).Brings page ∧ banPageLimit ≤ page.length := by
  constructor
  · intro h
    cases hreply : (server w.requests ⟨guildId, w.after⟩).bans (api.url guildId) with
    | error e =>
        rw [step_of_error hreply] at h
        cases h
    | ok page =>
        have hbrings := BanPageReply.bans_eq_ok_iff.mp hreply
        rw [step_of_brings hbrings, result_addPage] at h
        refine ⟨page, hbrings, ?_⟩
        by_contra hshort
        rw [if_pos (by omega)] at h
        cases h
  · rintro ⟨page, hbrings, hfull⟩
    rw [step_of_brings hbrings, result_addPage, if_neg (by omega)]

theorem after_step {page : List Ban}
    (h : (server w.requests ⟨guildId, w.after⟩).Brings page) :
    (w.step api server guildId).after = lastUser page := by
  rw [step_of_brings h]
  rfl

theorem length_starts_run (h : (run api server guildId n {}).result = none) :
    (run api server guildId n {}).starts.length = n := by
  induction n with
  | zero => rfl
  | succ n ih =>
      have hresult := result_of_succ h
      rw [run_succ_of_none hresult, starts_step, List.length_cons, ih hresult]

theorem exists_of_mem_starts_run (h : (run api server guildId n {}).result = none)
    {start : Option String} (hstart : start ∈ (run api server guildId n {}).starts) :
    ∃ m < n, (run api server guildId m {}).after = start := by
  induction n with
  | zero => cases hstart
  | succ n ih =>
      have hresult := result_of_succ h
      rw [run_succ_of_none hresult, starts_step] at hstart
      rcases List.mem_cons.mp hstart with rfl | hstart
      · exact ⟨n, by omega, rfl⟩
      · obtain ⟨m, hm, hafter⟩ := ih hresult hstart
        exact ⟨m, by omega, hafter⟩

/-! ## Servers with finitely many bans -/

theorem after_run_mem {banned : List Ban} (hserver : server.ShowsOnly banned)
    (h : (run api server guildId n {}).result = none) :
    (run api server guildId n {}).after ∈ none :: banned.map fun ban => some ban.user.id := by
  cases n with
  | zero => exact List.mem_cons_self
  | succ n =>
      have hresult := result_of_succ h
      rw [run_succ_of_none hresult] at h ⊢
      obtain ⟨page, hbrings, -⟩ := step_goesOn_iff.mp h
      rw [after_step hbrings, lastUser]
      cases hlast : page.getLast? with
      | none => exact List.mem_cons_self
      | some ban =>
          have hban := hserver _ _ _ hbrings (List.mem_of_getLast? hlast)
          exact List.mem_cons_of_mem _ (List.mem_map_of_mem hban)

theorem nodup_starts_run (h : (run api server guildId n {}).result = none)
    (hnew : ∀ m ≤ n, ¬(run api server guildId m {}).IsSentBack) :
    ((run api server guildId n {}).after :: (run api server guildId n {}).starts).Nodup := by
  refine List.nodup_cons.mpr ⟨hnew n le_rfl, ?_⟩
  induction n with
  | zero => exact List.nodup_nil
  | succ n ih =>
      have hresult := result_of_succ h
      rw [run_succ_of_none hresult, starts_step]
      exact List.nodup_cons.mpr
        ⟨hnew n (by omega), ih hresult fun m hm => hnew m (by omega)⟩

/-- As long as it is not sent back, a walk that goes on has made no more requests than there are
bans. -/
theorem requests_le_of_not_sentBack {banned : List Ban} (hserver : server.ShowsOnly banned)
    (h : (run api server guildId n {}).result = none)
    (hnew : ∀ m ≤ n, ¬(run api server guildId m {}).IsSentBack) : n ≤ banned.length := by
  have hsubset : (run api server guildId n {}).after :: (run api server guildId n {}).starts
      ⊆ none :: banned.map fun ban => some ban.user.id := by
    intro start hstart
    rcases List.mem_cons.mp hstart with rfl | hstart
    · exact after_run_mem hserver h
    · obtain ⟨m, hm, rfl⟩ := exists_of_mem_starts_run h hstart
      exact after_run_mem hserver (result_of_le (Nat.le_of_lt hm) h)
  have hlength := (List.subperm_of_subset (nodup_starts_run h hnew) hsubset).length_le
  simp only [List.length_cons, List.length_map, length_starts_run h] at hlength
  omega

/-! ## Going round -/

theorem step_congr (hserver : server.GoesByRequest) (hafter : w'.after = w.after)
    (h : (w.step api server guildId).result = none) :
    (w'.step api server guildId).result = none
      ∧ (w'.step api server guildId).after = (w.step api server guildId).after := by
  obtain ⟨page, hbrings, hfull⟩ := step_goesOn_iff.mp h
  have hbrings' : (server w'.requests ⟨guildId, w'.after⟩).Brings page := by
    rw [hafter, hserver w'.requests w.requests]
    exact hbrings
  exact ⟨step_goesOn_iff.mpr ⟨page, hbrings', hfull⟩,
    (after_step hbrings').trans (after_step hbrings).symm⟩

/-- Once two pages start behind the same user, the walk repeats what it did between them. -/
theorem run_goes_round (hserver : server.GoesByRequest) (hmn : m < n)
    (h : (run api server guildId n {}).result = none)
    (hafter : (run api server guildId n {}).after = (run api server guildId m {}).after) (k : Nat) :
    (run api server guildId (n + k) {}).result = none
      ∧ (run api server guildId (n + k) {}).after = (run api server guildId (m + k) {}).after := by
  induction k with
  | zero => exact ⟨h, hafter⟩
  | succ k ih =>
      obtain ⟨hresult, hsame⟩ := ih
      have hearlier : (run api server guildId (m + k + 1) {}).result = none :=
        result_of_le (by omega) hresult
      have hstep := run_succ_of_none (result_of_succ hearlier)
      rw [hstep] at hearlier
      obtain ⟨hagain, hstart⟩ := step_congr hserver hsame hearlier
      rw [← Nat.add_assoc, ← Nat.add_assoc, run_succ_of_none hresult, hstep]
      exact ⟨hagain, hstart⟩

/-- A walk through the pages of a server with finitely many bans ends within as many requests as
there are bans, and one, unless it is sent back. By a server that goes by the request alone it is
then sent back for ever. -/
theorem ends_unless_sent_back (api : BanApi) (server : BanServer) (guildId : String)
    (banned : List Ban) (hshows : server.ShowsOnly banned) :
    ((run api server guildId (banned.length + 1) {}).result.isSome
      ∨ ∃ n ≤ banned.length + 1, (run api server guildId n {}).result = none
        ∧ (run api server guildId n {}).IsSentBack)
    ∧ (server.GoesByRequest →
      (∃ n, (run api server guildId n {}).result = none
        ∧ (run api server guildId n {}).IsSentBack) →
      ∀ n, (run api server guildId n {}).result = none) := by
  refine ⟨?_, ?_⟩
  · cases hresult : (run api server guildId (banned.length + 1) {}).result with
    | some r => exact .inl rfl
    | none =>
        right
        by_contra hnever
        have hle := requests_le_of_not_sentBack hshows hresult fun m hm hback =>
          hnever ⟨m, hm, result_of_le hm hresult, hback⟩
        omega
  · rintro hserver ⟨n, hresult, hback⟩ k
    obtain ⟨m, hmn, hafter⟩ := exists_of_mem_starts_run hresult hback
    obtain ⟨hround, -⟩ := run_goes_round hserver hmn hresult hafter.symm k
    exact result_of_le (by omega) hround

end PageWalk

/-! ## A server that is stuck -/

/-- The server that always shows the same page. -/
def BanServer.always (page : List Ban) : BanServer :=
  fun _ _ => .answered 200 (some (.list (page.map Ban.pageEntry)))

theorem BanServer.brings_always_iff {page : List Ban} (h : ∀ b ∈ page, b.IsOnPage)
    (before : List BanPageRequest) (request : BanPageRequest) (shown : List Ban) :
    (always page before request).Brings shown ↔ shown = page := by
  constructor
  · rintro ⟨status, body, hreply, -, hshown⟩
    obtain ⟨rfl, hbody⟩ := BanPageReply.answered.inj hreply
    rw [← Option.some.inj hbody, banPage?_pageEntries h] at hshown
    exact (Option.some.inj hshown).symm
  · rintro rfl
    exact ⟨200, _, rfl, rfl, banPage?_pageEntries h⟩

/-- One ban, as often as there are bans on a full page. -/
def sampleStuckPage : List Ban :=
  List.replicate banPageLimit { user := { id := "1" } }

theorem isOnPage_sampleStuckPage : ∀ b ∈ sampleStuckPage, b.IsOnPage := by
  intro b hb
  rw [List.eq_of_mem_replicate hb]
  rfl

theorem showsOnly_sampleStuckPage :
    (BanServer.always sampleStuckPage).ShowsOnly [{ user := { id := "1" } }] := by
  intro before request page hbrings b hb
  rw [(BanServer.brings_always_iff isOnPage_sampleStuckPage _ _ _).mp hbrings] at hb
  exact List.mem_singleton.mpr (List.eq_of_mem_replicate hb)

theorem PageWalk.result_sampleStuckPage (api : BanApi) (guildId : String) (n : Nat) :
    (run api (.always sampleStuckPage) guildId n {}).result = none := by
  induction n with
  | zero => rfl
  | succ n ih =>
      rw [run_succ_of_none ih]
      have hbrings := BanServer.brings_always_iff isOnPage_sampleStuckPage
      refine step_goesOn_iff.mpr ⟨sampleStuckPage, (hbrings _ _ _).mpr rfl, ?_⟩
      rw [sampleStuckPage, List.length_replicate]

/-- A server with a single ban that is asked for it for ever. -/
theorem PageWalk.never_ends_sampleStuckPage :
    let api : BanApi := ⟨"https://relay", "token"⟩
    let server := BanServer.always sampleStuckPage
    server.ShowsOnly [{ user := { id := "1" } }]
    ∧ ∀ n, let w := run api server "1" n {}
      w.result = none ∧ w.requests.length = n := by
  intro api server
  refine ⟨showsOnly_sampleStuckPage, ?_⟩
  intro n w
  have hresult := result_sampleStuckPage api "1" n
  refine ⟨hresult, ?_⟩
  rw [← length_starts_run hresult, starts, List.length_map]

theorem PageWalk.sent_back_sampleStuckPage :
    let api : BanApi := ⟨"https://relay", "token"⟩
    let server := BanServer.always sampleStuckPage
    server.GoesByRequest
    ∧ (∃ n ≤ 2, (run api server "1" n {}).result = none ∧ (run api server "1" n {}).IsSentBack)
    ∧ ∀ n, (run api server "1" n {}).result = none := by
  intro api server
  have hserver : server.GoesByRequest := fun _ _ _ => rfl
  obtain ⟨hends, hround⟩ := ends_unless_sent_back api server "1" _ showsOnly_sampleStuckPage
  rcases hends with hended | hback
  · rw [result_sampleStuckPage] at hended
    cases hended
  · obtain ⟨n, hn, hsent⟩ := hback
    exact ⟨hserver, ⟨n, hn, hsent⟩, hround hserver ⟨n, hsent⟩⟩

end GuildRelay
