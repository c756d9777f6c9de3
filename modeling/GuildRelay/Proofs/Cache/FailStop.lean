import GuildRelay.Cache.Service
import GuildRelay.Proofs.Cache.Cuts
import GuildRelay.Proofs.Cache.Moves
/-!
# Failing at a call

What an event leaves behind when one of its calls fails is known to the last call. The calls that a
program makes on a host are a list (`Program.callsOn`), and where none fails the store after them is
the store before with the calls carried out on it, one after the other (`Program.store_run`). With a
failure in the middle the program has made the calls up to the one that failed, and the store has
been through those before it (`Program.Stops.run_failing`).

The induction is on the program. It needs of it only that a failed call ends it, which `Scripted`
gives for all handlers at once (`Cache.events_fail_stop`). Nothing is assumed of what the store
holds.
-/

namespace GuildRelay

/-- The store after calls that all reach it. -/
def Store.afterCalls (now : Nat) (s : Store) (calls : List StoreCall) : Store :=
  calls.foldl (fun s c => (s.answer now c.key c.op).2) s

namespace Host

/-- The host when of some calls the first `n` have reached the store and the next one has failed. -/
def stopped (h : Host) (calls : List StoreCall) (n : Nat) (error : CacheError) : Host :=
  { h.failing n 1 error with
    store := h.store.afterCalls h.now (calls.take n)
    calls := (calls.take (n + 1)).reverse ++ h.calls }

theorem stopped_succ {h : Host} (hfaults : ∀ n, h.faults n = none) (key : String)
    (op : Operation) (calls : List StoreCall) (n : Nat) (error : CacheError) :
    h.stopped (⟨key, op⟩ :: calls) (n + 1) error = (h.call key op).2.stopped calls n error := by
  have hlength : h.calls.length + 1 + n = h.calls.length + (n + 1) := by omega
  rw [call_of_faultless hfaults]
  simp [stopped, failing, Store.afterCalls, hlength]

end Host

namespace Program

variable {α : Type}

/-- The calls that the program makes on a host, the first one first. -/
def callsOn : Program String α → Host → List StoreCall
  | done _, _ => []
  | call key op next, h => ⟨key, op⟩ :: (next (h.call key op).1).callsOn (h.call key op).2
  | fetchBans guildId next, h =>
    (next (h.fetchBans guildId).1).callsOn (h.fetchBans guildId).2

theorem run_call (key : String) (op : Operation)
    (next : Except CacheError op.Reply → Program String α) (h : Host) :
    (call key op next).run Host.backend h
      = (next (h.call key op).1).run Host.backend (h.call key op).2 := rfl

/-- The host keeps a record of the calls. -/
theorem calls_run : ∀ (p : Program String α) (h : Host),
    (p.run Host.backend h).2.calls = (p.callsOn h).reverse ++ h.calls
  | done _, _ => rfl
  | call key op next, h => by
      have hcall : (h.call key op).2.calls = ⟨key, op⟩ :: h.calls := by
        unfold Host.call
        cases h.faults h.calls.length <;> rfl
      rw [run_call, calls_run, callsOn, List.reverse_cons, List.append_assoc, hcall]
      rfl
  | fetchBans guildId next, h => calls_run (next (h.fetchBans guildId).1) (h.fetchBans guildId).2

/-- Where no call fails, the store has been through all of them. -/
theorem store_run : ∀ (p : Program String α) {h : Host}, (∀ n, h.faults n = none) →
    (p.run Host.backend h).2.store = h.store.afterCalls h.now (p.callsOn h)
  | done _, _, _ => rfl
  | call key op next, h, hfaults => by
      rw [run_call, store_run _ (h.faults_call hfaults key op), callsOn,
        Host.call_of_faultless hfaults]
      rfl
  | fetchBans guildId next, h, hfaults =>
      store_run (next (h.fetchBans guildId).1) hfaults

/-- A program that stops at a failed call has made the calls up to that one, and the store has been
through the calls before it. -/
theorem Stops.run_failing {ns : String} {error : CacheError} (herror : error ≠ .notFound) :
    ∀ {p : Program Key (Except CacheError α)} {h : Host} (n : Nat), p.Stops →
      (∀ m, h.faults m = none) → n < ((p.mapKeys (Key.text ns)).callsOn h).length →
      (p.mapKeys (Key.text ns)).run Host.backend (h.failing n 1 error) =
        (.error error, h.stopped ((p.mapKeys (Key.text ns)).callsOn h) n error)
  | done _, _, _, _, _, hn => absurd hn (Nat.not_lt_zero _)
  | call k op next, h, 0, ⟨hlast, _⟩, _, _ => by
      simp only [mapKeys, run, Host.backend, Host.call_failing_zero, hlast error herror]
      rfl
  | call k op next, h, n + 1, ⟨_, hnext⟩, hfaults, hn => by
      -- The call passes, and what is left of the program fails one call earlier.
      have hreply : (next (h.call (k.text ns) op).1).Stops := by
        rw [Host.call_of_faultless hfaults]
        exact hnext _
      have hrest := hreply.run_failing herror n (h.faults_call hfaults (k.text ns) op)
        (Nat.lt_of_succ_lt_succ hn)
      simp only [mapKeys, callsOn, Host.stopped_succ hfaults, ← hrest]
      rw [run_call, Host.call_failing_succ hfaults]

end Program

namespace Cache

open Program

/-- When a call of an event fails, other than by a miss, the event ends with the error of that call.
The calls it has made are those that it makes undisturbed, up to the one that failed, and the store
has been through those before. Handling the event comes to no more than that, so that no ban list is
looked at. All of this holds whatever the store keeps. -/
theorem events_fail_stop (h : Host) (ns : String) (settings : CacheSettings) (hasBanSource : Bool)
    (botId : String) (e : Event) {calls : List StoreCall} {n : Nat} {error : CacheError}
    (hcalls : (((apply settings botId e).mapKeys (Key.text ns)).runOn Host.backend
      h.recovered).2.calls = calls.reverse ++ h.calls)
    (hn : n < calls.length) (herror : error ≠ .notFound) :
    ((apply settings botId e).mapKeys (Key.text ns)).runOn Host.backend (h.failing n 1 error)
      = (.error error, h.stopped calls n error)
    ∧ ((handle settings hasBanSource botId e).mapKeys (Key.text ns)).run Host.backend
        (h.failing n 1 error) = (.error error, h.stopped calls n error) := by
  have hmade : callsOn (mapKeys (Key.text ns) (apply settings botId e).run) h.recovered = calls :=
    List.reverse_injective (List.append_cancel_right ((calls_run _ _).symm.trans hcalls))
  subst hmade
  have happly : (mapKeys (Key.text ns) (apply settings botId e).run).run Host.backend
      (h.failing n 1 error) = (.error error, h.stopped _ n error) :=
    (scripted_apply settings botId e).stops.run_failing herror n (h := h.recovered)
      (fun _ => rfl) hn
  refine ⟨happly, ?_⟩
  unfold handle
  rw [mapKeys_andThen, run_andThen, happly]
  rfl

/-- A guild is indexed by its members before its own record is looked for, and so it stays when that
look fails. -/
theorem guild_create_fail_stop :
    let action := (apply {} "3" (.guildCreate World.sampleGuild)).mapKeys (Key.text "relay")
    let stopped := Host.stopped {} (callsOn action.run {}) 6 (.unavailable "down")
    action.runOn Host.backend (Host.failing {} 6 1 (.unavailable "down"))
      = (.error (.unavailable "down"), stopped)
    ∧ stopped.members "relay" (.guildUserIds "1") = ["3"]
    ∧ stopped.members "relay" .allGuildIds = [] := by
  have hlength : 6 < (callsOn ((apply {} "3" (.guildCreate World.sampleGuild)).mapKeys
      (Key.text "relay")).run {}).length := by decide +kernel
  exact ⟨(events_fail_stop {} "relay" {} true "3" _ (calls_run _ _) hlength
    CacheError.noConfusion).1, by decide +kernel, by decide +kernel⟩

end Cache

end GuildRelay
