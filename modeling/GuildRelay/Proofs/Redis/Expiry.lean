import GuildRelay.Redis.Link
import GuildRelay.Session.Basic
/-!
# When records expire on a server

Records expire after a number of seconds that the settings give, and a server is told of it in
milliseconds, in a word of 64 bits (`Operation.expiryArgument`). It is told the time of the settings
exactly if the milliseconds fit into the word (`sentMilliseconds_eq_iff`), that is for some 584
million years. Of a longer time it is told what is left modulo `2 ^ 64`, so that records which
should be kept longer may be gone sooner.
-/

namespace GuildRelay

/-- How many milliseconds a server is told for a number of seconds. -/
def sentMilliseconds (seconds : Nat) : Nat :=
  (UInt64.ofNat (max (seconds * 1000) 1)).toNat

theorem expiryArgument_eq (seconds : Nat) :
    Operation.expiryArgument (seconds * 1000) = toString (sentMilliseconds seconds) := rfl

theorem sentMilliseconds_eq {seconds : Nat} (h : 0 < seconds) :
    sentMilliseconds seconds = seconds * 1000 % 18446744073709551616 := by
  have hmax : max (seconds * 1000) 1 = seconds * 1000 := by omega
  rw [sentMilliseconds, hmax]
  exact UInt64.toNat_ofNat'

/-- A server is told the time that is meant exactly if that fits into a word. -/
theorem sentMilliseconds_eq_iff {seconds : Nat} (h : 0 < seconds) :
    sentMilliseconds seconds = seconds * 1000 ↔ seconds ≤ 18446744073709551 := by
  rw [sentMilliseconds_eq h]
  omega

namespace RedisLink

/-- A command is sent whatever comes back for it. -/
theorem commands_call {link : RedisLink} (hlink : link.isReachable = true) {key : String}
    {op : Operation} {command : RedisCommand} (hcommand : op.request key = .inr command) :
    (link.call key op).2.commands = command :: link.commands := by
  simp only [call, hcommand, hlink]
  cases link.interference link.commands command with
  | none => rfl
  | some reply => rfl

end RedisLink

namespace Session

/-- Writes a record over a link. -/
def writeOver {α : Type} [Encode α] (s : Session) (link : RedisLink) (key : Key) (a : α) :
    Except CacheError Unit × RedisLink :=
  ((Cache.write s.cacheSettings key a).mapKeys (Key.text s.settings.ns)).runOn
    RedisLink.backend link

theorem commands_writeOver {α : Type} [Encode α] (s : Session)
    (hexpiry : s.settings.expireSeconds ≠ 0) (link : RedisLink) (hlink : link.isReachable = true)
    (key : Key) (a : α) :
    (s.writeOver link key a).2.commands =
      ["SET", key.text s.settings.ns, (encode a).json, "PX",
        toString (sentMilliseconds s.settings.expireSeconds.toNat)] :: link.commands := by
  have hrequest : (Operation.set (encode a).json s.cacheSettings.expiry).request
      (key.text s.settings.ns) = .inr ["SET", key.text s.settings.ns, (encode a).json, "PX",
        toString (sentMilliseconds s.settings.expireSeconds.toNat)] := by
    have hsome : s.cacheSettings.expiry = some (s.settings.expireSeconds.toNat * 1000) := by
      simp [cacheSettings, Settings.expiry, hexpiry]
    rw [hsome, ← expiryArgument_eq]
    rfl
  exact RedisLink.commands_call hlink hrequest

/-- Where records expire, every record is written with the time of the settings in milliseconds, as
far as a word of 64 bits holds it. It is the very time exactly up to 18446744073709551 seconds, and
up to there a longer time is never sent as a smaller number. -/
theorem expiry_is_sent {α : Type} [Encode α] (s : Session)
    (hexpiry : s.settings.expireSeconds ≠ 0) (link : RedisLink) (hlink : link.isReachable = true)
    (key : Key) (a : α) :
    let seconds := s.settings.expireSeconds.toNat
    (s.writeOver link key a).2.commands =
      ["SET", key.text s.settings.ns, (encode a).json, "PX", toString (sentMilliseconds seconds)]
        :: link.commands
    ∧ sentMilliseconds seconds = seconds * 1000 % 18446744073709551616
    ∧ (sentMilliseconds seconds = seconds * 1000 ↔ seconds ≤ 18446744073709551)
    ∧ (seconds ≤ 18446744073709551 → ∀ shorter, 0 < shorter → shorter ≤ seconds →
      sentMilliseconds shorter ≤ sentMilliseconds seconds) := by
  intro seconds
  have hpos : 0 < seconds :=
    Nat.pos_of_ne_zero fun h => hexpiry (UInt64.toNat_inj.mp h)
  refine ⟨s.commands_writeOver hexpiry link hlink key a, sentMilliseconds_eq hpos,
    sentMilliseconds_eq_iff hpos, fun hfits shorter hshorter hle => ?_⟩
  rw [(sentMilliseconds_eq_iff hpos).mpr hfits,
    (sentMilliseconds_eq_iff hshorter).mpr (Nat.le_trans hle hfits)]
  omega

/-- Records are kept for some 584 million years, the first time that does not fit. -/
def sampleLasting : Session where
  settings := { expireSeconds := 18446744073709552 }
  source := "relay"
  table := {}

def sampleBrief : Session :=
  { sampleLasting with settings := { expireSeconds := 1 } }

/-- Settings with the time that does not fit are loaded, and a record is then to expire sooner than
with a second. -/
theorem sample_expiry_is_sent :
    let key := Key.user "3"
    let user : User := { id := "3" }
    ((Settings.load (.text "[state]\nexpire_seconds = 18446744073709552\n") fun _ => none).map
      (·.expireSeconds)).toOption = some sampleLasting.settings.expireSeconds
    ∧ (sampleLasting.writeOver {} key user).2.commands =
      [["SET", "project-d:state:user-3", (encode user).json, "PX", "384"]]
    ∧ (sampleBrief.writeOver {} key user).2.commands =
      [["SET", "project-d:state:user-3", (encode user).json, "PX", "1000"]] := by
  intro key user
  obtain ⟨hlasting, -⟩ := sampleLasting.expiry_is_sent (by decide) {} rfl key user
  obtain ⟨hbrief, -⟩ := sampleBrief.expiry_is_sent (by decide) {} rfl key user
  exact ⟨by decide +kernel, hlasting, hbrief⟩

end Session

end GuildRelay
