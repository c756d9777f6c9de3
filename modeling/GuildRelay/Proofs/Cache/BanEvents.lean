import GuildRelay.Proofs.Cache.BanRace
import GuildRelay.Proofs.Cache.History
import GuildRelay.Proofs.Cache.Outcome
import GuildRelay.Proofs.Permission.Precedence
/-!
# Who may change a ban list

A ban event is taken in if the bot that receives it may ban members of the guild, by the records of
the two (`Host.MayBan`), and then it changes the ban list of the guild and nothing else. From
anybody else it changes nothing at all.

Ids are compared as they are. A bot whose id is not known yet has a blank one, and a guild that came
without its owner has a blank owner: the two are the same, so that this bot may ban whomever it
likes. Only where neither owner nor member is blank does it take a real bot.
-/

namespace GuildRelay

namespace Permissions

theorem contains_only (s : Permissions) (p : Permission) : s.contains (only p) = s.has p := by
  have hne : 0#64 ≠ BitVec.twoPow 64 p.index := by
    cases p <;> decide
  rw [Bool.eq_iff_iff, contains, only, has, beq_iff_eq, ← UInt64.toBitVec_inj, UInt64.toBitVec_and,
    BitVec.and_twoPow]
  split
  · next hbit => exact iff_of_true rfl hbit
  · next hbit => exact iff_of_false hne hbit

end Permissions

namespace Tables

variable {t : Tables} {botId guildId : String}

theorem mayReadBans_iff (ht : t.Sound) :
    t.mayReadBans botId guildId = true ↔ ∃ g, t.guild guildId = some g
      ∧ (botId = g.ownerId ∨ ∃ m, t.member guildId botId = some m ∧ g.Allows m .banMembers) := by
  unfold mayReadBans
  cases hguild : t.guild guildId with
  | none => simp
  | some g =>
      simp only [Option.some.injEq, exists_eq_left']
      split
      · next howner => exact iff_of_true (by decide) (.inl howner)
      · next hother =>
        rw [or_iff_right hother]
        cases hmember : t.member guildId botId with
        | none => simp
        | some m =>
            have hm : m.user.id ≠ g.ownerId := by
              rw [ht.member_user hmember]
              exact hother
            simp only [Option.any_some, Option.some.injEq, exists_eq_left']
            rw [Permissions.banRead, Permissions.contains_only]
            exact (Guild.isSetOf_memberPermissions hm).has_iff .banMembers

theorem updated_banChange (t : Tables) (settings : CacheSettings) (botId guildId : String)
    (c : BanChange) :
    t.updated settings botId (c.event guildId)
      = if t.mayReadBans botId guildId then
          (Index.guildBanned guildId).put (c.applyTo (t.guildBannedUserIds guildId)) t
        else t := by
  cases c <;> rfl

end Tables

theorem Cache.leads_banChange {s : Surroundings} {settings : CacheSettings} {t : Tables}
    {botId guildId : String} (hg : PlainId guildId) (ht : t.Sound) (c : BanChange) :
    (Cache.apply settings botId (c.event guildId)).Leads s t fun r _ => r = .ok none := by
  cases c with
  | banned u => exact leads_apply (leads_addBan hg ht (fun _ => rfl) fun _ => rfl)
  | lifted u => exact leads_apply (leads_removeBan hg ht (fun _ => rfl) fun _ => rfl)

namespace Host

/-- The bot has the id of the guild's owner or that of a member whose roles allow it to ban. -/
def MayBan (h : Host) (ns botId guildId : String) : Prop :=
  ∃ g : Guild, h.record ns (.guild guildId) = some g
    ∧ (botId = g.ownerId
      ∨ ∃ m : Member, h.record ns (.member guildId botId) = some m ∧ g.Allows m .banMembers)

theorem Shows.mayBan_iff {ns : String} {s : Surroundings} {h : Host} {t : Tables}
    (hv : h.Shows ns s t.content) (hf : s.fading = false) (ht : t.Sound) {botId guildId : String}
    (hg : PlainId guildId) : h.MayBan ns botId guildId ↔ t.mayReadBans botId guildId = true := by
  have hguild : h.record ns (.guild guildId) = t.guild guildId :=
    hv.record_eq (Tables.Slot.guild guildId) hg hf
  have hmember : h.record ns (.member guildId botId) = t.member guildId botId :=
    hv.record_eq (Tables.Slot.member guildId botId) hg hf
  rw [Tables.mayReadBans_iff ht, MayBan, hguild, hmember]

end Host

namespace World

open Tables

variable {ns : String} {settings : CacheSettings} {w : World} {botId guildId : String}

/-- Where nothing expires, a ban event always goes through. If the bot may not ban members of the
guild, nothing changes. If it may, the user is put on the list of the guild or taken from it, and
nothing else changes. -/
theorem Reachable.ban_events_need_permission (h : Reachable ns settings Event.IsWellNamed w)
    (hexpiry : settings.expiry = none) (hg : PlainId guildId) (botId : String) (c : BanChange) :
    let w' := w.after ns settings botId (c.event guildId)
    let list := (Key.guildBannedUserIds guildId).text ns
    w.result ns settings botId (c.event guildId) = .ok none
    ∧ (¬w.host.MayBan ns botId guildId → ∀ name, w'.host.content name = w.host.content name)
    ∧ (w.host.MayBan ns botId guildId →
      w'.host.content list
        = { w.host.content list with members := c.applyTo (w.host.content list).members }
      ∧ ∀ name, name ≠ list → w'.host.content name = w.host.content name) := by
  intro w' list
  obtain ⟨t, ht, hw⟩ := h.exists_sound settings.surroundings_allows rfl fun _ he => he
  have hf : settings.surroundings.quiet.fading = false := CacheSettings.not_fading hexpiry
  have hs : settings.surroundings.quiet.Allows settings := settings.surroundings_allows
  -- Nothing goes on beside the event, so the ban data of the host can be counted on.
  have hstill := hw.host.withBansOf
  have ht₀ : (t.withBansOf ns w.host).Sound := { ht with }
  generalize t.withBansOf ns w.host = t₀ at *
  have hnamed : (c.event guildId).IsWellNamed := by
    cases c <;> exact hg
  have hafter := shows_after hstill hf hs ht₀ botId hnamed
  rw [updated_banChange] at hafter
  have hmay : w.host.MayBan ns botId guildId ↔ t₀.mayReadBans botId guildId = true :=
    hstill.mayBan_iff hf ht₀ hg
  refine ⟨?_, fun hnot name => ?_, fun hyes => ?_⟩
  · obtain ⟨_, hresult⟩ := exists_result hstill (Cache.leads_banChange hg ht₀ c)
    exact hresult
  · rw [if_neg (mt hmay.mpr hnot)] at hafter
    exact hstill.content_unique hafter hf fun k hk => nomatch hk
  · rw [if_pos (hmay.mp hyes), (Index.guildBanned guildId).content_put] at hafter
    refine ⟨?_, fun name hname => ?_⟩
    · have hbefore : w.host.content list = t₀.content (.guildBannedUserIds guildId) :=
        hstill.content_eq hg rfl hf
      rw [hafter.content_eq (k := .guildBannedUserIds guildId) hg rfl hf, hbefore]
      exact Function.update_self ..
    · refine hstill.content_congr hafter hf (fun k hk => nomatch hk) fun k _ htext => ?_
      have hne : k ≠ .guildBannedUserIds guildId := by
        rintro rfl
        exact hname htext.symm
      exact Function.update_of_ne hne ..

/-- The guild of the sample came without an owner. A bot whose id is blank bans somebody there; a
stranger cannot. -/
theorem sample_ban_events_need_permission :
    let ban : BanChange := .banned { id := "5" }
    let blank := sample.after "relay" {} "" (ban.event "1")
    sample.result "relay" {} "" (ban.event "1") = .ok none
    ∧ "5" ∈ blank.host.members "relay" (.guildBannedUserIds "1")
    ∧ ∀ name, (sample.after "relay" {} "8" (ban.event "1")).host.content name
        = sample.host.content name := by
  intro ban blank
  have hreachable : Reachable "relay" {} Event.IsWellNamed sample :=
    sample_reachable sampleGuild_isWellNamed
  have hguild : PlainId "1" := by decide
  have hmay : ∀ botId, sample.host.MayBan "relay" botId "1"
      ↔ (({} : Tables).updated {} "3" (.guildCreate sampleGuild)).mayReadBans botId "1" = true :=
    fun _ => sample_keepsTables.shows.mayBan_iff rfl sample_keepsTables.sound hguild
  obtain ⟨hresult, -, hyes⟩ := hreachable.ban_events_need_permission rfl hguild "" ban
  obtain ⟨-, hno, -⟩ := hreachable.ban_events_need_permission rfl hguild "8" ban
  obtain ⟨hlist, -⟩ := hyes ((hmay "").mpr (by decide +kernel))
  refine ⟨hresult, ?_, hno (mt (hmay "8").mp (by decide +kernel))⟩
  rw [Host.members, hlist]
  exact (ban.mem_applyTo_self _).mpr rfl

end World

end GuildRelay
