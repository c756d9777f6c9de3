import GuildRelay.Proofs.Cache.GivenLists
import GuildRelay.Proofs.Permission.Answers
/-!
# Fields that a guild leaves blank

A guild that comes along with a blank name or a blank owner has that name and that owner from then
on. Lists that it leaves out are taken from the cached guild (`Guild.carryOver`), but texts are not,
unlike those of a presence (`unlessBlank`). A cached name is therefore kept by a blank one just if
it was blank already.

The owner is who may do everything (`World.answer_userPermissions`), so a guild that comes without
one takes this from whoever had it, and leaves it to a user with a blank id.
-/

namespace GuildRelay

open Tables

/-- What is found of a record is the record, if nothing expires. -/
theorem Host.Shows.lookUp_eq {α : Type} [Decode α] [Encode α] [LawfulCodec α] [Writable α]
    {ns : String} {s : Surroundings} {h : Host} {t : Tables} (hv : h.Shows ns s t.content)
    (slot : Slot α) (hk : slot.key.IsPlain) (hf : s.fading = false) :
    h.lookUp ns slot.key = (h.record ns slot.key : Option α).elim (.error .notFound) .ok := by
  rw [Host.lookUp, hv.record_eq slot hk hf, hv.value_eq slot hk hf]
  cases slot.get t with
  | none => rfl
  | some a => exact Cache.readText_json a

namespace World

variable {ns : String} {settings : CacheSettings} {w w' : World}

/-- A guild that comes along goes into its record and the tables, whether it is new or changed. -/
theorem Reachable.adds (h : Reachable ns settings Event.IsWellNamed w)
    (hexpiry : settings.expiry = none) {botId : String} {e : Event} {g : Guild}
    (he : e = .guildCreate g ∨ e = .guildUpdate g) (hg : g.IsWellNamed)
    {result : Except CacheError (Option String)}
    (hruns : Runs ns (ExceptT.run (Cache.apply settings botId e)) w result w') :
    result = .ok (some g.id) ∧ w.host.Adds ns g w'.host
      ∧ ∃ t : Tables, w'.host.Shows ns settings.surroundings t.content := by
  obtain ⟨t, ht, hw⟩ := h.exists_sound settings.surroundings_allows rfl fun _ he => he
  have hf := CacheSettings.not_fading hexpiry
  have hleads : (Cache.apply settings botId e).Leads settings.surroundings t
      fun r t' => r = .ok (some g.id) ∧ t' = t.takeGuild botId g (t.guild g.id) := by
    rcases he with rfl | rfl <;>
      exact Cache.leads_apply (Cache.leads_addGuild settings.surroundings_allows hg
        fun cached hcached => ⟨rfl, by rw [hcached.eq hf]⟩)
  obtain ⟨_, ⟨hresult, rfl⟩, hw'⟩ := hruns.leads rfl hleads hw
  exact ⟨hresult, hw.host.adds hw'.host hf hg.1, _, hw'.host⟩

/-- Where nothing expires, a guild that comes along has the name and the owner that it comes with,
blank or not. A blank one keeps a cached one only if that was blank. Nobody but the owner that it
comes with, which may be nobody, is an owner from then on: for everybody else their record as a
member decides. -/
theorem Reachable.blank_fields_are_taken (h : Reachable ns settings Event.IsWellNamed w)
    (hexpiry : settings.expiry = none) {botId : String} {e : Event} {g cached : Guild}
    (he : e = .guildCreate g ∨ e = .guildUpdate g) (hg : g.IsWellNamed)
    (hcached : w.host.record ns (.guild g.id) = some cached)
    {result : Except CacheError (Option String)}
    (hruns : Runs ns (ExceptT.run (Cache.apply settings botId e)) w result w') :
    let kept := g.fillIds.carryOver (some cached)
    result = .ok (some g.id) ∧ w'.host.record ns (.guild g.id) = some kept
    ∧ kept.name = g.name ∧ kept.ownerId = g.ownerId
    ∧ (g.name = "" → (kept.name = cached.name ↔ cached.name = ""))
    ∧ (g.ownerId = "" → (kept.ownerId = cached.ownerId ↔ cached.ownerId = ""))
    ∧ w'.answer ns (.userPermissions g.ownerId g.id) = .ok .all
    ∧ ∀ userId, userId ≠ g.ownerId → w'.answer ns (.userPermissions userId g.id)
      = (w'.host.record ns (.member g.id userId)).elim (.error .notFound)
          fun m => .ok (kept.memberPermissions m) := by
  intro kept
  obtain ⟨hresult, hadds, t, hw'⟩ := h.adds hexpiry he hg hruns
  have hf := CacheSettings.not_fading hexpiry
  have hkept : w'.host.record ns (.guild g.id) = some kept := by
    rw [hadds.guild, hcached]
  have hanswer : ∀ userId, w'.answer ns (.userPermissions userId g.id)
      = w'.host.permissionsIn ns userId kept kept.memberPermissions := by
    intro userId
    rw [answer_userPermissions hw'.faultless, Host.lookUp_of_record hkept]
    rfl
  refine ⟨hresult, hkept, rfl, rfl, ?_, ?_, ?_, fun userId hother => ?_⟩
  · intro hblank
    rw [show kept.name = "" from hblank, eq_comm]
  · intro hblank
    rw [show kept.ownerId = "" from hblank, eq_comm]
  · rw [hanswer]
    exact if_pos rfl
  · have hmember : w'.host.lookUp ns (.member g.id userId)
        = (w'.host.record ns (.member g.id userId) : Option Member).elim (.error .notFound) .ok :=
      hw'.lookUp_eq (Slot.member g.id userId) hg.1 hf
    refine (hanswer userId).trans ((if_neg hother).trans ?_)
    show (w'.host.lookUp ns (.member g.id userId)).map kept.memberPermissions = _
    rw [hmember]
    cases (w'.host.record ns (.member g.id userId) : Option Member) <;> rfl

/-- A guild with a name and an owner who is not among its members. -/
def sampleOwned : Guild where
  id := "1"
  name := "harbour"
  ownerId := "5"

/-- An update that names nothing takes the name from the guild, and all permissions from its
owner. -/
theorem sampleOwned_blank_fields_are_taken :
    let w := ({ host := {} } : World).after "relay" {} "3" (.guildCreate sampleOwned)
    let w' := w.after "relay" {} "3" (.guildUpdate { id := "1" })
    w.answer "relay" (.userPermissions "5" "1") = .ok .all
    ∧ w'.host.record "relay" (.guild "1") = some ({ id := "1" } : Guild)
    ∧ w'.answer "relay" (.userPermissions "5" "1") = .error .notFound := by
  intro w w'
  have hguild : PlainId "1" := by decide
  have hnamed : ∀ g : Guild, g.id = "1" → g.channels = none → g.members = none →
      g.IsWellNamed := by
    intro g hid hcs hms
    refine ⟨hid ▸ hguild, ?_, ?_⟩
    · simp [Guild.channelList, hcs]
    · simp [Guild.memberList, hms]
  have hcreated : (Event.guildCreate sampleOwned).IsWellNamed := hnamed sampleOwned rfl rfl rfl
  have hupdated : (Event.guildUpdate { id := "1" }).IsWellNamed := hnamed { id := "1" } rfl rfl rfl
  have hreachable : Reachable "relay" {} Event.IsWellNamed w :=
    (Reachable.start rfl fun _ => rfl).after "3" hcreated
  have hstart : ({ host := {} } : World).KeepsTables "relay" {} {} := .start rfl fun _ => rfl
  have hkeeps := hstart.after rfl "3" hcreated
  have hkeeps' := hkeeps.after rfl "3" hupdated
  have hcached : w.host.record "relay" (.guild "1") = some sampleOwned :=
    (hkeeps.record rfl (Slot.guild "1") hguild).trans (by decide +kernel)
  have hmember : w'.host.record "relay" (.member "1" "5") = (none : Option Member) :=
    (hkeeps'.record rfl (Slot.member "1" "5") hguild).trans (by decide +kernel)
  obtain ⟨-, hkept, -, -, -, -, -, hothers⟩ := hreachable.blank_fields_are_taken rfl
    (.inr rfl : Event.guildUpdate { id := "1" } = .guildCreate _ ∨ _) hupdated hcached
    (runs_of_run _ w)
  refine ⟨?_, hkept, ?_⟩
  · rw [answer_userPermissions hkeeps.shows.faultless, Host.lookUp_of_record hcached]
    rfl
  · have hanswer : w'.answer "relay" (.userPermissions "5" "1")
        = (w'.host.record "relay" (.member "1" "5")).elim (.error .notFound) _ :=
      hothers "5" (by decide)
    rw [hanswer, hmember]
    rfl

end World

end GuildRelay
