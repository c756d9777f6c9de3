import GuildRelay.Proofs.Cache.Errors
import GuildRelay.Proofs.Cache.Repeats
/-!
# How far a presence reaches

A presence of someone who is not offline is also folded into the cached member, and the member is
then kept for the guild that its record names. As a rule that is the guild of the presence. A guild
payload may however embed a member that names another guild, and the record is kept as it came: a
presence then strays to the other guild (`Host.Strays`).

`World.Reachable.presence_reaches` says that this is the only way to another guild, and what happens
to the other guild if a presence strays to it. Where guilds embed members of their own alone, no
presence leaves its guild.
-/

namespace GuildRelay

/-- The keys of a guild record, the members of the guild and the index of them. -/
inductive Key.IsOfMembers (guildId : String) : Key → Prop
  | guild : IsOfMembers guildId (.guild guildId)
  | member (userId : String) : IsOfMembers guildId (.member guildId userId)
  | guildUserIds : IsOfMembers guildId (.guildUserIds guildId)

/-- A presence in one guild strays to another: the guild is cached, the user is not offline, and the
cached member of the user names the other guild, which is cached as well. -/
structure Host.Strays (h : Host) (ns guildId : String) (p : Presence) (other : String) (m : Member)
    (g : Guild) : Prop where
  home : (h.record ns (.guild guildId) : Option Guild).isSome
  status : p.status ≠ some .offline
  member : h.record ns (.member guildId p.user.id) = some m
  names : m.guildId = other
  there : h.record ns (.guild other) = some g

/-- A guild takes a member in: the member is embedded in the guild, kept and indexed, and the other
members of the guild are as they were. -/
structure Host.TakesIn (h : Host) (ns guildId : String) (g : Guild) (m : Member) (h' : Host) :
    Prop where
  guild : h'.record ns (.guild guildId) = some (g.addMember m)
  member : h'.record ns (.member guildId m.user.id) = some m
  guildUserIds : h'.members ns (.guildUserIds guildId)
    = insertInOrder m.user.id (h.members ns (.guildUserIds guildId))
  others : ∀ userId, userId ≠ m.user.id →
    h'.content ((Key.member guildId userId).text ns)
      = h.content ((Key.member guildId userId).text ns)

namespace Tables

variable {t : Tables} {guildId other : String} {p : Presence} {k : Key}

/-! ## What other guilds keep -/

theorem content_setGuild (hk : k.IsOfMembers other) {g : Guild} (hne : other ≠ g.id) :
    (t.setGuild g).content k = t.content k := by
  cases hk with
  | guild => exact congrArg Host.Content.record (if_neg hne)
  | member userId => rfl
  | guildUserIds => rfl

theorem content_takeMember (ht : t.Sound) (hk : k.IsOfMembers other) {m : Member}
    (hm : m.guildId = other → t.guild other = none) : (t.takeMember m).content k = t.content k := by
  cases hg : t.guild m.guildId with
  | none => simp only [takeMember, hg]
  | some g =>
      have hne : other ≠ g.id := by
        intro h
        have hown : m.guildId = other := (ht.guild_id hg).symm.trans h.symm
        rw [hown, hm hown] at hg
        cases hg
      rw [takeMember_eq hg, storeMember_eq]
      cases hk with
      | guild => exact congrArg Host.Content.record (if_neg hne)
      | member userId => exact congrArg Host.Content.record (if_neg fun h => hne h.1)
      | guildUserIds => exact congrArg Host.Content.index (if_neg hne)

/-- A presence that does not stray leaves another guild and its members as they are. -/
theorem content_takePresence (ht : t.Sound) (hk : k.IsOfMembers other) (hne : other ≠ guildId)
    (hstays : ∀ home, t.guild guildId = some home → p.status ≠ some .offline →
      ∀ m, t.member guildId p.user.id = some m → m.guildId = other → t.guild other = none) :
    (t.takePresence guildId p).content k = t.content k := by
  cases hg : t.guild guildId with
  | none => simp only [takePresence, hg]
  | some g =>
      have hid : other ≠ g.id := fun h => hne (h.trans (ht.guild_id hg))
      have hfirst : (t.setGuild (g.addPresence p)).content k = t.content k :=
        content_setGuild hk hid
      have hsound := ht.setPresence hg p
      by_cases hoff : p.status = some .offline
      · simpa only [takePresence, hg, if_pos hoff] using hfirst
      simp only [takePresence, hg, if_neg hoff]
      refine (content_takeMember hsound hk fun hm => ?_).trans hfirst
      -- A member made for the presence is at home, so a cached one names the other guild.
      have hother : t.guild other = none := by
        cases hcached : t.member guildId p.user.id with
        | none =>
            rw [memberSeen_of_none hcached] at hm
            exact absurd hm.symm hne
        | some m =>
            rw [memberSeen_of_some hcached] at hm
            exact hstays g hg hoff m hcached hm
      exact (if_neg hid).trans hother

/-- When a presence strays, the other guild keeps the member that the cached one becomes. -/
theorem takePresence_of_strays (ht : t.Sound) {home g : Guild} {m : Member} (hne : other ≠ guildId)
    (hhome : t.guild guildId = some home) (hoff : p.status ≠ some .offline)
    (hm : t.member guildId p.user.id = some m) (hnames : m.guildId = other)
    (hg : t.guild other = some g) :
    t.takePresence guildId p = ((t.setGuild (home.addPresence p)).storeMember g
      ((m.seen p).carryOver (t.member other p.user.id))) := by
  have hid : other ≠ home.id := fun h => hne (h.trans (ht.guild_id hhome))
  have huser : m.user.id = p.user.id := ht.member_user hm
  have hthere : (t.setGuild (home.addPresence p)).guild (m.seen p).guildId = some g := by
    show (if m.guildId = home.id then _ else t.guild m.guildId) = some g
    rw [hnames, if_neg hid, hg]
  simp only [takePresence, hhome, if_neg hoff]
  rw [memberSeen_of_some hm, takeMember_eq hthere]
  show (t.setGuild (home.addPresence p)).storeMember g
    ((m.seen p).carryOver (t.member m.guildId m.user.id)) = _
  rw [hnames, huser]

end Tables

/-! ## From one guild to another -/

theorem Host.Shows.content_isOfMembers {ns : String} {s : Surroundings} {h : Host} {t : Tables}
    (hv : h.Shows ns s t.content) (hf : s.fading = false) {guildId : String}
    (hguild : PlainId guildId) {k : Key} (hk : k.IsOfMembers guildId) :
    h.content (k.text ns) = t.content k := by
  cases hk <;> exact hv.content_eq hguild (Bool.and_false _) hf

/-- Whether a presence strays can be read off the tables. -/
theorem Host.Shows.strays_iff {ns : String} {s : Surroundings} {h : Host} {t : Tables}
    (hv : h.Shows ns s t.content) (hf : s.fading = false) {guildId other : String}
    (hguild : PlainId guildId) (hother : PlainId other) (p : Presence) (m : Member) (g : Guild) :
    h.Strays ns guildId p other m g
      ↔ (∃ home, t.guild guildId = some home) ∧ p.status ≠ some .offline
        ∧ t.member guildId p.user.id = some m ∧ m.guildId = other ∧ t.guild other = some g := by
  have hhome : h.record ns (.guild guildId) = t.guild guildId :=
    hv.record_eq (Tables.Slot.guild guildId) hguild hf
  have hmember : h.record ns (.member guildId p.user.id) = t.member guildId p.user.id :=
    hv.record_eq (Tables.Slot.member guildId p.user.id) hguild hf
  have hthere : h.record ns (.guild other) = t.guild other :=
    hv.record_eq (Tables.Slot.guild other) hother hf
  rw [← hhome, ← hmember, ← hthere, ← Option.isSome_iff_exists]
  constructor
  · rintro ⟨home, status, member, names, there⟩
    exact ⟨home, status, member, names, there⟩
  · rintro ⟨home, status, member, names, there⟩
    exact ⟨home, status, member, names, there⟩

/-- A guild has taken a member in where the tables store it, whatever happened to other guilds. -/
theorem Host.Shows.takesIn {ns : String} {s : Surroundings} {h h' : Host} {t : Tables}
    {guildId : String} {g home : Guild} {m : Member} (hv : h.Shows ns s t.content)
    (hv' : h'.Shows ns s ((t.setGuild home).storeMember g m).content) (hf : s.fading = false)
    (hguild : PlainId guildId) (hid : g.id = guildId) : h.TakesIn ns guildId g m h' := by
  subst hid
  rw [Tables.storeMember_eq] at hv'
  refine ⟨?_, ?_, ?_, fun userId hne => ?_⟩
  · exact (hv'.record_eq (Tables.Slot.guild g.id) hguild hf).trans (if_pos rfl)
  · exact (hv'.record_eq (Tables.Slot.member g.id m.user.id) hguild hf).trans (if_pos ⟨rfl, rfl⟩)
  · have hbefore : h.members ns (.guildUserIds g.id) = t.guildUserIds g.id :=
      hv.members_index (Tables.Index.guildUsers g.id) hguild (Bool.and_false _)
    rw [hbefore]
    exact (hv'.members_index (Tables.Index.guildUsers g.id) hguild (Bool.and_false _)).trans
      (if_pos rfl)
  · rw [hv'.content_isOfMembers hf hguild (.member userId),
      hv.content_isOfMembers hf hguild (.member userId)]
    exact congrArg Host.Content.record (if_neg fun h => hne h.2)

namespace World

open Tables

variable {ns : String} {settings : CacheSettings} {allowed : Event → Prop} {w w' : World}

/-- Where nothing expires, a presence changes nothing about another guild, its members and their
index, unless it strays to that guild. Then the other guild takes in the member that the cached one
becomes. Where guilds embed members of their own alone, no presence strays. -/
theorem Reachable.presence_reaches (h : Reachable ns settings allowed w)
    (hnamed : ∀ e, allowed e → e.IsWellNamed) (hexpiry : settings.expiry = none)
    {guildId other : String} {p : Presence} (he : (Event.presenceUpdate guildId p).IsWellNamed)
    (hother : PlainId other) (hne : other ≠ guildId) {botId : String}
    {result : Except CacheError (Option String)}
    (hruns : Runs ns (ExceptT.run (Cache.apply settings botId (.presenceUpdate guildId p)))
      w result w') :
    ((∀ m g, ¬w.host.Strays ns guildId p other m g) → ∀ k : Key, k.IsOfMembers other →
      w'.host.content (k.text ns) = w.host.content (k.text ns))
    ∧ (∀ m g, w.host.Strays ns guildId p other m g →
      w.host.TakesIn ns other g
        ((m.seen p).carryOver (w.host.record ns (.member other p.user.id))) w'.host)
    ∧ ((∀ e, allowed e → ∀ g ∈ e.guilds, g.OwnsMembers) → ∀ k : Key, k.IsOfMembers other →
      w'.host.content (k.text ns) = w.host.content (k.text ns)) := by
  have hf := CacheSettings.not_fading hexpiry
  obtain ⟨t, ht, hathome, hw⟩ := h.exists_tables
    (I := fun t => (∀ e, allowed e → ∀ g ∈ e.guilds, g.OwnsMembers) → t.MembersAtHome)
    settings.surroundings_allows rfl hnamed (fun _ => membersAtHome_empty)
    fun e _ _ he _ hI hmove hown => hmove.membersAtHome (hown e he) (hI hown)
  obtain ⟨_, rfl, hw'⟩ := hruns.leads rfl
    (Cache.leads_apply_updated hf settings.surroundings_allows he ht) hw
  have hstrays := hw.host.strays_iff hf he.1 hother p
  have hframe : (∀ m g, ¬w.host.Strays ns guildId p other m g) → ∀ k : Key, k.IsOfMembers other →
      w'.host.content (k.text ns) = w.host.content (k.text ns) := by
    intro hstays k hk
    rw [hw'.host.content_isOfMembers hf hother hk, hw.host.content_isOfMembers hf hother hk]
    refine content_takePresence ht hk hne fun home hhome hoff m hm hnames => ?_
    by_contra hcached
    obtain ⟨g, hg⟩ := Option.ne_none_iff_exists'.mp hcached
    exact hstays m g ((hstrays m g).mpr ⟨⟨home, hhome⟩, hoff, hm, hnames, hg⟩)
  refine ⟨hframe, fun m g hstray => ?_, fun hown => hframe fun m g hstray => ?_⟩
  · obtain ⟨⟨home, hhome⟩, hoff, hm, hnames, hg⟩ := (hstrays m g).mp hstray
    have hcached : w.host.record ns (.member other p.user.id) = t.member other p.user.id :=
      hw.host.record_eq (Slot.member other p.user.id) hother hf
    rw [hcached]
    have hafter := hw'.host
    rw [show t.updated settings botId (.presenceUpdate guildId p) = _ from
      takePresence_of_strays ht hne hhome hoff hm hnames hg] at hafter
    exact hw.host.takesIn hafter hf hother (ht.guild_id hg)
  · obtain ⟨-, -, hm, hnames, -⟩ := (hstrays m g).mp hstray
    exact hne (hnames.symm.trans (hathome hown _ _ _ hm))

/-- A guild that embeds a member of another guild. -/
def sampleHost : Event :=
  .guildCreate { id := "1", members := some [{ guildId := "2", user := { id := "3" } }] }

/-- The other guild, without members. -/
def sampleNeighbour : Event :=
  .guildCreate { id := "2" }

/-- The world in which both have become known to a bot. -/
def sampleStray : World :=
  (({ host := {} } : World).after "relay" {} "9" sampleHost).after "relay" {} "9" sampleNeighbour

/-- The user comes online in the first guild. -/
def sampleOnline : Presence where
  user := { id := "3" }
  status := some .online
  roles := ["7"]

theorem sampleStray_presence_reaches :
    sampleStray.host.record "relay" (.guild "2") = some ({ id := "2" } : Guild)
    ∧ sampleStray.host.TakesIn "relay" "2" { id := "2" }
        { guildId := "2", user := { id := "3" }, roles := ["7"] }
        (sampleStray.after "relay" {} "9" (.presenceUpdate "1" sampleOnline)).host := by
  have hhost : sampleHost.IsWellNamed := ⟨by decide, by decide, by decide⟩
  have hneighbour : sampleNeighbour.IsWellNamed := ⟨by decide, by decide, by decide⟩
  have hpresence : (Event.presenceUpdate "1" sampleOnline).IsWellNamed := by
    constructor <;> decide
  have hreach : Reachable "relay" {} Event.IsWellNamed sampleStray :=
    ((Reachable.start rfl fun _ => rfl).after "9" hhost).after "9" hneighbour
  have hkeeps : sampleStray.KeepsTables "relay" {}
      ((({} : Tables).updated {} "9" sampleHost).updated {} "9" sampleNeighbour) :=
    ((KeepsTables.start rfl fun _ => rfl).after rfl "9" hhost).after rfl "9" hneighbour
  have hother : PlainId "2" := by decide
  obtain ⟨-, hstrays, -⟩ := hreach.presence_reaches (fun _ he => he) rfl hpresence hother
    (by decide) (runs_of_run _ sampleStray : Runs "relay" (ExceptT.run (Cache.apply {} "9"
      (.presenceUpdate "1" sampleOnline))) sampleStray _ _)
  have hthere : sampleStray.host.record "relay" (.guild "2") = some ({ id := "2" } : Guild) :=
    hkeeps.record rfl (Slot.guild "2") hother
  have hnone : sampleStray.host.record "relay" (.member "2" "3") = (none : Option Member) :=
    hkeeps.record rfl (Slot.member "2" "3") hother
  refine ⟨hthere, ?_⟩
  have htaken := hstrays { guildId := "2", user := { id := "3" } } { id := "2" }
    (((hkeeps.shows.strays_iff rfl hpresence.1 hother) sampleOnline _ _).mpr
      ⟨⟨_, rfl⟩, by decide, rfl, rfl, rfl⟩)
  rw [show sampleOnline.user.id = "3" from rfl, hnone] at htaken
  exact htaken

end World

end GuildRelay
