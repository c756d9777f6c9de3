import GuildRelay.Proofs.Cache.BanCheck
import GuildRelay.Proofs.Cache.Pauses
/-!
# Ban lists that are given up halfway

A ban list and the mark of its guild are changed by separate calls, and any of them may fail.
Filling a list writes the mark last, so a run that fails leaves the guild unmarked. Clearing a list
takes the mark away last, too, and there it is the wrong order: when that call fails the list is
gone and the guild is still marked, and no later run fills the list again
(`Host.BansAfter.stuck`). The end of a guild clears its list in the same way.

Everything before these calls is a matter of other keys or of reading (`SparesBans`), which is why
the place of a failure there does not matter.
-/

namespace GuildRelay

/-! ## Calls that have nothing to do with the ban list of a guild -/

namespace Key

variable {guildId : String} {k : Key}

/-- What is dropped with a guild, or loses it or its channels, apart from its ban data. -/
inductive GoesWith (guildId : String) : Key → Prop
  | guild : GoesWith guildId (.guild guildId)
  | member (userId : String) : GoesWith guildId (.member guildId userId)
  | channel (channelId : String) : GoesWith guildId (.channel channelId)
  | userIds : GoesWith guildId (.guildUserIds guildId)
  | botIds : GoesWith guildId (.guildBotIds guildId)
  | allGuildIds : GoesWith guildId .allGuildIds
  | allChannelIds : GoesWith guildId .allChannelIds

/-- Whatever the id of a guild is, what goes with it has other names than its ban data. -/
theorem GoesWith.text_ne (hk : k.GoesWith guildId) (ns : String) :
    k.text ns ≠ (guildBannedUserIds guildId).text ns
      ∧ k.text ns ≠ banInitializedGuildIds.text ns := by
  cases hk <;> refine ⟨fun heq => ?_, fun heq => ?_⟩
  all_goals
    have hparts := parts_eq_of_localName rfl rfl (localName_eq_of_text heq)
    -- The index of all guilds begins and ends as a ban list does, but it is shorter.
    have hlength := congrArg List.length hparts
    unfold stem trail at hparts hlength
    simp at hparts hlength

end Key

/-- The call leaves the ban list of a guild alone, and its mark. -/
def SparesBans (guildId : String) (k : Key) (op : Operation) : Prop :=
  op.isRead = true ∨ k.GoesWith guildId

/-! ## What is left of a ban list -/

namespace Host

variable {ns guildId : String} {h h₁ h' : Host}

/-- The last call was to take the mark away from a guild, and it has failed. -/
def UnmarkingFailed (ns guildId : String) (h : Host) : Prop :=
  h.calls.head? = some ⟨Key.banInitializedGuildIds.text ns, .removeFromSet guildId⟩
    ∧ h.faults (h.calls.length - 1) ≠ none

/-- A run has not ended at that call. -/
def EndsElsewhere (ns guildId : String) (h h' : Host) : Prop :=
  h'.calls = h.calls ∨ ¬h'.UnmarkingFailed ns guildId

theorem EndsElsewhere.trans (h₁₂ : h.EndsElsewhere ns guildId h₁) (hfaults : h'.faults = h₁.faults)
    (h₂₃ : h₁.EndsElsewhere ns guildId h') : h.EndsElsewhere ns guildId h' := by
  rcases h₂₃ with hcalls | hlast
  · rw [EndsElsewhere, UnmarkingFailed, hcalls, hfaults]
    exact h₁₂
  · exact .inr hlast

theorem endsElsewhere_of_call {key : String} {op : Operation}
    (hcalls : h'.calls = ⟨key, op⟩ :: h.calls) (hop : op ≠ .removeFromSet guildId) :
    h.EndsElsewhere ns guildId h' := by
  right
  rintro ⟨hlast, -⟩
  rw [hcalls] at hlast
  exact hop (congrArg StoreCall.op (Option.some.inj hlast))

/-- What a run that leaves a ban list and its mark alone has left of them. -/
structure SparedBans (ns guildId : String) (h h' : Host) : Prop where
  list : h'.members ns (.guildBannedUserIds guildId) = h.members ns (.guildBannedUserIds guildId)
  marks : h'.members ns .banInitializedGuildIds = h.members ns .banInitializedGuildIds
  endsElsewhere : h.EndsElsewhere ns guildId h'

/-- What a run may leave of a ban list without having filled it. -/
inductive BansAfter (ns guildId : String) (h h' : Host) : Prop
  | spared : h.SparedBans ns guildId h' → BansAfter ns guildId h h'
  | unmarked : guildId ∉ h'.members ns .banInitializedGuildIds →
      h.EndsElsewhere ns guildId h' → BansAfter ns guildId h h'
  | stuck : h'.UnmarkingFailed ns guildId → h'.members ns (.guildBannedUserIds guildId) = [] →
      h'.members ns .banInitializedGuildIds = h.members ns .banInitializedGuildIds →
      BansAfter ns guildId h h'

theorem BansAfter.after_spared (hspared : h.SparedBans ns guildId h₁)
    (hfaults : h'.faults = h₁.faults) (hafter : h₁.BansAfter ns guildId h') :
    h.BansAfter ns guildId h' := by
  obtain ⟨hlist, hmarks, hends⟩ := hspared
  cases hafter with
  | spared hrest =>
      exact .spared ⟨hrest.list.trans hlist, hrest.marks.trans hmarks,
        hends.trans hfaults hrest.endsElsewhere⟩
  | unmarked hmark hrest => exact .unmarked hmark (hends.trans hfaults hrest)
  | stuck hlast hgone hsame => exact .stuck hlast hgone (hsame.trans hmarks)

end Host

namespace Program

variable {α : Type} {ns guildId : String} {p : Program Key α} {a : α} {h h' : Host}

theorem Makes.endsElsewhere {P : Key → Operation → Prop} (hp : p.Makes P)
    (hP : ∀ k, P k (.removeFromSet guildId) → k.text ns ≠ Key.banInitializedGuildIds.text ns)
    (hrun : p.Finishes ns h a h') : h.EndsElsewhere ns guildId h' := by
  obtain ⟨made, hcalls, hmade⟩ := hp.calls hrun
  cases made with
  | nil => exact .inl hcalls
  | cons c made =>
      right
      rintro ⟨hlast, -⟩
      rw [hcalls] at hlast
      obtain rfl := Option.some.inj hlast
      obtain ⟨k, hkey, hk⟩ := hmade _ List.mem_cons_self
      exact hP k hk hkey.symm

theorem Makes.sparedBans (hp : p.Makes (SparesBans guildId)) (hrun : p.Finishes ns h a h') :
    h.SparedBans ns guildId h' := by
  refine ⟨Host.members_of_cell (hp.cell_eq ?_ hrun), Host.members_of_cell (hp.cell_eq ?_ hrun),
    hp.endsElsewhere ?_ hrun⟩
  · exact fun k op hop => hop.imp_right fun hk => (hk.text_ne ns).1
  · exact fun k op hop => hop.imp_right fun hk => (hk.text_ne ns).2
  · rintro k (hop | hk)
    · cases hop
    · exact (hk.text_ne ns).2

end Program

namespace Cache

open GuildRelay.Action

variable {ns guildId botId : String} {h h' : Host}

/-! ## Clearing a list -/

/-- Clearing a list is given up before it has begun, comes to its end, or stops halfway. -/
theorem bansAfter_clearBans {r : Except CacheError Unit}
    (hrun : (ExceptT.run (clearBans guildId)).Finishes ns h r h') :
    h.BansAfter ns guildId h' := by
  have hother := Key.text_guildBannedUserIds_ne ns guildId
  rcases finishes_of_bind hrun with ⟨e, rfl, hdrop⟩ | ⟨_, h₁, hdrop, hremove⟩
  · have hcalled := called_of_finishes hdrop
    have hcell (name : String) : h'.store.cell name = h.store.cell name := by
      rw [hcalled.failed.2]
    exact .spared ⟨Host.members_of_cell (hcell _), Host.members_of_cell (hcell _),
      Host.endsElsewhere_of_call hcalled.calls nofun⟩
  · have hdropped := called_of_finishes hdrop
    obtain ⟨_, -, -, hlist⟩ := hdropped.passed
    have hmarks := hdropped.cell_eq (.inr hother)
    have hcalled := called_of_finishes hremove
    cases r with
    | error e =>
        obtain ⟨hfault, hstore⟩ := hcalled.failed
        refine .stuck ⟨by rw [hcalled.calls]; rfl, ?_⟩ ?_ (Host.members_of_cell ?_)
        · rw [hcalled.calls, hcalled.faults, List.length_cons, Nat.add_sub_cancel, hfault]
          exact Option.some_ne_none e
        · show (h'.store.cell ((Key.guildBannedUserIds guildId).text ns)).members = []
          rw [hstore, hlist]
          rfl
        · rw [hstore, hmarks]
    | ok _ =>
        obtain ⟨_, hfault, -, hunmarked⟩ := hcalled.passed
        refine .unmarked ?_ (.inr ?_)
        · show guildId ∉ (h'.store.cell (Key.banInitializedGuildIds.text ns)).members
          rw [hunmarked]
          simp [Cell.answer]
        · rintro ⟨-, hfailed⟩
          rw [hcalled.calls, hcalled.faults, List.length_cons, Nat.add_sub_cancel] at hfailed
          exact hfailed hfault

/-- However it ends, the action has done no more to the ban list of a guild than to clear it. -/
def ClearsBans {α : Type} (ns guildId : String) (a : CacheAction α) : Prop :=
  ∀ h r h', (ExceptT.run a).Finishes ns h r h' → h.BansAfter ns guildId h'

theorem ClearsBans.bind {α β : Type} {a : CacheAction α} {f : α → CacheAction β}
    (ha : a.Makes (SparesBans guildId)) (hf : ∀ x, ClearsBans ns guildId (f x)) :
    ClearsBans ns guildId (a >>= f) := by
  intro h r h' hrun
  rcases finishes_of_bind hrun with ⟨e, rfl, hfirst⟩ | ⟨x, h₁, hfirst, hrest⟩
  · exact .spared (Program.Makes.sparedBans ha hfirst)
  · exact .after_spared (Program.Makes.sparedBans ha hfirst) hrest.faults_eq (hf x _ _ _ hrest)

theorem makes_of_goesWith {k : Key} (hk : k.GoesWith guildId) (op : Operation) :
    (ask k op).Makes (SparesBans guildId) :=
  .ask (.inr hk)

theorem makes_of_onlyReads {α : Type} {a : CacheAction α} (ha : a.OnlyReads) :
    a.Makes (SparesBans guildId) :=
  Program.OnlyReads.makes (fun _ _ hop => .inl hop) ha

theorem clearsBans_removeGuild (payload : Guild) :
    ClearsBans ns payload.id (removeGuild payload) := by
  refine .bind (.found (makes_of_onlyReads (onlyReads_read _))) fun cached => ?_
  refine .bind (makes_of_goesWith .guild _) fun _ => ?_
  refine .bind (makes_of_goesWith .allGuildIds _) fun _ => ?_
  refine .bind (.forM fun c => ?_) fun _ => ?_
  · exact .bind (makes_of_goesWith (.channel c.id) _) fun _ =>
      makes_of_goesWith .allChannelIds _
  refine .bind (makes_of_onlyReads (onlyReads_ids _)) fun userIds => ?_
  refine .bind (.forM fun userId => makes_of_goesWith (.member userId) _) fun _ => ?_
  refine .bind (makes_of_goesWith .userIds _) fun _ => ?_
  refine .bind (makes_of_goesWith .botIds _) fun _ => ?_
  exact fun h r h' => bansAfter_clearBans

/-! ## Filling a list -/

/-- An action that fails leaves what is under a name as it was. -/
def KeepsIfFails {α : Type} (ns name : String) (a : CacheAction α) : Prop :=
  ∀ h e h', (ExceptT.run a).Finishes ns h (.error e) h' → h'.store.cell name = h.store.cell name

theorem keepsIfFails_ask {name : String} (k : Key) (op : Operation) :
    KeepsIfFails ns name (ask k op) := by
  intro h e h' hrun
  rw [(called_of_finishes hrun).failed.2]

theorem KeepsIfFails.bind {α β : Type} {name : String} {a : CacheAction α}
    {f : α → CacheAction β} (ha : a.Makes fun k op => op.isRead = true ∨ k.text ns ≠ name)
    (hf : ∀ x, KeepsIfFails ns name (f x)) : KeepsIfFails ns name (a >>= f) := by
  intro h e h' hrun
  rcases finishes_of_bind hrun with ⟨_, -, hfirst⟩ | ⟨x, h₁, hfirst, hrest⟩
  · exact Program.Makes.cell_eq ha (fun _ _ hop => hop) hfirst
  · exact (hf x _ _ _ hrest).trans (Program.Makes.cell_eq ha (fun _ _ hop => hop) hfirst)

/-- The mark is written last, so it is only written by a run that succeeds. -/
theorem keepsIfFails_refillBans (ns guildId : String) :
    KeepsIfFails ns (Key.banInitializedGuildIds.text ns) (refillBans guildId) := by
  have hother := Key.text_guildBannedUserIds_ne ns guildId
  refine .bind (.ask (.inr hother)) fun _ => .bind (.askBans guildId) fun bans => ?_
  exact .bind (.ask (.inr hother)) fun _ => keepsIfFails_ask _ _

theorem makes_fillBans (guildId : String) :
    (fillBans guildId).Makes fun _ op => op ≠ .removeFromSet guildId := by
  refine .bind (.ask nofun) fun marked => ?_
  cases marked with
  | true => exact .pure ()
  | false =>
      refine .bind (.ask nofun) fun _ => .bind (.askBans guildId) fun bans => ?_
      exact .bind (.ask nofun) fun _ => .ask nofun

theorem needsReplies_fillBans (guildId : String) : (fillBans guildId).NeedsReplies := by
  refine .bind (.ask _ _) fun marked => ?_
  cases marked with
  | true => exact .pure ()
  | false =>
      refine .bind (.ask _ _) fun _ => .bind (.askBans guildId) fun bans => ?_
      exact .bind (.ask _ _) fun _ => .ask _ _

theorem bansAfter_fillBans {e : CacheError}
    (hrun : (ExceptT.run (fillBans guildId)).Finishes ns h (.error e) h') :
    h.BansAfter ns guildId h' := by
  have hends : h.EndsElsewhere ns guildId h' :=
    Program.Makes.endsElsewhere (makes_fillBans guildId) (fun _ hop => absurd rfl hop) hrun
  rcases finishes_of_bind hrun with ⟨_, -, hask⟩ | ⟨marked, h₁, hask, hrest⟩
  · exact .spared (Program.Makes.sparedBans (makes_of_onlyReads (.ask rfl)) hask)
  · cases marked with
    | true =>
        obtain ⟨hresult, -⟩ := finishes_of_pure hrest
        cases hresult
    | false =>
        have hcalled := called_of_finishes hask
        obtain ⟨_, -, hmarked, -⟩ := hcalled.passed
        have hsame := (keepsIfFails_refillBans ns guildId _ _ _ hrest).trans
          (hcalled.cell_eq (.inl rfl))
        refine .unmarked ?_ hends
        rw [Host.members_of_cell hsame, ← List.contains_iff_mem]
        exact fun hmem => Bool.noConfusion (hmarked.trans hmem)

/-! ## Runs and ends of guilds -/

/-- A bot is only found to be allowed to read bans when no lookup has failed. -/
theorem failsInto_canReadBans (botId guildId : String) :
    (ExceptT.run (canReadBans botId guildId)).FailsInto fun r => r ≠ .ok true := by
  have hpermissions : (userPermissions botId guildId).NeedsReplies := by
    have hread {α : Type} [Decode α] (k : Key) : (read k : CacheAction α).NeedsReplies := by
      refine .bind (.ask k .get) fun text => ?_
      cases text <;> trivial
    refine .bind (hread _) fun g => ?_
    split
    · exact .pure _
    · exact .bind (hread _) fun m => .pure _
  have hfound : (ExceptT.run (found (userPermissions botId guildId))).FailsInto
      fun r => ∀ permissions, r ≠ .ok (some permissions) := by
    refine Program.FailsInto.andThen ?_ (fun r => ?_) hpermissions
    · rintro r ⟨e, rfl⟩
      cases e <;> exact nofun
    · rcases r with (_ | _) | _ <;> trivial
  unfold canReadBans
  rw [run_bind]
  refine hfound.andThen ?_ (fun r => ?_)
  · intro r hr
    rcases r with e | _ | permissions
    · exact nofun
    · exact nofun
    · exact absurd rfl (hr permissions)
  · rcases r with e | _ | permissions <;> trivial

/-- A run for a ban list in which a call has failed has not filled the list. -/
theorem bansAfter_initializeBans {r : Except CacheError Unit}
    (hrun : (ExceptT.run (initializeBans guildId botId)).Finishes ns h r h')
    (hfailed : ¬h.Undisturbed h') : h.BansAfter ns guildId h' := by
  have hreads : (canReadBans botId guildId).Makes (SparesBans guildId) :=
    makes_of_onlyReads (onlyReads_canReadBans botId guildId)
  rw [initializeBans_eq] at hrun
  rcases finishes_of_bind hrun with ⟨e, rfl, hcheck⟩ | ⟨allowed, h₁, hcheck, hrest⟩
  · exact .spared (Program.Makes.sparedBans hreads hcheck)
  · have hspared := Program.Makes.sparedBans hreads hcheck
    refine .after_spared hspared hrest.faults_eq ?_
    cases allowed with
    | false => exact bansAfter_clearBans hrest
    | true =>
        cases r with
        | error e => exact bansAfter_fillBans hrest
        | ok _ =>
            -- Where everything came to a good end no call can have failed.
            have hchecked := (failsInto_canReadBans botId guildId).undisturbed hcheck fun h => h rfl
            have hfilled := Program.FailsInto.undisturbed (needsReplies_fillBans guildId) hrest
              (by rintro ⟨e, h⟩; cases h)
            exact absurd (hchecked.trans hcheck.faults_eq hfilled) hfailed

theorem bansAfter_guildDelete (settings : CacheSettings) {payload : Guild}
    {r : Except CacheError (Option String)}
    (hrun : (ExceptT.run (apply settings botId (.guildDelete payload))).Finishes ns h r h') :
    h.BansAfter ns payload.id h' := by
  rcases finishes_of_bind hrun with ⟨e, rfl, hupdate⟩ | ⟨_, h₁, hupdate, hrest⟩
  · exact clearsBans_removeGuild payload _ _ _ hupdate
  · obtain ⟨-, rfl⟩ := finishes_of_pure hrest
    exact clearsBans_removeGuild payload _ _ _ hupdate

/-- When a call fails while a ban list is looked at, or while its guild ends, the guild is not
marked afterwards or the list is what it was before, unless the call was to take the mark away: the
list has been dropped by then, and the guild stays marked. -/
theorem interrupted_ban_lists (ns guildId botId : String) (settings : CacheSettings)
    (payload : Guild) (hid : payload.id = guildId) {h h' : Host}
    (hrun : (∃ r, (ExceptT.run (initializeBans guildId botId)).Finishes ns h r h')
      ∨ ∃ r, (ExceptT.run (apply settings botId (.guildDelete payload))).Finishes ns h r h')
    (hfailed : ¬h.Undisturbed h') :
    let list := Key.guildBannedUserIds guildId
    let marks := Key.banInitializedGuildIds
    ((guildId ∉ h'.members ns marks ∨ h'.members ns list = h.members ns list)
      ↔ ¬(h'.UnmarkingFailed ns guildId ∧ guildId ∈ h.members ns marks ∧ h.members ns list ≠ []))
    ∧ (h'.UnmarkingFailed ns guildId →
      h'.members ns list = [] ∧ h'.members ns marks = h.members ns marks) := by
  intro list marks
  have hafter : h.BansAfter ns guildId h' := by
    rcases hrun with ⟨r, hrun⟩ | ⟨r, hrun⟩
    · exact bansAfter_initializeBans hrun hfailed
    · subst hid
      exact bansAfter_guildDelete settings hrun
  have hlast (hends : h.EndsElsewhere ns guildId h') : ¬h'.UnmarkingFailed ns guildId := by
    rcases hends with hcalls | hlast
    · refine absurd (fun n hn hn' => ?_) hfailed
      rw [hcalls] at hn'
      omega
    · exact hlast
  cases hafter with
  | spared hspared =>
      have hno := hlast hspared.endsElsewhere
      exact ⟨iff_of_true (.inr hspared.list) fun hstuck => hno hstuck.1,
        fun hyes => absurd hyes hno⟩
  | unmarked hmark hends =>
      have hno := hlast hends
      exact ⟨iff_of_true (.inl hmark) fun hstuck => hno hstuck.1, fun hyes => absurd hyes hno⟩
  | stuck hyes hlist hmarks =>
      refine ⟨?_, fun _ => ⟨hlist, hmarks⟩⟩
      rw [hlist, hmarks]
      constructor
      · rintro (hmark | hempty) ⟨-, hmarked, hne⟩
        · exact hmark hmarked
        · exact hne hempty.symm
      · intro hstuck
        by_cases hmarked : guildId ∈ h.members ns marks
        · right
          by_contra hne
          exact hstuck ⟨hyes, hmarked, fun h => hne h.symm⟩
        · exact .inl hmarked

/-- A host with a ban list that is filled, of whose calls the third fails. -/
def sampleFailing : Host where
  store := ⟨[((Key.guildBannedUserIds "1").text "relay", { members := ["7"] }),
    (Key.banInitializedGuildIds.text "relay", { members := ["1"] })]⟩
  faults n := if n = 2 then some (.unavailable "down") else none

/-- A bot that may not read the list clears it. -/
def sampleStuck : Except CacheError Unit × Host :=
  ((ExceptT.run (initializeBans "1" "8")).mapKeys (Key.text "relay")).run Host.backend sampleFailing

theorem sample_interrupted_ban_lists :
    sampleFailing.members "relay" (.guildBannedUserIds "1") = ["7"]
    ∧ sampleStuck.2.members "relay" (.guildBannedUserIds "1") = []
    ∧ sampleStuck.2.members "relay" .banInitializedGuildIds = ["1"] := by
  have hstart : sampleFailing.members "relay" (.guildBannedUserIds "1") = ["7"]
      ∧ sampleFailing.members "relay" .banInitializedGuildIds = ["1"] := by
    decide +kernel
  have hlast : sampleStuck.2.UnmarkingFailed "relay" "1" := by
    unfold Host.UnmarkingFailed
    decide +kernel
  have hrun : (ExceptT.run (initializeBans "1" "8")).Finishes "relay" sampleFailing
      sampleStuck.1 sampleStuck.2 := by
    unfold sampleStuck
    exact Program.finishes_run _ _ _
  have hposition : sampleFailing.calls.length ≤ sampleStuck.2.calls.length - 1
      ∧ sampleStuck.2.calls.length - 1 < sampleStuck.2.calls.length := by
    decide +kernel
  have hfailed : ¬sampleFailing.Undisturbed sampleStuck.2 := by
    intro hpassed
    have hfault := hpassed _ hposition.1 hposition.2
    rw [← hrun.faults_eq] at hfault
    exact hlast.2 hfault
  obtain ⟨-, hstuck⟩ := interrupted_ban_lists "relay" "1" "8" {} { id := "1" } rfl
    (.inl ⟨_, hrun⟩) hfailed
  obtain ⟨hlist, hmarks⟩ := hstuck hlast
  exact ⟨hstart.1, hlist, hmarks.trans hstart.2⟩

end Cache

end GuildRelay
