import GuildRelay.Cache.Key
/-!
# Keys do not collide

The name of a key joins ids and fixed words by colons and hyphens, so two keys may have one name:
the guild `ids` and the index of all guilds, or the guild `1:member-2` and the member `2` of the
guild `1`. An id is plain when it has no colon and is not the word `ids`; `Key.text_inj` says that
the keys of plain ids have different names. The id of a member's user is the last part of its name,
and may be any text.

Behind the common beginning a name is a stem without colons and what follows its first colon
(`Key.localName_eq`). Both are determined by the name, and together they tell which key it is.

A namespace may be any text, even one that ends like a name, so across namespaces a name is read
from its end (`Key.eq_of_append_colon`). This needs all ids to be plain, those of users too;
`Key.names_determine_keys` then says that a name has one namespace and one key.
-/

namespace GuildRelay

/-- The id keeps its place in the names of keys. -/
def PlainId (id : String) : Prop :=
  ':' ∉ id.toList ∧ id ≠ "ids"

instance (id : String) : Decidable (PlainId id) :=
  inferInstanceAs (Decidable (_ ∧ _))

namespace Key

/-- The ids that the key is named after are plain. -/
def IsPlain : Key → Prop
  | guild guildId => PlainId guildId
  | member guildId _ => PlainId guildId
  | channel channelId => PlainId channelId
  | user userId => PlainId userId
  | channelMessages channelId => PlainId channelId
  | allGuildIds => True
  | allUserIds => True
  | allChannelIds => True
  | guildUserIds guildId => PlainId guildId
  | guildBotIds guildId => PlainId guildId
  | guildBannedUserIds guildId => PlainId guildId
  | banInitializedGuildIds => True
  | claim kind digest _ => '-' ∉ kind.toList ∧ ':' ∉ digest.toList

/-! ## Names in parts -/

/-- What follows `state:` in a key's name, up to the next colon. -/
def stem : Key → List Char
  | guild guildId => "guild-".toList ++ guildId.toList
  | member guildId _ => "guild-".toList ++ guildId.toList
  | channel channelId => "channel-".toList ++ channelId.toList
  | user userId => "user-".toList ++ userId.toList
  | channelMessages channelId => "channel-".toList ++ channelId.toList
  | allGuildIds => "guild-ids".toList
  | allUserIds => "user-ids".toList
  | allChannelIds => "channel-ids".toList
  | guildUserIds _ => "user-ids".toList
  | guildBotIds guildId => "guild-".toList ++ guildId.toList
  | guildBannedUserIds guildId => "guild-".toList ++ guildId.toList
  | banInitializedGuildIds => "banned-userids-initialized-guild-ids".toList
  | claim _ _ _ => []

/-- What follows the stem in a key's name. -/
def trail : Key → List Char
  | member _ userId => ":member-".toList ++ userId.toList
  | channelMessages _ => ":messages".toList
  | guildUserIds guildId => ':' :: guildId.toList
  | guildBotIds _ => ":bot-ids".toList
  | guildBannedUserIds _ => ":banned-userids".toList
  | _ => []

/-- The name of a mark has another first word than the name of a record or an index. -/
def isClaim : Key → Bool
  | claim _ _ _ => true
  | _ => false

theorem localName_eq {k : Key} (hk : k.isClaim = false) :
    k.localName.toList = "state:".toList ++ (k.stem ++ k.trail) := by
  cases k with
  | claim => cases hk
  | _ => unfold localName stem trail; simp

theorem parts_eq_of_localName {k k' : Key} (hc : k.isClaim = false) (hc' : k'.isClaim = false)
    (h : k.localName = k'.localName) : k.stem ++ k.trail = k'.stem ++ k'.trail := by
  have hlist := congrArg String.toList h
  rwa [localName_eq hc, localName_eq hc', List.append_cancel_left_eq] at hlist

/-- In one namespace, keys with one name have one local name. -/
theorem localName_eq_of_text {ns : String} {k k' : Key} (h : k.text ns = k'.text ns) :
    k.localName = k'.localName := by
  have hlist := congrArg String.toList h
  simp only [text, String.toList_append, List.append_assoc, List.append_cancel_left_eq] at hlist
  exact String.toList_inj.mp hlist

/-! ## Names determine keys -/

/-- Texts are joined in one way when the first part avoids the character that the second part starts
with. -/
theorem append_inj_of_not_mem {c : Char} : ∀ {as bs xs ys : List Char}, c ∉ as → c ∉ bs →
    (xs = [] ∨ xs.head? = some c) → (ys = [] ∨ ys.head? = some c) → as ++ xs = bs ++ ys →
      as = bs ∧ xs = ys
  | [], [], _, _, _, _, _, _, h => ⟨rfl, h⟩
  | [], b :: bs, xs, _, _, hb, hxs, _, h => by
      rw [List.nil_append, List.cons_append] at h
      subst h
      rcases hxs with hxs | hxs
      · cases hxs
      · exact absurd (Option.some.inj hxs) fun hbc => hb (hbc ▸ List.mem_cons_self)
  | a :: as, [], _, ys, ha, _, _, hys, h => by
      rw [List.nil_append, List.cons_append] at h
      subst h
      rcases hys with hys | hys
      · cases hys
      · exact absurd (Option.some.inj hys) fun hac => ha (hac ▸ List.mem_cons_self)
  | a :: as, b :: bs, _, _, ha, hb, hxs, hys, h => by
      rw [List.cons_append, List.cons_append, List.cons.injEq] at h
      obtain ⟨hab, hrest⟩ := append_inj_of_not_mem (fun hc => ha (List.mem_cons_of_mem _ hc))
        (fun hc => hb (List.mem_cons_of_mem _ hc)) hxs hys h.2
      exact ⟨by rw [h.1, hab], hrest⟩

theorem colon_not_mem_stem {k : Key} (hc : k.isClaim = false) (hk : k.IsPlain) :
    ':' ∉ k.stem := by
  cases k <;> cases hc
  all_goals
    unfold stem
    unfold IsPlain PlainId at hk
    simp [hk]

theorem trail_head (k : Key) : k.trail = [] ∨ k.trail.head? = some ':' := by
  cases k <;> unfold trail <;> simp

theorem toList_ne_ids {id : String} (h : PlainId id) : id.toList ≠ ['i', 'd', 's'] := fun heq =>
  h.2 (String.toList_inj.mp heq)

/-- The two parts of a name tell which key it is, and with which ids. Where a record could be taken
for the index of its kind, its id would have to be `ids`. -/
theorem eq_of_parts {k k' : Key} (hk : k.IsPlain) (hk' : k'.IsPlain) (hc : k.isClaim = false)
    (hc' : k'.isClaim = false) (hstem : k.stem = k'.stem) (htrail : k.trail = k'.trail) :
    k = k' := by
  cases k <;> cases k' <;> cases hc <;> cases hc'
  all_goals
    unfold stem at hstem
    unfold trail at htrail
    simp [String.toList_inj] at hstem htrail
  all_goals first
    | exact absurd hstem (toList_ne_ids hk)
    | exact absurd hstem.symm (toList_ne_ids hk')
    | simp [hstem, htrail]

theorem claim_localName_inj {kind digest source kind' digest' source' : String}
    (hk : (claim kind digest source).IsPlain) (hk' : (claim kind' digest' source').IsPlain)
    (h : (claim kind digest source).localName = (claim kind' digest' source').localName) :
    claim kind digest source = claim kind' digest' source' := by
  have hlist := congrArg String.toList h
  unfold localName at hlist
  simp only [String.toList_append, List.append_assoc, List.append_cancel_left_eq] at hlist
  obtain ⟨hkind, hrest⟩ := append_inj_of_not_mem hk.1 hk'.1 (.inr rfl) (.inr rfl) hlist
  obtain ⟨hdigest, hsource⟩ := append_inj_of_not_mem hk.2 hk'.2 (.inr rfl) (.inr rfl)
    (List.append_cancel_left hrest)
  rw [String.toList_inj.mp hkind, String.toList_inj.mp hdigest,
    String.toList_inj.mp (List.append_cancel_left hsource)]

theorem claim_localName_ne {k : Key} (hc : k.isClaim = false) (kind digest source : String) :
    (claim kind digest source).localName ≠ k.localName := by
  intro h
  have hlist := congrArg String.toList h
  rw [localName_eq hc] at hlist
  unfold localName at hlist
  simp at hlist

/-- Keys with plain ids have different names. -/
theorem localName_inj {k k' : Key} (hk : k.IsPlain) (hk' : k'.IsPlain)
    (h : k.localName = k'.localName) : k = k' := by
  cases hc : k.isClaim with
  | true =>
      cases k <;> cases hc
      cases hc' : k'.isClaim with
      | true =>
          cases k' <;> cases hc'
          exact claim_localName_inj hk hk' h
      | false => exact absurd h (claim_localName_ne hc' _ _ _)
  | false =>
      cases hc' : k'.isClaim with
      | true =>
          cases k' <;> cases hc'
          exact absurd h.symm (claim_localName_ne hc _ _ _)
      | false =>
          obtain ⟨hstem, htrail⟩ := append_inj_of_not_mem (colon_not_mem_stem hc hk)
            (colon_not_mem_stem hc' hk') (trail_head k) (trail_head k')
            (parts_eq_of_localName hc hc' h)
          exact eq_of_parts hk hk' hc hc' hstem htrail

/-- Keys with plain ids have different names in the store. -/
theorem text_inj {ns : String} {k k' : Key} (hk : k.IsPlain) (hk' : k'.IsPlain)
    (h : k.text ns = k'.text ns) : k = k' :=
  localName_inj hk hk' (localName_eq_of_text h)

/-- The index of a guild's members shares its name with no plain key unless it is one. -/
theorem isPlain_of_text_guildUserIds {ns guildId : String} {k : Key} (hk : k.IsPlain)
    (h : k.text ns = (guildUserIds guildId).text ns) : PlainId guildId := by
  have hname := localName_eq_of_text h
  cases hc : k.isClaim with
  | true =>
      cases k <;> cases hc
      exact absurd hname (claim_localName_ne rfl _ _ _)
  | false =>
      obtain ⟨hstem, htrail⟩ := append_inj_of_not_mem (colon_not_mem_stem hc hk)
        (show ':' ∉ "user-ids".toList by decide) (trail_head k) (trail_head (guildUserIds guildId))
        (parts_eq_of_localName hc rfl hname)
      cases k <;> cases hc
      all_goals
        unfold stem at hstem
        unfold trail at htrail
        simp [String.toList_inj] at hstem htrail
      · exact htrail ▸ hk

/-- A ban list has another name than the set of guilds that are marked, whatever its guild. -/
theorem text_guildBannedUserIds_ne (ns guildId : String) :
    (guildBannedUserIds guildId).text ns ≠ banInitializedGuildIds.text ns := by
  intro h
  have hparts := parts_eq_of_localName rfl rfl (localName_eq_of_text h)
  unfold stem at hparts
  simp at hparts

/-! ## Names determine namespaces -/

/-- The guilds, channels and users that a key is named after. -/
def ids : Key → List String
  | guild guildId => [guildId]
  | member guildId userId => [guildId, userId]
  | channel channelId => [channelId]
  | user userId => [userId]
  | channelMessages channelId => [channelId]
  | guildUserIds guildId => [guildId]
  | guildBotIds guildId => [guildId]
  | guildBannedUserIds guildId => [guildId]
  | _ => []

/-- Texts are joined in one way when the second part avoids the colon between them. -/
theorem eq_of_append_colon {as bs xs ys : List Char} (hx : ':' ∉ xs) (hy : ':' ∉ ys)
    (h : as ++ ':' :: xs = bs ++ ':' :: ys) : as = bs ∧ xs = ys := by
  have hreverse := congrArg List.reverse h
  simp only [List.reverse_append, List.reverse_cons, List.append_assoc] at hreverse
  obtain ⟨hxs, has⟩ := append_inj_of_not_mem (mt List.mem_reverse.mp hx)
    (mt List.mem_reverse.mp hy) (.inr rfl) (.inr rfl) hreverse
  exact ⟨List.reverse_inj.mp (List.append_cancel_left has), List.reverse_inj.mp hxs⟩

theorem isPlain_of_ids {k : Key} (hc : k.isClaim = false) (hk : ∀ id ∈ k.ids, PlainId id) :
    k.IsPlain := by
  cases k <;> cases hc
  all_goals first
    | exact trivial
    | exact hk _ List.mem_cons_self

/-- A name has two parts or three. What is in the middle of three is no `state`. -/
theorem trail_eq {k : Key} (hc : k.isClaim = false) (hk : ∀ id ∈ k.ids, PlainId id) :
    k.trail = [] ∨ ∃ last, k.trail = ':' :: last ∧ ':' ∉ last ∧ k.stem ≠ "state".toList := by
  cases k with
  | claim => cases hc
  | member guildId userId =>
      have hu := (hk userId (List.mem_cons_of_mem _ List.mem_cons_self)).1
      refine .inr ⟨"member-".toList ++ userId.toList, ?_, ?_, ?_⟩
      · unfold trail
        simp
      · simp [hu]
      · unfold stem
        simp
  | guildUserIds guildId =>
      have hg := (hk guildId List.mem_cons_self).1
      refine .inr ⟨guildId.toList, ?_, hg, ?_⟩
      · unfold trail
        rfl
      · unfold stem
        simp
  | channelMessages | guildBotIds | guildBannedUserIds =>
      unfold trail stem
      simp
  | _ =>
      left
      unfold trail
      rfl

theorem toList_text {k : Key} (hc : k.isClaim = false) (ns : String) :
    (k.text ns).toList = (ns.toList ++ ':' :: "state".toList) ++ ':' :: (k.stem ++ k.trail) := by
  unfold text
  rw [String.toList_append, String.toList_append, localName_eq hc]
  simp

/-- A name has only one namespace. -/
theorem namespace_eq_of_text {ns ns' : String} {k k' : Key} (hc : k.isClaim = false)
    (hc' : k'.isClaim = false) (hk : ∀ id ∈ k.ids, PlainId id) (hk' : ∀ id ∈ k'.ids, PlainId id)
    (h : k.text ns = k'.text ns') : ns = ns' := by
  have hstem := colon_not_mem_stem hc (isPlain_of_ids hc hk)
  have hstem' := colon_not_mem_stem hc' (isPlain_of_ids hc' hk')
  have hstate : ':' ∉ "state".toList := by decide
  have hlist := congrArg String.toList h
  rw [toList_text hc, toList_text hc'] at hlist
  rcases trail_eq hc hk with htwo | ⟨last, htrail, hlast, hmiddle⟩
  · rcases trail_eq hc' hk' with htwo' | ⟨last', htrail', hlast', hmiddle'⟩
    · rw [htwo, htwo', List.append_nil, List.append_nil] at hlist
      obtain ⟨hfirst, -⟩ := eq_of_append_colon hstem hstem' hlist
      exact String.toList_inj.mp (eq_of_append_colon hstate hstate hfirst).1
    · -- Before its last part a name of two parts ends with `state`, and one of three does not.
      rw [htwo, htrail', List.append_nil, ← List.cons_append, ← List.append_assoc] at hlist
      obtain ⟨hfirst, -⟩ := eq_of_append_colon hstem hlast' hlist
      exact absurd (eq_of_append_colon hstate hstem' hfirst).2.symm hmiddle'
  · rw [htrail, ← List.cons_append, ← List.append_assoc] at hlist
    rcases trail_eq hc' hk' with htwo' | ⟨last', htrail', hlast', hmiddle'⟩
    · rw [htwo', List.append_nil] at hlist
      obtain ⟨hfirst, -⟩ := eq_of_append_colon hlast hstem' hlist
      exact absurd (eq_of_append_colon hstem hstate hfirst).2 hmiddle
    · rw [htrail', ← List.cons_append, ← List.append_assoc] at hlist
      obtain ⟨hfirst, -⟩ := eq_of_append_colon hlast hlast' hlist
      obtain ⟨hsecond, -⟩ := eq_of_append_colon hstem hstem' hfirst
      exact String.toList_inj.mp (eq_of_append_colon hstate hstate hsecond).1

/-- Records and indices with plain ids have the same name only in the same namespace and if they are
the same. In one namespace no mark of a claim has the name of a record or an index, and the name of
a mark tells kind, digest and source. -/
theorem names_determine_keys :
    (∀ (ns ns' : String) (k k' : Key), k.isClaim = false → k'.isClaim = false →
      (∀ id ∈ k.ids, PlainId id) → (∀ id ∈ k'.ids, PlainId id) →
      (k.text ns = k'.text ns' ↔ ns = ns' ∧ k = k'))
    ∧ (∀ (ns kind digest source : String) (k : Key), k.isClaim = false →
      (claim kind digest source).text ns ≠ k.text ns)
    ∧ ∀ (ns kind digest source kind' digest' source' : String), '-' ∉ kind.toList →
      '-' ∉ kind'.toList → ':' ∉ digest.toList → ':' ∉ digest'.toList →
      ((claim kind digest source).text ns = (claim kind' digest' source').text ns
        ↔ kind = kind' ∧ digest = digest' ∧ source = source') := by
  have hlocal : ∀ (ns : String) (k k' : Key), k.text ns = k'.text ns →
      k.localName = k'.localName := by
    intro ns k k' h
    have hlist := congrArg String.toList h
    simp only [text, String.toList_append, List.append_assoc, List.append_cancel_left_eq] at hlist
    exact String.toList_inj.mp hlist
  refine ⟨fun ns ns' k k' hc hc' hk hk' => ⟨fun h => ?_, ?_⟩,
    fun ns kind digest source k hc h => ?_,
    fun ns kind digest source kind' digest' source' hkind hkind' hdigest hdigest' =>
      ⟨fun h => ?_, ?_⟩⟩
  · obtain rfl := namespace_eq_of_text hc hc' hk hk' h
    exact ⟨rfl, text_inj (isPlain_of_ids hc hk) (isPlain_of_ids hc' hk') h⟩
  · rintro ⟨rfl, rfl⟩
    rfl
  · exact claim_localName_ne hc kind digest source (hlocal ns _ _ h)
  · have hkey := claim_localName_inj ⟨hkind, hdigest⟩ ⟨hkind', hdigest'⟩ (hlocal ns _ _ h)
    exact Key.claim.inj hkey
  · rintro ⟨rfl, rfl, rfl⟩
    rfl

/-- The namespace of the second key ends like the name of a guild, and still the names differ. -/
theorem names_determine_keys_of_guild_and_member :
    (user "2").text "relay:state:guild-1" ≠ (member "1" "2").text "relay"
    ∧ (claim "READY" "0a" "b:c").text "relay" ≠ (user "2").text "relay"
    ∧ (claim "READY" "0a" "b:c").text "relay" ≠ (claim "READY" "0a" "c").text "relay" := by
  obtain ⟨hstate, hmark, hclaim⟩ := names_determine_keys
  refine ⟨fun h => ?_, hmark "relay" "READY" "0a" "b:c" (user "2") rfl, fun h => ?_⟩
  · have heq := (hstate "relay:state:guild-1" "relay" (user "2") (member "1" "2") rfl rfl
      (by decide) (by decide)).mp h
    exact absurd heq.1 (by decide)
  · have heq := (hclaim "relay" "READY" "0a" "b:c" "READY" "0a" "c" (by decide) (by decide)
      (by decide) (by decide)).mp h
    exact absurd heq.2.2 (by decide)

end Key

end GuildRelay
