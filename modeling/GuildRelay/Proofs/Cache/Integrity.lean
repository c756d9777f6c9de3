import GuildRelay.Proofs.Cache.Lookups
import GuildRelay.Proofs.Cache.Moves
/-!
# The cache does not spoil what it keeps

`World.Reachable.records_intact`: whatever events are applied and whatever happens beside them, a
live text under a plain key is the text of a record with the id of the key, and so nobody who reads
the cache ever comes across a text that is no record. The store has to do what it is asked; records
may expire at any time.

All of this follows from typing. Programs that are typed leave everything admitted
(`World.Reachable.exists_fits`), and where everything is admitted they end with a result or with an
error that is expected (`World.Shows.understands`).
-/

namespace GuildRelay

def Host.items (h : Host) (ns : String) (k : Key) : List String :=
  (h.content (k.text ns)).items

/-- What is live under the key is the text of a record with a property. -/
def Host.Keeps {α : Type} [Decode α] (h : Host) (ns : String) (k : Key) (P : α → Prop) : Prop :=
  ∀ text, h.value ns k = some text → ∃ a, Cache.readText text = .ok a ∧ P a

/-- Whatever happens beside the action, it does not come across a text that is no record. -/
def World.Understands {α : Type} (w : World) (ns : String) (a : CacheAction α) : Prop :=
  ∀ r w', Runs ns (ExceptT.run a) w r w' → ∀ reason, r ≠ .error (.malformed reason)

namespace Liberties

def ofEvents : Liberties := ⟨true, true, false⟩

theorem ofEvents_covers (settings : CacheSettings) : ofEvents.Covers settings := nofun

theorem Expects.ne_malformed {α : Type} {P : α → Prop} {r : Except CacheError α}
    (h : ofEvents.Expects P r) (reason : String) : r ≠ .error (.malformed reason) := by
  rintro rfl
  rcases h with h | h <;> exact nomatch h

end Liberties

open Liberties

theorem Host.Shows.admits_of_live {ns : String} {s : Surroundings} {h : Host} {v : View} {k : Key}
    (hv : h.Shows ns s v) (hfits : v.Fits) (hk : k.IsPlain) (hs : s.shares k = false)
    {text : String} (hlive : h.value ns k = some text) : k.Admits text :=
  ((hfits k).value text (hv.value_of_live hk hs hlive)).2

theorem Host.Shows.keeps {ns : String} {s : Surroundings} {h : Host} {v : View} {k : Key}
    {α : Type} [Decode α] [Encode α] [LawfulCodec α] [Writable α] {P : α → Prop}
    (hv : h.Shows ns s v) (hfits : v.Fits) (hk : k.IsPlain) (hs : s.shares k = false)
    (hadmits : k.Admits = IsRecord P) : h.Keeps ns k P := by
  intro text hlive
  have hrecord := hv.admits_of_live hfits hk hs hlive
  rw [hadmits] at hrecord
  exact Cache.readText_of_isRecord hrecord

theorem Host.Keeps.mono {α : Type} [Decode α] {h : Host} {ns : String} {k : Key} {P Q : α → Prop}
    (hkeeps : h.Keeps ns k P) (hPQ : ∀ a, P a → Q a) : h.Keeps ns k Q := by
  intro text hlive
  obtain ⟨a, hread, ha⟩ := hkeeps text hlive
  exact ⟨a, hread, hPQ a ha⟩

namespace World

variable {ns : String} {settings : CacheSettings} {w : World}

/-- Events leave everything admitted. -/
theorem Reachable.exists_fits (h : Reachable ns settings Event.IsWellNamed w) :
    ∃ v : View, v.Fits ∧ w.Shows ns Program.anywhere v :=
  h.exists_view rfl View.fits_empty fun _ botId _ he hv =>
    ((Cache.typed_apply (ofEvents_covers settings) botId he fun _ => rfl).ensures hv).mono
      fun _ _ h => h.2

/-- Where everything is admitted, a typed action understands what it reads. -/
theorem Shows.understands {α : Type} {v : View} {a : CacheAction α} {P : α → Prop}
    (hw : w.Shows ns Program.anywhere v) (hv : v.Fits) (ha : a.Typed ofEvents P) :
    w.Understands ns a := by
  intro r w' hruns
  obtain ⟨_, ⟨hr, -⟩, -⟩ := hruns.ensures rfl (ha.ensures hv) hw
  exact hr.ne_malformed

/-- In every world that well-named events lead to, with ban runs and time going on beside them, live
records are what their keys say: they can be read and carry the id in the key. So do the messages of
a channel. Hence no lookup and no event comes across a text that is no record. -/
theorem Reachable.records_intact (h : Reachable ns settings Event.IsWellNamed w) :
    (∀ g, PlainId g → w.host.Keeps ns (.guild g) fun r : Guild => r.id = g)
    ∧ (∀ c, PlainId c → w.host.Keeps ns (.channel c) fun r : Channel => r.id = c)
    ∧ (∀ u, PlainId u → w.host.Keeps ns (.user u) fun r : User => r.id = u)
    ∧ (∀ g u, PlainId g → w.host.Keeps ns (.member g u) fun m : Member => m.user.id = u)
    ∧ (∀ c, PlainId c → ∀ text ∈ w.host.items ns (.channelMessages c),
      ∃ m : Message, Cache.readText text = .ok m ∧ m.channelId = c)
    ∧ (∀ q : Lookup, q.IsWellNamed → w.Understands ns q.action)
    ∧ ∀ (botId : String) (e : Event), e.IsWellNamed →
      w.Understands ns (Cache.apply settings botId e) := by
  obtain ⟨v, hv, hw⟩ := h.exists_fits
  have hhost := hw.host
  refine ⟨fun g hg => ?_, fun c hc => ?_, fun u hu => ?_, fun g u hg => ?_,
    fun c hc text htext => ?_, fun q hq => ?_, fun botId e he => ?_⟩
  · exact (hhost.keeps hv (k := .guild g) hg rfl rfl).mono fun _ hr => hr.1
  · exact (hhost.keeps hv (k := .channel c) hc rfl rfl).mono fun _ hr => hr.1
  · exact (hhost.keeps hv (k := .user u) hu rfl rfl).mono fun _ hr => hr
  · exact (hhost.keeps hv (k := .member g u) hg rfl rfl).mono fun _ hm => hm.1
  · have hsame := ((hhost.plain (.channelMessages c) hc).same rfl).2.2
    have hadmits := ((hv (.channelMessages c)).items text (hsame ▸ htext)).2
    exact Cache.readText_of_isRecord hadmits
  · exact hw.understands hv (q.typed_action hq fun _ => rfl)
  · exact hw.understands hv (Cache.typed_apply (ofEvents_covers settings) botId he fun _ => rfl)

/-- The guild of the small world can be read, and looking its member up ends well. -/
theorem sample_records_intact :
    (∃ text, sample.host.value "relay" (.guild "1") = some text
      ∧ ∃ g : Guild, Cache.readText text = .ok g ∧ g.id = "1")
    ∧ ∀ reason, (((Lookup.member "1" "3").action.mapKeys (Key.text "relay")).runOn Host.backend
      sample.host).1 ≠ .error (.malformed reason) := by
  have h := sample_reachable sampleGuild_isWellNamed
  obtain ⟨hguild, -, -, -, -, hlookup, -⟩ := h.records_intact
  refine ⟨⟨_, (Option.some_get (by decide +kernel)).symm, hguild "1" (by decide) _ ?_⟩, ?_⟩
  · exact (Option.some_get (by decide +kernel)).symm
  · have hwell : (Lookup.member "1" "3").IsWellNamed := show PlainId "1" by decide
    exact hlookup (.member "1" "3") hwell _ _ (runs_of_run _ sample)

end World

end GuildRelay
