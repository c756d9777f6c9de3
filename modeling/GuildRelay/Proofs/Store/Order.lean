import GuildRelay.Proofs.Store.Cell
import GuildRelay.Store.Host
import Mathlib.Data.List.Sort
/-!
# Sets are in order

Every set of a store is an ordered list without repetitions, whatever is done to the store: texts
are put into their places, and taking one out disturbs no order. Two such lists with the same
members are the same list (`List.Pairwise.eq_of_mem_iff`), so it does not show in a set how it came
about.
-/

namespace GuildRelay

theorem pairwise_insertInOrder (s : String) {texts : List String}
    (h : texts.Pairwise (· < ·)) : (insertInOrder s texts).Pairwise (· < ·) := by
  induction texts with
  | nil => exact List.pairwise_singleton _ s
  | cons t rest ih =>
      obtain ⟨hfirst, hrest⟩ := List.pairwise_cons.mp h
      rcases lt_trichotomy s t with hlt | rfl | hgt
      · rw [insertInOrder_of_lt hlt]
        refine List.pairwise_cons.mpr ⟨fun u hu => ?_, h⟩
        rcases List.mem_cons.mp hu with rfl | hu
        · exact hlt
        · exact hlt.trans (hfirst u hu)
      · rwa [insertInOrder_head]
      · rw [insertInOrder_of_gt hgt]
        refine List.pairwise_cons.mpr ⟨fun u hu => ?_, ih hrest⟩
        rcases mem_insertInOrder.mp hu with rfl | hu
        · exact hgt
        · exact hfirst u hu

theorem pairwise_insertAll (new : List String) {texts : List String}
    (h : texts.Pairwise (· < ·)) : (insertAll new texts).Pairwise (· < ·) := by
  induction new generalizing texts with
  | nil => exact h
  | cons s new ih => exact ih (pairwise_insertInOrder s h)

namespace Cell

/-- The set under the key is in order. -/
def InOrder (c : Cell) : Prop :=
  c.members.Pairwise (· < ·)

theorem InOrder.answer {c : Cell} (h : c.InOrder) (now : Nat) (op : Operation) :
    (c.answer now op).2.InOrder := by
  cases op with
  | addToSet new => exact pairwise_insertAll new h
  | removeFromSet s => exact List.Pairwise.filter _ h
  | delete => exact List.Pairwise.nil
  | setIfAbsent text ttl =>
      unfold Cell.answer
      split <;> exact h
  | _ => exact h

end Cell

namespace Host

/-- The sets under all keys are in order. -/
def InOrder (h : Host) : Prop :=
  ∀ name, (h.store.cell name).InOrder

theorem inOrder_of_empty {h : Host} (hstore : h.store = {}) : h.InOrder := by
  intro name
  rw [hstore]
  exact List.Pairwise.nil

theorem InOrder.call {h : Host} (ho : h.InOrder) (key : String) (op : Operation) :
    (h.call key op).2.InOrder := by
  intro name
  unfold Host.call
  cases h.faults h.calls.length with
  | some e => exact ho name
  | none =>
      show ((h.store.answer h.now key op).2.cell name).InOrder
      rw [Store.cell_answer]
      split
      · exact (ho key).answer h.now op
      · exact ho name

end Host

end GuildRelay
