import GuildRelay.Store.Cell
import Mathlib.Data.String.Basic
/-!
# Adding to sets

A set is a list in order, so what is added gets to its own place: neither the order of additions nor
a repetition shows in the list. This holds of every list, in order or not.
-/

namespace GuildRelay

section InOrder

variable {s t : String}

theorem insertInOrder_of_lt (h : s < t) (rest : List String) :
    insertInOrder s (t :: rest) = s :: t :: rest := by
  simp [insertInOrder, h, h.ne]

theorem insertInOrder_of_gt (h : t < s) (rest : List String) :
    insertInOrder s (t :: rest) = t :: insertInOrder s rest := by
  simp [insertInOrder, h.ne', h.not_gt]

theorem insertInOrder_head (s : String) (rest : List String) :
    insertInOrder s (s :: rest) = s :: rest := by
  simp [insertInOrder]

theorem insertInOrder_self (s : String) (texts : List String) :
    insertInOrder s (insertInOrder s texts) = insertInOrder s texts := by
  induction texts with
  | nil => exact insertInOrder_head s []
  | cons t rest ih =>
      rcases lt_trichotomy s t with h | rfl | h
      · rw [insertInOrder_of_lt h, insertInOrder_head]
      · rw [insertInOrder_head, insertInOrder_head]
      · rw [insertInOrder_of_gt h, insertInOrder_of_gt h, ih]

/-- Two texts get to their places in either order. -/
theorem insertInOrder_comm (s s' : String) (texts : List String) :
    insertInOrder s (insertInOrder s' texts) = insertInOrder s' (insertInOrder s texts) := by
  have hlt : ∀ {a b : String}, a < b → ∀ texts : List String,
      insertInOrder a (insertInOrder b texts) = insertInOrder b (insertInOrder a texts) := by
    intro a b hab texts
    induction texts with
    | nil =>
        show insertInOrder a [b] = insertInOrder b [a]
        rw [insertInOrder_of_lt hab, insertInOrder_of_gt hab]
        rfl
    | cons t rest ih =>
        rcases lt_trichotomy a t with ha | rfl | ha
        · rw [insertInOrder_of_lt ha, insertInOrder_of_gt hab]
          rcases lt_trichotomy b t with hb | rfl | hb
          · rw [insertInOrder_of_lt hb, insertInOrder_of_lt hab]
          · rw [insertInOrder_head, insertInOrder_of_lt hab]
          · rw [insertInOrder_of_gt hb, insertInOrder_of_lt ha]
        · rw [insertInOrder_of_gt hab, insertInOrder_head, insertInOrder_head,
            insertInOrder_of_gt hab]
        · rw [insertInOrder_of_gt ha, insertInOrder_of_gt (ha.trans hab),
            insertInOrder_of_gt (ha.trans hab), insertInOrder_of_gt ha, ih]
  rcases lt_trichotomy s s' with h | rfl | h
  · exact hlt h texts
  · rfl
  · exact (hlt h texts).symm

end InOrder

section Several

variable (new new' texts : List String)

theorem insertAll_append :
    insertAll (new ++ new') texts = insertAll new' (insertAll new texts) :=
  List.foldl_append

theorem insertAll_insertInOrder (s : String) :
    insertAll new (insertInOrder s texts) = insertInOrder s (insertAll new texts) := by
  induction new generalizing texts with
  | nil => rfl
  | cons s' new ih =>
      show insertAll new (insertInOrder s' (insertInOrder s texts)) = _
      rw [insertInOrder_comm, ih]
      rfl

/-- Texts that have been added are not added again. -/
theorem insertAll_comm :
    insertAll new (insertAll new' texts) = insertAll new' (insertAll new texts) := by
  induction new' generalizing texts with
  | nil => rfl
  | cons s new' ih =>
      show insertAll new (insertAll new' (insertInOrder s texts))
        = insertAll new' (insertInOrder s (insertAll new texts))
      rw [ih, insertAll_insertInOrder]

theorem insertAll_insertAll : insertAll new (insertAll new texts) = insertAll new texts := by
  induction new generalizing texts with
  | nil => rfl
  | cons s new ih =>
      show insertAll new (insertInOrder s (insertAll new (insertInOrder s texts)))
        = insertAll new (insertInOrder s texts)
      rw [insertAll_insertInOrder, ih, ← insertAll_insertInOrder, insertInOrder_self]

end Several

end GuildRelay
