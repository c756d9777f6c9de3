import GuildRelay.Store.Basic
import Mathlib.Data.List.Basic
/-!
# Reading and trimming ranges

`slice` reckons with numbers of any size and takes what there is. A store whose positions are words
of 64 bits has to go about it in two steps. It first resolves the ends of a range, where a sum may
overflow (`WordRange.resolve`), and then cuts the list there, where a position may be out of bounds
(`WordRange.read`, `WordRange.trim`). Neither happens, and what comes out is the slice
(`WordRange.read_eq`, `WordRange.trim_eq`).

`Store.ranges_and_trims` says which items a range shows, and that trimming a list to a range leaves
what reading the range has shown.
-/

namespace GuildRelay

/-- What may go wrong with a range. -/
inductive RangeFault where
  | overflow
  | outOfBounds
deriving DecidableEq

/-! ## In words of 64 bits -/

namespace WordRange

/-- The word for a number. -/
def word (n : Int) : Except RangeFault Int64 :=
  if h : Int64.minValue.toInt ≤ n ∧ n ≤ Int64.maxValue.toInt then .ok (.ofIntLE n h.1 h.2)
  else .error .overflow

def firstWord (length start : Int64) : Except RangeFault Int64 :=
  if start < 0 then do
    let sum ← word (length.toInt + start.toInt)
    return if sum < 0 then 0 else sum
  else return start

def lastWord (length stop : Int64) : Except RangeFault Int64 :=
  if stop < 0 then word (length.toInt + stop.toInt)
  else do
    let greatest ← word (length.toInt - 1)
    return if greatest < stop then greatest else stop

/-- The first and the last position that a range selects in a list of some length, none if it
selects nothing. -/
def resolve (length : Nat) (start stop : Int64) : Except RangeFault (Option (Nat × Nat)) := do
  let length ← word length
  let first ← firstWord length start
  let last ← lastWord length stop
  if length = 0 || last < first || length ≤ first || last < 0 then return none
  return some (first.toNatClampNeg, last.toNatClampNeg)

section

variable {α : Type}

/-- The items from one position to another, which both have to be there. -/
def itemsBetween (items : List α) (first last : Nat) : Except RangeFault (List α) :=
  if first ≤ last + 1 ∧ last + 1 ≤ items.length then .ok ((items.take (last + 1)).drop first)
  else .error .outOfBounds

/-- The list without the items in front of a position. -/
def dropFront (items : List α) (first : Nat) : Except RangeFault (List α) :=
  if first ≤ items.length then .ok (items.drop first) else .error .outOfBounds

/-- The items of a range. -/
def read (items : List α) (start stop : Int64) : Except RangeFault (List α) := do
  match ← resolve items.length start stop with
  | some (first, last) => itemsBetween items first last
  | none => return []

/-- What is left of a list that is cut off behind a range and in front of it. -/
def trim (items : List α) (start stop : Int64) : Except RangeFault (List α) := do
  match ← resolve items.length start stop with
  | some (first, last) => dropFront (items.take (last + 1)) first
  | none => return []

end

theorem exists_word {n : Int} (hmin : -9223372036854775808 ≤ n) (hmax : n ≤ 9223372036854775807) :
    ∃ w, word n = .ok w ∧ w.toInt = n := by
  have h : Int64.minValue.toInt ≤ n ∧ n ≤ Int64.maxValue.toInt := ⟨hmin, hmax⟩
  exact ⟨.ofIntLE n h.1 h.2, dif_pos h, Int64.toInt_ofIntLE⟩

theorem toInt_bounds (w : Int64) :
    -9223372036854775808 ≤ w.toInt ∧ w.toInt ≤ 9223372036854775807 :=
  ⟨w.minValue_le_toInt, w.toInt_le⟩

section

variable {length start stop : Int64}

theorem exists_firstWord (hlength : 0 ≤ length.toInt) (start : Int64) :
    ∃ w, firstWord length start = .ok w ∧
      w.toInt = if start.toInt < 0 then max (length.toInt + start.toInt) 0 else start.toInt := by
  have hl := toInt_bounds length
  have hs := toInt_bounds start
  unfold firstWord
  simp only [Int64.lt_iff_toInt_lt, Int64.toInt_zero]
  split
  · next hneg =>
      obtain ⟨sum, hsum, hvalue⟩ :=
        exists_word (n := length.toInt + start.toInt) (by omega) (by omega)
      rw [hsum]
      refine ⟨_, rfl, ?_⟩
      split
      · rw [Int64.toInt_zero]
        omega
      · omega
  · exact ⟨start, rfl, rfl⟩

theorem exists_lastWord (hlength : 0 ≤ length.toInt) (stop : Int64) :
    ∃ w, lastWord length stop = .ok w ∧
      w.toInt = if stop.toInt < 0 then length.toInt + stop.toInt
        else min stop.toInt (length.toInt - 1) := by
  have hl := toInt_bounds length
  have hs := toInt_bounds stop
  unfold lastWord
  simp only [Int64.lt_iff_toInt_lt, Int64.toInt_zero]
  split
  · next hneg => exact exists_word (by omega) (by omega)
  · next hnonneg =>
      obtain ⟨greatest, hgreatest, hvalue⟩ :=
        exists_word (n := length.toInt - 1) (by omega) (by omega)
      rw [hgreatest]
      refine ⟨_, rfl, ?_⟩
      split <;> omega

/-- What the ends of a range come to: nothing where the slice is empty, and else two positions of
the list that the slice lies between. -/
theorem exists_resolve {α : Type} {items : List α}
    (hlength : (items.length : Int) ≤ Int64.maxValue.toInt) (start stop : Int64) :
    ∃ found, resolve items.length start stop = .ok found ∧
      match found with
      | none => slice start.toInt stop.toInt items = []
      | some (first, last) => first ≤ last ∧ last < items.length ∧
        slice start.toInt stop.toInt items = (items.take (last + 1)).drop first := by
  have hmax : (items.length : Int) ≤ 9223372036854775807 := hlength
  obtain ⟨length, hword, hvalue⟩ := exists_word (n := items.length) (by omega) hmax
  have hnonneg : 0 ≤ length.toInt := by omega
  obtain ⟨first, hfirst, hfirstValue⟩ := exists_firstWord hnonneg start
  obtain ⟨last, hlast, hlastValue⟩ := exists_lastWord hnonneg stop
  have hresolve : resolve items.length start stop =
      .ok (if length = 0 || last < first || length ≤ first || last < 0 then none
        else some (first.toNatClampNeg, last.toNatClampNeg)) := by
    simp only [resolve, hword, hfirst, hlast, bind, Except.bind, pure, Except.pure]
    split <;> rfl
  have hstart : (position items.length start.toInt).toNat = first.toInt.toNat := by
    unfold position
    split at hfirstValue <;> split <;> omega
  have hstop : min (position items.length stop.toInt) (items.length - 1) = last.toInt := by
    unfold position
    split at hlastValue <;> split <;> omega
  have hfirstNonneg : 0 ≤ first.toInt := by
    split at hfirstValue <;> omega
  refine ⟨_, hresolve, ?_⟩
  simp only [Bool.or_eq_true, decide_eq_true_eq, ← Int64.toInt_inj, Int64.lt_iff_toInt_lt,
    Int64.le_iff_toInt_le, Int64.toInt_zero]
  by_cases hnone : ((length.toInt = 0 ∨ last.toInt < first.toInt) ∨ length.toInt ≤ first.toInt)
      ∨ last.toInt < 0
  · rw [if_pos hnone]
    refine List.drop_eq_nil_of_le ?_
    rw [List.length_take]
    omega
  · rw [if_neg hnone]
    refine ⟨?_, ?_, ?_⟩
    · show first.toInt.toNat ≤ last.toInt.toNat
      omega
    · show last.toInt.toNat < items.length
      omega
    · show (items.take _).drop _ = (items.take (last.toInt.toNat + 1)).drop first.toInt.toNat
      rw [hstart]
      congr 1
      rw [List.take_eq_take_iff]
      omega

end

section

variable {α : Type} {items : List α} (hlength : (items.length : Int) ≤ Int64.maxValue.toInt)
  (start stop : Int64)

include hlength

theorem read_eq : read items start stop = .ok (slice start.toInt stop.toInt items) := by
  obtain ⟨found, hresolve, hfound⟩ := exists_resolve hlength start stop
  simp only [read, hresolve, bind, Except.bind]
  cases found with
  | none => rw [hfound]; rfl
  | some ends =>
      obtain ⟨first, last⟩ := ends
      obtain ⟨hle, hlast, hslice⟩ := hfound
      rw [hslice]
      exact if_pos ⟨by omega, by omega⟩

theorem trim_eq : trim items start stop = .ok (slice start.toInt stop.toInt items) := by
  obtain ⟨found, hresolve, hfound⟩ := exists_resolve hlength start stop
  simp only [trim, hresolve, bind, Except.bind]
  cases found with
  | none => rw [hfound]; rfl
  | some ends =>
      obtain ⟨first, last⟩ := ends
      obtain ⟨hle, hlast, hslice⟩ := hfound
      rw [hslice]
      exact if_pos (by rw [List.length_take]; omega)

end

end WordRange

/-! ## By positions -/

theorem drop_take_eq_filter {α : Type} (items : List α) (first last k : Nat) :
    (items.take (last - k)).drop (first - k) =
      ((items.zipIdx k).filter fun x => first ≤ x.2 && x.2 < last).map (·.1) := by
  induction items generalizing k with
  | nil => simp
  | cons x rest ih =>
      have hrest := ih (k + 1)
      rw [List.zipIdx_cons, List.filter_cons]
      by_cases hlast : k < last
      · rw [show last - k = (last - (k + 1)) + 1 by omega, List.take_succ_cons]
        by_cases hfirst : first ≤ k
        · rw [show first - (k + 1) = 0 by omega] at hrest
          simpa [hfirst, hlast, Nat.sub_eq_zero_of_le hfirst] using hrest
        · rw [show first - k = (first - (k + 1)) + 1 by omega, List.drop_succ_cons, hrest]
          simp [hfirst]
      · rw [show last - (k + 1) = 0 by omega] at hrest
        simpa [hlast, Nat.sub_eq_zero_of_le (Nat.le_of_not_lt hlast)] using hrest

/-- The slice has the items from one position to another, in order. -/
theorem slice_eq_filter {α : Type} (start stop : Int) (items : List α) :
    slice start stop items =
      (items.zipIdx.filter fun x =>
        (if start < 0 then max (items.length + start) 0 else start) ≤ x.2 &&
          x.2 ≤ if stop < 0 then items.length + stop else stop).map (·.1) := by
  have hcut := drop_take_eq_filter items (position items.length start).toNat
    (position items.length stop + 1).toNat 0
  rw [Nat.sub_zero, Nat.sub_zero] at hcut
  refine hcut.trans (congrArg _ (List.filter_congr fun x _ => ?_))
  rw [Bool.eq_iff_iff]
  simp only [Bool.and_eq_true, decide_eq_true_eq]
  unfold position
  by_cases hstart : start < 0
  · rw [if_pos hstart, if_pos hstart]
    split <;> omega
  · rw [if_neg hstart, if_neg hstart]
    split <;> omega

/-! ## In a store -/

theorem Store.not_mem_keys_put (s : Store) (key : String) : key ∉ (s.put key {}).keys := by
  simp [put, keys, Entries.without]

/-- A range of a list shows the items at its positions, where a negative end counts from behind and
one that is out of range is taken for the nearest, whatever words the ends are. Reckoning with words
overflows nowhere and leaves no position out of bounds. Trimming the list to the range leaves what
the range has shown, no list where it has shown nothing, and everything else as it was. -/
theorem Store.ranges_and_trims (s : Store) (now : Nat) (key : String) (start stop : Int64)
    (hlength : ((s.cell key).items.length : Int) ≤ Int64.maxValue.toInt) :
    let items := (s.cell key).items
    let n : Int := items.length
    let first := if start.toInt < 0 then max (n + start.toInt) 0 else start.toInt
    let last := if stop.toInt < 0 then n + stop.toInt else stop.toInt
    let shown := (s.answer now key (.rangeList start.toInt stop.toInt)).1
    let read := (s.answer now key (.rangeList start.toInt stop.toInt)).2
    let trimmed := (s.answer now key (.trimList start.toInt stop.toInt)).2
    shown = (items.zipIdx.filter fun x => first ≤ x.2 && x.2 ≤ last).map (·.1)
    ∧ WordRange.read items start stop = .ok shown ∧ WordRange.trim items start stop = .ok shown
    ∧ (∀ name, read.cell name = s.cell name)
    ∧ trimmed.cell key = { s.cell key with items := shown }
    ∧ (trimmed.answer now key (.rangeList 0 (-1))).1 = shown
    ∧ (shown = [] → (s.cell key).value = none → (s.cell key).members = [] → key ∉ trimmed.keys)
    ∧ ∀ name, name ≠ key → trimmed.cell name = s.cell name := by
  intro items n first last shown read trimmed
  have hcell : trimmed.cell key = { s.cell key with items := shown } := by
    rw [cell_answer, if_pos rfl]
    rfl
  refine ⟨slice_eq_filter start.toInt stop.toInt items, WordRange.read_eq hlength start stop,
    WordRange.trim_eq hlength start stop, fun name => ?_, hcell, ?_,
    fun hshown hvalue hmembers => ?_, fun name hname => ?_⟩
  · rw [cell_answer]
    split
    · next h =>
        rw [h]
        rfl
    · rfl
  · rw [reply_answer, hcell]
    exact slice_all shown
  · have hgone : (⟨(s.cell key).value, (s.cell key).members, shown⟩ : Cell) = {} := by
      rw [hshown, hvalue, hmembers]
    show key ∉ (s.put key ⟨(s.cell key).value, (s.cell key).members, shown⟩).keys
    rw [hgone]
    exact not_mem_keys_put s key
  · rw [cell_answer, if_neg hname]

def sampleLists : Store where
  cells := [("queue", { items := ["a", "b", "c"] }), ("other", { items := ["d"] })]

/-- The least word as the first end is before any list, and one before the end of a list of three is
its second position. The rest of that list is out of its bounds. -/
theorem Store.sample_ranges_and_trims :
    let shown := (sampleLists.answer 0 "queue" (.rangeList Int64.minValue.toInt (-2))).1
    let trimmed := (sampleLists.answer 0 "queue" (.trimList Int64.maxValue.toInt (-1))).2
    shown = ["a", "b"] ∧ WordRange.read ["a", "b", "c"] Int64.minValue (-2) = .ok shown
    ∧ "queue" ∉ trimmed.keys ∧ trimmed.cell "other" = { items := ["d"] } := by
  intro shown trimmed
  have hlength : ((sampleLists.cell "queue").items.length : Int) ≤ Int64.maxValue.toInt := by
    decide
  obtain ⟨-, hread, -⟩ := sampleLists.ranges_and_trims 0 "queue" Int64.minValue (-2) hlength
  obtain ⟨-, -, -, -, -, -, hgone, hother⟩ :=
    sampleLists.ranges_and_trims 0 "queue" Int64.maxValue (-1) hlength
  exact ⟨by decide, hread, hgone (by decide) rfl rfl, hother "other" (by decide)⟩

end GuildRelay
