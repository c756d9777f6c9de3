import GuildRelay.Time.Timestamp
/-!
# Timestamps read back

`Timestamp.parse?_render`: the text of a moment is read as that moment, for every year of the
calendar, every fraction and every leap second. The reader accepts much more than the writer writes,
so each part is shown to stop where the writer ended it: a number of fixed width because it has all
the digits it may have (`readNumber_padded`), a year with a sign and a fraction because the next
character is no digit (`StartsNoDigit`).
-/

namespace GuildRelay

namespace Text

/-! ## Digits of fixed width -/

theorem natFrom_replicate_zero (n : Nat) : natFrom 0 (List.replicate n '0') = 0 := by
  induction n with
  | zero => rfl
  | succ n ih => exact ih

theorem natOf_padded (width n : Nat) : natOf (padded width n) = n := by
  simp only [padded, natOf, natFrom_append, natFrom_replicate_zero]
  exact natOf_digits n

theorem padded_all (width n : Nat) : ∀ c ∈ padded width n, isDigit c = true := by
  intro c hc
  rcases List.mem_append.mp hc with hc | hc
  · rw [List.eq_of_mem_replicate hc]; decide
  · exact digits_all n c hc

theorem length_digits_le : ∀ (width n : Nat), 0 < width → n < Nat.pow 10 width →
    (digits n).length ≤ width
  | 1, n, _, h => by
      have hn : n < 10 := h
      rw [digits, if_pos hn]
      exact Nat.le_refl 1
  | width + 2, n, _, h => by
      rw [digits]
      split
      · exact Nat.le_add_left 1 (width + 1)
      · have hlt : n < Nat.pow 10 (width + 1) * 10 := h
        have ih := length_digits_le (width + 1) (n / 10) (Nat.succ_pos width)
          (Nat.div_lt_of_lt_mul (by omega : n < 10 * Nat.pow 10 (width + 1)))
        rw [List.length_append]
        exact Nat.add_le_add_right ih 1

/-- A number that fits the width is written with exactly that many digits. -/
theorem length_padded {width n : Nat} (hw : 0 < width) (h : n < Nat.pow 10 width) :
    (padded width n).length = width := by
  have := length_digits_le width n hw h
  simp only [padded, List.length_append, List.length_replicate]
  omega

theorem isBlank_of_isDigit {c : Char} (h : isDigit c = true) : isBlank c = false := by
  have hbounds : 48 ≤ c.toNat ∧ c.toNat ≤ 57 := by
    simp only [isDigit, Bool.and_eq_true, decide_eq_true_eq, Char.le_def,
      UInt32.le_iff_toNat_le] at h
    exact h
  simp only [isBlank]
  simp
  omega

end Text

namespace Timestamp

open Text

/-- The text does not start with a digit. -/
def StartsNoDigit (rest : List Char) : Prop :=
  ∀ c ∈ rest.head?, isDigit c = false

theorem takeWhile_isDigit_append {ds : List Char} (hds : ∀ d ∈ ds, isDigit d = true)
    {rest : List Char} (hrest : StartsNoDigit rest) : (ds ++ rest).takeWhile isDigit = ds := by
  rw [List.takeWhile_append_of_pos hds]
  cases rest with
  | nil => simp
  | cons c rest => simp [hrest c (by simp)]

theorem dropWhile_isDigit_append {ds rest : List Char} (hds : ∀ d ∈ ds, isDigit d = true)
    (hrest : StartsNoDigit rest) : (ds ++ rest).dropWhile isDigit = rest := by
  rw [List.dropWhile_append_of_pos hds]
  cases rest with
  | nil => rfl
  | cons c rest => simp [hrest c (by simp)]

theorem startsNoDigit_take {rest : List Char} (h : StartsNoDigit rest) (n : Nat) :
    StartsNoDigit (rest.take n) := by
  cases rest with
  | nil => simpa using h
  | cons c rest =>
      cases n with
      | zero => simp [StartsNoDigit]
      | succ n => simpa [StartsNoDigit] using h

/-! ## Numbers -/

/-- Digits are read as a whole when they fill the width or when something else follows. -/
theorem readNumber_append (width : Nat) {ds : List Char} (rest : List Char) (hne : ds ≠ [])
    (hds : ∀ d ∈ ds, isDigit d = true)
    (hend : ds.length = width ∨ ds.length ≤ width ∧ StartsNoDigit rest) :
    readNumber width (ds ++ rest) = some (natOf ds, rest) := by
  have hread : ((ds ++ rest).take width).takeWhile isDigit = ds := by
    rcases hend with hlen | ⟨hlen, hrest⟩
    · subst hlen
      rw [List.take_left]
      have hnil : StartsNoDigit [] := fun c hc => by simp at hc
      simpa using takeWhile_isDigit_append hds hnil
    · rw [List.take_append, List.take_of_length_le hlen]
      exact takeWhile_isDigit_append hds (startsNoDigit_take hrest _)
  have hempty : ds.isEmpty = false := by simpa using hne
  simp [readNumber, hread, hempty]

theorem readNumber_padded (width n : Nat) (hw : 0 < width) (h : n < Nat.pow 10 width)
    (rest : List Char) : readNumber width (padded width n ++ rest) = some (n, rest) := by
  have hlen := length_padded hw h
  have hne : padded width n ≠ [] := by
    intro hnil
    rw [hnil] at hlen
    exact absurd hlen.symm (Nat.ne_of_gt hw)
  rw [readNumber_append width rest hne (padded_all width n) (.inl hlen), natOf_padded]

theorem padded_eq_cons (width n : Nat) :
    ∃ d ds, padded width n = d :: ds ∧ isDigit d = true := by
  cases hd : padded width n with
  | nil =>
      have := congrArg List.length hd
      simp [padded, digits_ne_nil] at this
  | cons d ds => exact ⟨d, ds, rfl, padded_all width n d (by simp [hd])⟩

theorem trimStart_padded (width n : Nat) (rest : List Char) :
    trimStart (padded width n ++ rest) = padded width n ++ rest := by
  obtain ⟨d, ds, hd, hdigit⟩ := padded_eq_cons width n
  rw [hd]
  exact trimStart_eq_self (isBlank_of_isDigit hdigit)

theorem after?_self {c : Char} (hc : isBlank c = false) (rest : List Char) :
    after? c (c :: rest) = some rest := by
  simp [after?, trimStart_eq_self hc]

/-! ## Dates -/

theorem readYear_digits {cs : List Char} {d : Char} (hd : isDigit d = true) :
    readYear (d :: cs) = (readNumber 4 (d :: cs)).map fun (n, rest) => ((n : Int), rest) := by
  have hminus : d ≠ '-' := fun h => absurd (h ▸ hd) (by decide)
  have hplus : d ≠ '+' := fun h => absurd (h ▸ hd) (by decide)
  unfold readYear
  split
  · next heq => exact absurd (List.cons.inj heq).1 hminus
  · next heq => exact absurd (List.cons.inj heq).1 hplus
  · rfl

theorem readYear_renderYear (year : Int) (rest : List Char) :
    readYear (renderYear year ++ '-' :: rest) = some (year, '-' :: rest) := by
  obtain ⟨d, ds, hd, hdigit⟩ := padded_eq_cons 4 year.natAbs
  by_cases h : (0 ≤ year && year ≤ 9999) = true
  · have hyear : 0 ≤ year ∧ year ≤ 9999 := by simpa using h
    have hread := readNumber_padded 4 year.natAbs (by omega)
      (by show year.natAbs < 10000; omega) ('-' :: rest)
    rw [renderYear, if_pos h]
    rw [hd, List.cons_append] at hread ⊢
    have habs : (year.natAbs : Int) = year := by omega
    rw [readYear_digits hdigit, hread]
    show some ((year.natAbs : Int), '-' :: rest) = _
    rw [habs]
  · have hread := readNumber_append (padded 4 year.natAbs ++ '-' :: rest).length ('-' :: rest)
      (by simp [hd]) (padded_all 4 year.natAbs)
      (.inr ⟨by simp, by simp [StartsNoDigit]; decide⟩)
    rw [natOf_padded] at hread
    rw [renderYear, if_neg h]
    by_cases hneg : year < 0
    · have habs : -(year.natAbs : Int) = year := by omega
      rw [if_pos hneg, List.cons_append, readYear, hread]
      show some (-(year.natAbs : Int), '-' :: rest) = _
      rw [habs]
    · have habs : (year.natAbs : Int) = year := by omega
      rw [if_neg hneg, List.cons_append, readYear, hread]
      show some ((year.natAbs : Int), '-' :: rest) = _
      rw [habs]

theorem trimStart_renderYear (year : Int) (rest : List Char) :
    trimStart (renderYear year ++ rest) = renderYear year ++ rest := by
  rw [renderYear]
  split
  · exact trimStart_padded 4 _ rest
  · split <;> exact trimStart_eq_self (by decide)

theorem readDate_render (d : Date) (rest : List Char) :
    readDate (renderYear d.year ++ '-' :: (padded 2 d.month ++ '-' :: (padded 2 d.day ++ rest))) =
      some (d, rest) := by
  have hvalid := d.valid
  simp only [isDate, Bool.and_eq_true, decide_eq_true_eq] at hvalid
  have hdays : daysInMonth d.year d.month ≤ 31 := by
    rw [daysInMonth]
    split
    · split <;> decide
    · split <;> decide
  have hmonth : d.month < Nat.pow 10 2 := by show d.month < 100; omega
  have hday : d.day < Nat.pow 10 2 := by show d.day < 100; omega
  have hhyphen := after?_self (c := '-') (by decide)
  simp [readDate, trimStart_renderYear, readYear_renderYear, hhyphen, trimStart_padded,
    readNumber_padded 2 _ (by decide) hmonth, readNumber_padded 2 _ (by decide) hday,
    Date.ofParts?_self]

/-! ## Clocks -/

/-- A fraction with as many digits as it takes, and no more than nine. -/
theorem readFraction_padded {width n : Nat} (hw : 0 < width) (hmax : width ≤ 9)
    (h : n < Nat.pow 10 width) {rest : List Char} (hrest : StartsNoDigit rest) :
    readFraction ('.' :: (padded width n ++ rest)) =
      some (n * Nat.pow 10 (9 - width), rest) := by
  have hlen := length_padded hw h
  have htake : ((padded width n ++ rest).take 9).takeWhile isDigit = padded width n := by
    rw [List.take_append, List.take_of_length_le (by omega)]
    exact takeWhile_isDigit_append (padded_all width n) (startsNoDigit_take hrest _)
  have hempty : (padded width n).isEmpty = false := by
    obtain ⟨d, ds, hd, -⟩ := padded_eq_cons width n
    rw [hd]
    rfl
  simp only [readFraction, htake, hempty, natOf_padded, hlen,
    dropWhile_isDigit_append (padded_all width n) hrest]
  rfl

theorem readFraction_renderFraction {nano : Nat} (h : nano < 1000000000) {c : Char}
    {rest : List Char} (hdigit : isDigit c = false) (hpoint : c ≠ '.') :
    readFraction (renderFraction nano ++ c :: rest) = some (nano, c :: rest) := by
  have hrest : StartsNoDigit (c :: rest) := by
    intro d hd
    obtain rfl := Option.some.inj hd
    exact hdigit
  rw [renderFraction]
  split
  · next hzero =>
    simp [readFraction, hpoint, hzero]
  split
  · next hmilli =>
    rw [List.cons_append, readFraction_padded (by decide) (by decide)
      (by show nano / 1000000 < 1000; omega) hrest]
    have : nano / 1000000 * Nat.pow 10 (9 - 3) = nano := by
      show nano / 1000000 * 1000000 = nano
      omega
    rw [this]
  split
  · next hmicro =>
    rw [List.cons_append, readFraction_padded (by decide) (by decide)
      (by show nano / 1000 < 1000000; omega) hrest]
    have : nano / 1000 * Nat.pow 10 (9 - 6) = nano := by
      show nano / 1000 * 1000 = nano
      omega
    rw [this]
  · rw [List.cons_append, readFraction_padded (by decide) (by decide) h hrest]
    have : nano * Nat.pow 10 (9 - 9) = nano := Nat.mul_one nano
    rw [this]

theorem readClock_render {hour minute : Nat} (second nano : Nat) (c : Char) (rest : List Char)
    (hhour : hour < 24) (hminute : minute < 60) (hsecond : second ≤ 60)
    (hnano : nano < 1000000000) (hdigit : isDigit c = false) (hpoint : c ≠ '.') :
    readClock (padded 2 hour ++ ':' :: (padded 2 minute ++ ':' :: (padded 2 second ++
      (renderFraction nano ++ c :: rest)))) = some ((hour, minute, second, nano), c :: rest) := by
  have hhour' : hour < Nat.pow 10 2 := by show hour < 100; omega
  have hminute' : minute < Nat.pow 10 2 := by show minute < 100; omega
  have hsecond' : second < Nat.pow 10 2 := by show second < 100; omega
  have hcolon := after?_self (c := ':') (by decide)
  simp [readClock, trimStart_padded, hcolon, readNumber_padded 2 _ (by decide) hhour',
    readNumber_padded 2 _ (by decide) hminute', readNumber_padded 2 _ (by decide) hsecond',
    readFraction_renderFraction hnano hdigit hpoint]

/-! ## Moments -/

theorem ofMinute?_self (t : Timestamp) :
    ofMinute? t.date (60 * t.hour + t.minute - 0) t.second t.nano = some t := by
  have hhour := t.hour_lt
  have hminute := t.minute_lt
  have hdiv : (60 * t.hour + t.minute) / 60 = t.hour := by omega
  have hmod : (60 * t.hour + t.minute) % 60 = t.minute := by omega
  have htoNat : ((60 * (t.hour : Int) + t.minute).toNat) = 60 * t.hour + t.minute := by omega
  simp only [ofMinute?, Int.sub_zero]
  rw [if_neg (by omega), if_neg (by omega)]
  simp only [htoNat, hdiv, hmod, Option.bind_eq_bind, Option.bind_some]
  rw [dif_pos ⟨t.hour_lt, t.second_lt, t.nano_lt, t.leap⟩]

/-- A moment is read back from its text. -/
theorem parse?_render (t : Timestamp) : parse? t.render = some t := by
  have hnano := t.nano_lt
  have hsecond := t.second_lt
  have hleap := t.leap
  have hhour := t.hour_lt
  have hminute := t.minute_lt
  have hclock := readClock_render (t.second + t.nano / 1000000000) (t.nano % 1000000000) 'Z' []
    hhour hminute (by omega) (by omega)
    (by decide) (by decide)
  simp only [parse?, render, renderLocal, String.toList_ofList, List.append_assoc,
    List.cons_append, readDate_render, Option.bind_eq_bind, Option.bind_some]
  have hoffset : readOffset (trimStart ['Z']) = some (0, []) := by decide
  -- a leap second is written as the second 60, and every other second as itself
  have hparts : (if t.second + t.nano / 1000000000 = 60 then
      (59, t.nano % 1000000000 + 1000000000)
      else (t.second + t.nano / 1000000000, t.nano % 1000000000)) = (t.second, t.nano) := by
    split <;> rw [Prod.mk.injEq] <;> omega
  rw [if_pos (by decide), hclock, Option.bind_some]
  simp only
  rw [if_neg (by simp; omega), hoffset, Option.bind_some, if_neg (by decide), hparts]
  exact ofMinute?_self t

end Timestamp

instance : LawfulCodec Timestamp where
  decode_encode _ t := Timestamp.parse?_render t

end GuildRelay
