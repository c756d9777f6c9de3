/-!
# Decimal digits

`digits` writes a natural number and `natOf` reads digits back. `natOf_digits` says that nothing
is lost, `digits_all` that only digits are written and `digits_ne_nil` that some are; `digits_head`
says that no number but zero starts with a zero.
-/

namespace GuildRelay.Text

/-- The ten digits of ASCII. -/
def isDigit (c : Char) : Bool :=
  '0' ≤ c && c ≤ '9'

/-- The value of a digit. -/
def digitValue (c : Char) : Nat :=
  c.toNat - '0'.toNat

/-- The digit of a value below ten. -/
def digitChar (n : Nat) : Char :=
  Char.ofNat ('0'.toNat + n)

/-- The number that a list of digits writes, on top of the digits `n` read before. -/
def natFrom (n : Nat) : List Char → Nat
  | [] => n
  | c :: rest => natFrom (10 * n + digitValue c) rest

/-- The number that a list of digits writes. -/
def natOf (cs : List Char) : Nat :=
  natFrom 0 cs

/-- The decimal digits of a number, without leading zeros. -/
def digits (n : Nat) : List Char :=
  if n < 10 then [digitChar n] else digits (n / 10) ++ [digitChar (n % 10)]

/-- The decimal text of an integer. -/
def intDigits (i : Int) : List Char :=
  if i < 0 then '-' :: digits i.natAbs else digits i.natAbs

/-- The digits of a number, with zeros in front up to a width. -/
def padded (width n : Nat) : List Char :=
  let ds := digits n
  List.replicate (width - ds.length) '0' ++ ds

/-! ## Reading back -/

theorem natFrom_append (n : Nat) (cs ds : List Char) :
    natFrom n (cs ++ ds) = natFrom (natFrom n cs) ds := by
  induction cs generalizing n with
  | nil => rfl
  | cons c cs ih => exact ih _

theorem isDigit_digitChar {n : Nat} (h : n < 10) : isDigit (digitChar n) = true := by
  have : n = 0 ∨ n = 1 ∨ n = 2 ∨ n = 3 ∨ n = 4 ∨ n = 5 ∨ n = 6 ∨ n = 7 ∨ n = 8 ∨ n = 9 := by omega
  rcases this with h | h | h | h | h | h | h | h | h | h <;> subst h <;> decide

theorem digitValue_digitChar {n : Nat} (h : n < 10) : digitValue (digitChar n) = n := by
  have : n = 0 ∨ n = 1 ∨ n = 2 ∨ n = 3 ∨ n = 4 ∨ n = 5 ∨ n = 6 ∨ n = 7 ∨ n = 8 ∨ n = 9 := by omega
  rcases this with h | h | h | h | h | h | h | h | h | h <;> subst h <;> decide

theorem natFrom_digitChar (n : Nat) {d : Nat} (h : d < 10) :
    natFrom n [digitChar d] = 10 * n + d := by
  show 10 * n + digitValue (digitChar d) = 10 * n + d
  rw [digitValue_digitChar h]

theorem natOf_digits (n : Nat) : natOf (digits n) = n := by
  induction n using Nat.strongRecOn with
  | ind n ih =>
    rw [digits]
    split
    next h => exact (natFrom_digitChar 0 h).trans (by omega)
    next h =>
      have hq : natFrom 0 (digits (n / 10)) = n / 10 := ih (n / 10) (by omega)
      have hr : n % 10 < 10 := Nat.mod_lt n (by omega)
      rw [natOf, natFrom_append, hq, natFrom_digitChar _ hr]
      omega

theorem digits_all (n : Nat) : ∀ c ∈ digits n, isDigit c = true := by
  induction n using Nat.strongRecOn with
  | ind n ih =>
    rw [digits]
    split
    next h => simpa using isDigit_digitChar h
    next h =>
      intro c hc
      rcases List.mem_append.1 hc with hc | hc
      · exact ih (n / 10) (by omega) c hc
      · rw [List.mem_singleton.1 hc]
        exact isDigit_digitChar (by omega)

theorem digits_ne_nil (n : Nat) : digits n ≠ [] := by
  rw [digits]
  split <;> simp

theorem digits_head {n : Nat} (h : n ≠ 0) : ∀ c ∈ (digits n).head?, c ≠ '0' := by
  induction n using Nat.strongRecOn with
  | ind n ih =>
    rw [digits]
    split
    next hn =>
      intro c hc hz
      have hv := digitValue_digitChar hn
      simp only [List.head?_cons, Option.mem_def, Option.some.injEq] at hc
      rw [hc, hz] at hv
      exact h (by simpa [digitValue] using hv.symm)
    next hn =>
      have := ih (n / 10) (by omega) (by omega)
      cases hd : digits (n / 10) with
      | nil => exact absurd hd (digits_ne_nil _)
      | cons d ds => simpa [hd] using this

end GuildRelay.Text
