import GuildRelay.Number.Decimal
/-!
# Double-precision numbers

The numbers of IEEE 754 `binary64` with exact arithmetic on natural numbers underneath: a finite
number is a mantissa times a power of two. `ofRatio` rounds a quotient to the nearest number, ties
to the even mantissa, and `ofDecimal` rounds a decimal text.
-/

namespace GuildRelay

/-- A double-precision number. A finite one is `mantissa * 2 ^ exponent` with its sign. -/
inductive Binary64 where
  | undefined
  | infinite (negative : Bool)
  | finite (negative : Bool) (mantissa : Nat) (exponent : Int)
deriving Repr, DecidableEq

namespace Binary64

/-- The exponent of the smallest numbers. -/
def leastExponent : Int := -1074

/-- The largest exponent of a finite number. -/
def greatestExponent : Int := 971

/-- `n / d`, rounded to the nearest integer, ties to even. -/
def roundDiv (n d : Nat) : Nat :=
  let q := n / d
  let r := n % d
  if 2 * r < d then q
  else if d < 2 * r then q + 1
  else if q % 2 = 0 then q else q + 1

/-- `num / den` in units of `2 ^ e`, as a fraction of natural numbers. -/
def inUnits (num den : Nat) (e : Int) : Nat × Nat :=
  if 0 ≤ e then (num, den * Nat.pow 2 e.toNat) else (num * Nat.pow 2 (-e).toNat, den)

/-- The exponent at which the mantissa of `num / den` has 53 bits, or the least exponent. -/
def exponentFor (num den : Nat) : Int :=
  let guess : Int := (Nat.log2 num : Int) - Nat.log2 den - 52
  let (n, d) := inUnits num den guess
  let e := if n < Nat.pow 2 52 * d then guess - 1 else guess
  if e < leastExponent then leastExponent else e

/-- The nearest number to `num / den`, with a sign. -/
def ofRatio (negative : Bool) (num den : Nat) : Binary64 :=
  if num = 0 then .finite negative 0 leastExponent
  else
    let e := exponentFor num den
    let (n, d) := inUnits num den e
    let m := roundDiv n d
    let (m, e) := if m = Nat.pow 2 53 then (Nat.pow 2 52, e + 1) else (m, e)
    if greatestExponent < e then .infinite negative else .finite negative m e

/-- The nearest number to an integer. -/
def ofInt (i : Int) : Binary64 :=
  ofRatio (i < 0) i.natAbs 1

/-- The nearest number to a decimal. Decimals far outside the range are not expanded. -/
def ofDecimal (x : Decimal) : Binary64 :=
  let magnitude : Int := (Nat.log2 x.coefficient : Int) * 3 / 10 + x.exponent
  if x.coefficient = 0 then .finite x.negative 0 leastExponent
  else if 400 < magnitude then .infinite x.negative
  else if magnitude < -400 then .finite x.negative 0 leastExponent
  else if 0 ≤ x.exponent then ofRatio x.negative (x.coefficient * Nat.pow 10 x.exponent.toNat) 1
  else ofRatio x.negative x.coefficient (Nat.pow 10 (-x.exponent).toNat)

/-- The nearest number to a written number. -/
def ofReal : Real → Binary64
  | .finite d => ofDecimal d
  | .infinite negative => .infinite negative
  | .undefined => .undefined

/-- The number is neither infinite nor undefined. -/
def isFinite : Binary64 → Bool
  | .finite .. => true
  | _ => false

/-- The number is greater than zero. -/
def isPositive : Binary64 → Bool
  | .finite negative m _ => !negative && m != 0
  | .infinite negative => !negative
  | .undefined => false

/-- The exact value of a finite number. -/
def toRat? : Binary64 → Option Rat
  | .finite negative m e =>
    let magnitude : Rat := if 0 ≤ e then (m * Nat.pow 2 e.toNat : Nat)
      else (m : Rat) / (Nat.pow 2 (-e).toNat : Nat)
    some (if negative then -magnitude else magnitude)
  | _ => none

/-- One divided by the number, rounded. -/
def recip : Binary64 → Binary64
  | .undefined => .undefined
  | .infinite negative => .finite negative 0 leastExponent
  | .finite negative m e =>
    if m = 0 then .infinite negative
    else if 0 ≤ e then ofRatio negative 1 (m * Nat.pow 2 e.toNat)
    else ofRatio negative (Nat.pow 2 (-e).toNat) m

end Binary64

end GuildRelay
