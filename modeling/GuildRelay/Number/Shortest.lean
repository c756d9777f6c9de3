import GuildRelay.Number.Binary64
import GuildRelay.Text.Decimal
/-!
# The shortest decimal of a double

`shortest` finds the decimal with the fewest digits that rounds back to a double, and of those the
nearest. It walks the decimal grids from coarse to fine: on each grid only the two neighbours of the
double can be the nearest point that still rounds to it, so no other point is tried. `Binary64.text`
writes the result positionally, without an exponent and without a fraction where there is none.
-/

namespace GuildRelay

/-- Three numbers in one unit: a double and the bounds of what rounds to it. -/
structure RoundingInterval where
  low : Nat
  value : Nat
  high : Nat
  /-- The common denominator of the three. -/
  unit : Nat
  /-- The bounds themselves round to the double. -/
  closed : Bool

namespace RoundingInterval

/-- What rounds to `mantissa * 2 ^ exponent`. Below a power of two the doubles lie twice as dense,
so there the lower bound is half as far. -/
def ofBinary (mantissa : Nat) (exponent : Int) : RoundingInterval :=
  let narrow := mantissa = Nat.pow 2 52 ∧ exponent ≠ Binary64.leastExponent
  let low := if narrow then 4 * mantissa - 1 else 4 * mantissa - 2
  let closed := mantissa % 2 == 0
  let e := exponent - 2
  if 0 ≤ e then
    let s := Nat.pow 2 e.toNat
    ⟨low * s, 4 * mantissa * s, (4 * mantissa + 2) * s, 1, closed⟩
  else ⟨low, 4 * mantissa, 4 * mantissa + 2, Nat.pow 2 (-e).toNat, closed⟩

/-- The point `n / d` of a grid, in the interval's unit, rounds to the double. -/
def admits (r : RoundingInterval) (n d : Nat) : Bool :=
  if r.closed then r.low * d ≤ n * r.unit && n * r.unit ≤ r.high * d
  else r.low * d < n * r.unit && n * r.unit < r.high * d

/-- The nearest point of the grid `10 ^ k` that rounds to the double, as a multiple of the grid. -/
def gridPoint? (r : RoundingInterval) (k : Int) : Option Nat :=
  let up := Nat.pow 10 k.toNat
  let down := Nat.pow 10 (-k).toNat
  let below := r.value * down / (r.unit * up)
  let above := below + 1
  let okBelow := r.admits (below * up) down
  let okAbove := r.admits (above * up) down
  let toBelow := r.value * down - below * up * r.unit
  let toAbove := above * up * r.unit - r.value * down
  if okBelow && okAbove then
    some (if toBelow < toAbove then below
      else if toAbove < toBelow then above
      else if below % 2 = 0 then below else above)
  else if okBelow then some below
  else if okAbove then some above
  else none

/-- The first of `steps` grids, starting with `10 ^ k`, that has a point which rounds to the
double. -/
def search (r : RoundingInterval) : (steps : Nat) → (k : Int) → Option (Nat × Int)
  | 0, _ => none
  | steps + 1, k =>
    match r.gridPoint? k with
    | some n => if n = 0 then r.search steps (k - 1) else some (n, k)
    | none => r.search steps (k - 1)

end RoundingInterval

/-- Trailing zeros of the coefficient, moved into the exponent. -/
def stripZeros : (steps : Nat) → Nat → Int → Nat × Int
  | 0, n, k => (n, k)
  | steps + 1, n, k => if n % 10 = 0 && n != 0 then stripZeros steps (n / 10) (k + 1) else (n, k)

/-- The decimal with the fewest digits that rounds to `mantissa * 2 ^ exponent`, as a coefficient
and a power of ten. -/
def shortest (mantissa : Nat) (exponent : Int) : Nat × Int :=
  let r := RoundingInterval.ofBinary mantissa exponent
  let top : Int := ((Nat.log2 (mantissa + 1) : Int) + exponent) * 301 / 1000 + 2
  match r.search 24 top with
  | some (n, k) => stripZeros 20 n k
  | none => (0, 0)

/-- `n * 10 ^ k`, written positionally. -/
def positional (n : Nat) (k : Int) : List Char :=
  let ds := Text.digits n
  if 0 ≤ k then ds ++ List.replicate k.toNat '0'
  else
    let places := (-k).toNat
    let ds := List.replicate (places + 1 - ds.length) '0' ++ ds
    ds.take (ds.length - places) ++ '.' :: ds.drop (ds.length - places)

/-- The text of a double: the shortest decimal that reads back, written positionally. -/
def Binary64.text : Binary64 → String
  | .undefined => "NaN"
  | .infinite negative => if negative then "-inf" else "inf"
  | .finite negative m e =>
    let sign := if negative then ['-'] else []
    let body := if m = 0 then ['0'] else let (n, k) := shortest m e; positional n k
    String.ofList (sign ++ body)

end GuildRelay
