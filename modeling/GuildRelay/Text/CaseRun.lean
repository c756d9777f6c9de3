/-!
# Runs of case mappings

A case mapping of single characters moves long runs of code points by one distance, each code point
or every second one. `CaseRun.image?` maps a code point that a run holds, and `CaseRun.source?`
finds the code point that a run sends to a given one.
-/

namespace GuildRelay.Text

/-- Every `step`-th code point from `first` to `last` moves by `shift`. -/
structure CaseRun where
  first : Nat
  last : Nat
  step : Nat
  shift : Int
deriving Repr, DecidableEq

namespace CaseRun

/-- The run moves this code point. -/
def holds (r : CaseRun) (n : Nat) : Bool :=
  r.first ≤ n && n ≤ r.last && (n - r.first) % r.step == 0

/-- Where the run sends a code point that it holds. -/
def image? (r : CaseRun) (n : Nat) : Option Nat :=
  if r.holds n then some (Int.toNat (n + r.shift)) else none

/-- The code point that the run sends to `m`, if there is one. -/
def source? (r : CaseRun) (m : Nat) : Option Nat :=
  let n := Int.toNat (m - r.shift)
  if r.image? n = some m then some n else none

end CaseRun

/-- The image of a code point under a table of runs; code points outside all runs stay. -/
def caseImage (runs : List CaseRun) (n : Nat) : Nat :=
  (runs.findSome? fun r => r.image? n).getD n

/-- The code points other than `m` itself that a table of runs sends to `m`. -/
def caseSources (runs : List CaseRun) (m : Nat) : List Nat :=
  runs.filterMap fun r => r.source? m

end GuildRelay.Text
