/-!
# Decimal numbers

Numbers as they are written in a document, before any rounding.
-/

namespace GuildRelay

/-- A decimal number: `coefficient * 10 ^ exponent`, with a sign of its own so that minus zero is
a number apart. -/
structure Decimal where
  negative : Bool
  coefficient : Nat
  exponent : Int
deriving Repr, DecidableEq

/-- A number that is not written as an integer of at most 64 bits. -/
inductive Real where
  | finite (d : Decimal)
  | infinite (negative : Bool)
  | undefined
deriving Repr, DecidableEq

end GuildRelay
