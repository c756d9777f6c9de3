import GuildRelay.Time.Date
import GuildRelay.Text.Blank
import GuildRelay.Text.Decimal
import GuildRelay.Document.Decode
/-!
# Timestamps

Moments in universal time with nanoseconds. A leap second is the second 59 with a billion
nanoseconds or more, as it may follow any minute.

`Timestamp.render` writes RFC 3339 with as many fraction digits as are needed, in groups of three.
`Timestamp.parse?` reads a wider form: blanks may stand between the parts, a blank may stand for the
`T`, numbers may be short, digits of the fraction after the ninth are dropped, and the offset may
leave out its colon or be the word `UTC`.
-/

namespace GuildRelay

/-- A moment of universal time. -/
structure Timestamp where
  date : Date
  hour : Nat
  minute : Nat
  second : Nat
  nano : Nat
  hour_lt : hour < 24
  minute_lt : minute < 60
  second_lt : second < 60
  nano_lt : nano < 2000000000
  leap : nano < 1000000000 ∨ second = 59
deriving DecidableEq

namespace Timestamp

open Text

/-! ## Writing -/

/-- A year of four digits; years outside 0 to 9999 have a sign. -/
def renderYear (year : Int) : List Char :=
  if 0 ≤ year && year ≤ 9999 then padded 4 year.natAbs
  else (if year < 0 then '-' else '+') :: padded 4 year.natAbs

/-- The fraction of a second: none, three, six or nine digits. -/
def renderFraction (nano : Nat) : List Char :=
  if nano = 0 then []
  else if nano % 1000000 = 0 then '.' :: padded 3 (nano / 1000000)
  else if nano % 1000 = 0 then '.' :: padded 6 (nano / 1000)
  else '.' :: padded 9 nano

/-- The text of a moment up to the offset. -/
def renderLocal (t : Timestamp) : List Char :=
  let extra := t.nano / 1000000000
  renderYear t.date.year ++ '-' :: padded 2 t.date.month ++ '-' :: padded 2 t.date.day ++
    'T' :: padded 2 t.hour ++ ':' :: padded 2 t.minute ++ ':' :: padded 2 (t.second + extra) ++
    renderFraction (t.nano % 1000000000)

/-- The text of a moment, with `Z` for universal time. -/
def render (t : Timestamp) : String :=
  String.ofList (t.renderLocal ++ ['Z'])

/-- The text of a moment with the offset in digits. -/
def renderOffset (t : Timestamp) : String :=
  String.ofList (t.renderLocal ++ "+00:00".toList)

/-! ## Reading -/

/-- A number of one to `width` digits, with the rest. -/
def readNumber (width : Nat) (cs : List Char) : Option (Nat × List Char) :=
  let ds := (cs.take width).takeWhile isDigit
  if ds.isEmpty then none else some (natOf ds, cs.drop ds.length)

/-- A year: with a sign it may have any number of digits, without one at most four. -/
def readYear (cs : List Char) : Option (Int × List Char) :=
  match cs with
  | '-' :: rest => (readNumber rest.length rest).map fun (n, rest) => (-n, rest)
  | '+' :: rest => (readNumber rest.length rest).map fun (n, rest) => (n, rest)
  | cs => (readNumber 4 cs).map fun (n, rest) => (n, rest)

/-- The text after a character that may have blanks in front. -/
def after? (c : Char) (cs : List Char) : Option (List Char) :=
  match trimStart cs with
  | d :: rest => if d = c then some rest else none
  | [] => none

/-- The nanoseconds of a fraction, if a point follows. -/
def readFraction (cs : List Char) : Option (Nat × List Char) :=
  match cs with
  | '.' :: rest =>
    let ds := (rest.take 9).takeWhile isDigit
    if ds.isEmpty then none
    else some (natOf ds * Nat.pow 10 (9 - ds.length), rest.dropWhile isDigit)
  | cs => some (0, cs)

/-- Two digits. -/
def readPair : List Char → Option (Nat × List Char)
  | a :: b :: rest => if isDigit a && isDigit b then some (natOf [a, b], rest) else none
  | _ => none

/-- Hours and minutes of an offset, after its sign, as minutes. -/
def readOffsetMinutes (cs : List Char) : Option (Nat × List Char) :=
  match readPair cs with
  | none => none
  | some (hours, rest) =>
    match readPair (rest.dropWhile fun c => c == ':' || isBlank c) with
    | none => none
    | some (minutes, rest) => if minutes < 60 then some (hours * 60 + minutes, rest) else none

/-- An offset from universal time in minutes: `Z`, `UTC`, or hours and minutes with a sign. -/
def readOffset (cs : List Char) : Option (Int × List Char) :=
  match cs with
  | [] => none
  | c :: rest =>
    if (cs.take 3).map Char.toUpper = ['U', 'T', 'C'] then some (0, cs.drop 3)
    else if c = 'Z' || c = 'z' then some (0, rest)
    else if c = '+' then (readOffsetMinutes rest).map fun (n, rest) => (n, rest)
    else if c = '-' || c = '\u2212' then (readOffsetMinutes rest).map fun (n, rest) => (-n, rest)
    else none

/-- A date, with the rest. -/
def readDate (cs : List Char) : Option (Date × List Char) := do
  let (year, cs) ← readYear (trimStart cs)
  let cs ← after? '-' cs
  let (month, cs) ← readNumber 2 (trimStart cs)
  let cs ← after? '-' cs
  let (day, cs) ← readNumber 2 (trimStart cs)
  let date ← Date.ofParts? year month day
  return (date, cs)

/-- Hour, minute, second and nanoseconds, with the rest. -/
def readClock (cs : List Char) : Option ((Nat × Nat × Nat × Nat) × List Char) := do
  let (hour, cs) ← readNumber 2 (trimStart cs)
  let cs ← after? ':' cs
  let (minute, cs) ← readNumber 2 (trimStart cs)
  let cs ← after? ':' cs
  let (second, cs) ← readNumber 2 (trimStart cs)
  let (nano, cs) ← readFraction cs
  return ((hour, minute, second, nano), cs)

/-- The moment at a date and a minute of that day, which may lie in the day before or after. -/
def ofMinute? (date : Date) (minuteOfDay : Int) (second nano : Nat) : Option Timestamp := do
  let (date, minute) ←
    if minuteOfDay < 0 then (date.previous?).map fun d => (d, minuteOfDay + 1440)
    else if 1440 ≤ minuteOfDay then (date.next?).map fun d => (d, minuteOfDay - 1440)
    else some (date, minuteOfDay)
  let minute := minute.toNat
  if h : minute / 60 < 24 ∧ second < 60 ∧ nano < 2000000000 ∧ (nano < 1000000000 ∨ second = 59) then
    some ⟨date, minute / 60, minute % 60, second, nano, h.1, Nat.mod_lt _ (by decide), h.2.1,
      h.2.2.1, h.2.2.2⟩
  else none

/-- The moment that a text names. -/
def parse? (s : String) : Option Timestamp := do
  let (date, cs) ← readDate s.toList
  let cs ← match cs with
    | c :: rest => if c = 'T' || c = 't' || c = ' ' then some rest else none
    | [] => none
  let ((hour, minute, second, nano), cs) ← readClock cs
  if 24 ≤ hour || 60 ≤ minute || 60 < second then none
  else
    let (offset, cs) ← readOffset (trimStart cs)
    if 1440 ≤ offset.natAbs || !(trimStart cs).isEmpty then none
    else
      let (second, nano) := if second = 60 then (59, nano + 1000000000) else (second, nano)
      ofMinute? date (60 * hour + minute - offset) second nano

end Timestamp

instance : Decode Timestamp where
  decode _
    | .text (some s) => Timestamp.parse? s
    | _ => none

instance : Encode Timestamp where
  encode t := .text (some t.render)

instance : NeverNull Timestamp where
  encode_ne_null _ := by simp [encode]

end GuildRelay
