import GuildRelay.Redis.Value
/-!
# Redis replies on the wire

A reply starts with a mark for its kind. Short ones end with their line, texts of a given length
with the end of a line behind them, and lists and maps tell how many values or pairs follow. What is
told about a value before it is left out.
-/

namespace GuildRelay.RedisValue

/-- The bytes of a line and what follows its end. -/
def takeLine? : List UInt8 → Option (List UInt8 × List UInt8)
  | 13 :: 10 :: rest => some ([], rest)
  | b :: rest => (takeLine? rest).map fun (line, rest) => (b :: line, rest)
  | [] => none

/-- The text of a line and what follows its end. -/
def takeText? (bytes : List UInt8) : Option (String × List UInt8) := do
  let (line, rest) ← takeLine? bytes
  return (← utf8? line, rest)

/-- The number of 64 bits on a line and what follows its end. -/
def takeInteger? (bytes : List UInt8) : Option (Int × List UInt8) := do
  let (text, rest) ← takeText? bytes
  let n ← integerOf? (Text.trimText text)
  if -9223372036854775808 ≤ n ∧ n < 9223372036854775808 then some (n, rest) else none

/-- A number of bytes, with the end of a line behind them, and what follows. -/
def takeBulk? (size : Nat) (bytes : List UInt8) : Option (List UInt8 × List UInt8) :=
  if bytes.length < size then none
  else
    match bytes.drop size with
    | 13 :: 10 :: rest => some (bytes.take size, rest)
    | _ => none

/-- The text of a number of bytes, with the end of a line behind them, and what follows. -/
def takeBulkText? (bytes : List UInt8) : Option (String × List UInt8) := do
  let (size, rest) ← takeInteger? bytes
  if size < 0 then none
  let (content, rest) ← takeBulk? size.toNat rest
  return (← utf8? content, rest)

/-- The text behind the name of its format, which has three characters and a colon. -/
def afterFormat? (text : String) : Option String :=
  match text.toList with
  | _ :: _ :: _ :: ':' :: rest => some (String.ofList rest)
  | _ => none

/-- Values two by two. -/
def paired : List RedisValue → List RedisValue
  | key :: v :: rest => array [key, v] :: paired rest
  | _ => []

/-- A number of values one after the other, and what follows. -/
def takeMany? (take : List UInt8 → Option (RedisValue × List UInt8)) :
    (count : Nat) → List UInt8 → Option (List RedisValue × List UInt8)
  | 0, bytes => some ([], bytes)
  | count + 1, bytes => do
    let (v, bytes) ← take bytes
    let (vs, bytes) ← takeMany? take count bytes
    return (v :: vs, bytes)

/-- The value that bytes start with, nested no deeper than a limit, and what follows. -/
def take? : (depth : Nat) → List UInt8 → Option (RedisValue × List UInt8)
  | 0, _ => none
  | _, [] => none
  | depth + 1, mark :: bytes =>
    match Char.ofNat mark.toNat with
    | '+' => do
      let (text, rest) ← takeText? bytes
      return (if text = "OK" then okay else simple text, rest)
    | '-' => do
      let (reason, rest) ← takeText? bytes
      return (error reason, rest)
    | ':' => do
      let (n, rest) ← takeInteger? bytes
      return (integer n, rest)
    | '$' => do
      let (size, rest) ← takeInteger? bytes
      if size < 0 then return (nil, rest)
      let (content, rest) ← takeBulk? size.toNat rest
      return (bulk content, rest)
    | '*' | '~' => do
      let (count, rest) ← takeInteger? bytes
      if count < 0 then return (nil, rest)
      let (items, rest) ← takeMany? (take? depth) count.toNat rest
      return (array items, rest)
    | '%' => do
      let (count, rest) ← takeInteger? bytes
      let (items, rest) ← takeMany? (take? depth) (2 * count.toNat) rest
      return (array (paired items), rest)
    | '|' => do
      let (count, rest) ← takeInteger? bytes
      let (_, rest) ← takeMany? (take? depth) (2 * count.toNat) rest
      take? depth rest
    | '=' => do
      let (text, rest) ← takeBulkText? bytes
      return (verbatim (← afterFormat? text), rest)
    | '!' => do
      let (reason, rest) ← takeBulkText? bytes
      return (error reason, rest)
    | ',' => do
      let (text, rest) ← takeText? bytes
      return (double (.ofReal (← realOf? (Text.trimText text))), rest)
    | '(' => do
      let (text, rest) ← takeText? bytes
      return (large (← integerOf? text), rest)
    | '_' => do
      let (_, rest) ← takeLine? bytes
      return (nil, rest)
    | '#' => do
      let (text, rest) ← takeText? bytes
      if text = "t" then return (boolean true, rest)
      else if text = "f" then return (boolean false, rest)
      else none
    | _ => none

/-- How deep values may be nested. -/
def nestingLimit : Nat := 100

/-- The value of a reply. -/
def ofWire? (bytes : List UInt8) : Option RedisValue :=
  (take? nestingLimit bytes).map (·.1)

end GuildRelay.RedisValue
