import GuildRelay.Document.Basic
import GuildRelay.Number.Binary64
import GuildRelay.Text.CodeRange
import GuildRelay.Text.Decimal
import GuildRelay.Text.Lead
/-!
# Values of TOML

The readers for keys, texts, numbers, dates, lists and inline tables. They take the text that is
left and return what they found with the text after it. A date is a record that no other record is
read from. `Entries.insert?` says when a key of an inline table can be set: once, and under a dotted
key only within tables that dotted keys made.
-/

namespace GuildRelay.Toml

open Text

/-- Reads a part of a text, if it can be read. -/
abbrev Scan := StateT (List Char) Option

/-- The next character, if there is one. -/
def peek : Scan (Option Char) := do
  return (← get).head?

/-- Goes on by one character. -/
def advance : Scan Unit :=
  modify List.tail

/-- Goes on over a text, if it is next. -/
def accept (lead : String) : Scan Bool := do
  match dropLead? lead.toList (← get) with
  | some rest => set rest; return true
  | none => return false

/-- A text that has to be next. -/
def expect (lead : String) : Scan Unit := do
  if ← accept lead then return
  failure

/-- Some condition has to be true. -/
def require (condition : Bool) : Scan Unit :=
  if condition then pure () else failure

/-- The characters at the front for which a test is true. -/
def takeAll (test : Char → Bool) : Scan (List Char) := do
  let cs ← get
  set (cs.dropWhile test)
  return cs.takeWhile test

/-! ## Blanks, comments and lines -/

/-- Blanks within a line. -/
def isSpace (c : Char) : Bool :=
  c == ' ' || c == '\t'

/-- What may stand in comments and, with exceptions, in texts. -/
def isPlain (c : Char) : Bool :=
  c == '\t' || (0x20 ≤ c.toNat && c.toNat ≤ 0x7E) || 0x80 ≤ c.toNat

/-- Goes on over blanks. -/
def skipSpace : Scan Unit := do
  let _ ← takeAll isSpace

/-- A line break, if one is next. -/
def acceptBreak : Scan Bool := do
  if ← accept "\n" then return true
  accept "\r\n"

/-- The text after blanks, comments and line breaks, if all comments end in a line break. -/
def dropGaps (inComment : Bool) : List Char → Option (List Char)
  | [] => if inComment then none else some []
  | '\r' :: '\n' :: rest => dropGaps false rest
  | c :: rest =>
    if c = '\n' then dropGaps false rest
    else if inComment then if isPlain c then dropGaps true rest else none
    else if isSpace c then dropGaps false rest
    else if c = '#' then dropGaps true rest
    else if c = '\r' then none
    else some (c :: rest)

/-- Goes on over blanks, comments and line breaks. -/
def skipGaps : Scan Unit := do
  match dropGaps false (← get) with
  | some rest => set rest
  | none => failure

/-- The end of a line: blanks, perhaps a comment, and then a line break or the end of the text. -/
def lineEnd : Scan Unit := do
  skipSpace
  if ← accept "#" then
    let _ ← takeAll isPlain
  if (← peek).isNone then return
  require (← acceptBreak)

/-! ## Texts -/

/-- What a backslash and one character stand for. -/
def shortEscape? : Char → Option Char
  | 'b' => some '\x08'
  | 't' => some '\t'
  | 'n' => some '\n'
  | 'f' => some '\x0c'
  | 'r' => some '\r'
  | '"' => some '"'
  | '\\' => some '\\'
  | _ => none

/-- A character written with some hexadecimal digits. -/
def readCode (count : Nat) : Scan Char := do
  let ds := (← get).take count
  require (ds.length == count)
  modify (List.drop count)
  match ds.foldlM (fun n c => (hexValue? c).map (16 * n + ·)) 0 with
  | some n =>
    require (decide n.isValidChar)
    return Char.ofNat n
  | none => failure

/-- The character of an escape, after its backslash. -/
def readEscape : Scan Char := do
  match ← peek with
  | some 'u' => advance; readCode 4
  | some 'U' => advance; readCode 8
  | some c =>
    advance
    match shortEscape? c with
    | some d => return d
    | none => failure
  | none => failure

/-- The rest of a text in double quotes. -/
def readQuoted : Nat → Scan (List Char)
  | 0 => failure
  | n + 1 => do
    match ← peek with
    | some '"' => advance; return []
    | some '\\' =>
      advance
      let c ← readEscape
      return c :: (← readQuoted n)
    | some c =>
      require (isPlain c)
      advance
      return c :: (← readQuoted n)
    | none => failure

/-- The quotes at the end of a text of several lines: one or two of them may be part of the text. -/
def closingQuotes? (quote : Char) (cs : List Char) : Option (List Char × List Char) :=
  let count := (cs.takeWhile (· == quote)).length
  if 3 ≤ count then
    let extra := min (count - 3) 2
    some (List.replicate extra quote, cs.drop (extra + 3))
  else none

/-- The text after all blanks and line breaks. -/
def dropBreaks : List Char → List Char
  | '\r' :: '\n' :: rest => dropBreaks rest
  | c :: rest => if isSpace c || c == '\n' then dropBreaks rest else c :: rest
  | [] => []

/-- The text after a backslash at the end of a line and all blanks and line breaks that follow. -/
def dropContinuation (cs : List Char) : Option (List Char) :=
  match cs.dropWhile isSpace with
  | '\n' :: rest => some (dropBreaks rest)
  | '\r' :: '\n' :: rest => some (dropBreaks rest)
  | _ => none

/-- The rest of a text of several lines in double quotes. -/
def readLongQuoted : Nat → Scan (List Char)
  | 0 => failure
  | n + 1 => do
    let cs ← get
    match closingQuotes? '"' cs with
    | some (extra, rest) => set rest; return extra
    | none =>
      match cs with
      | '\\' :: rest =>
        match dropContinuation rest with
        | some rest => set rest; readLongQuoted n
        | none =>
          advance
          let c ← readEscape
          return c :: (← readLongQuoted n)
      | '\r' :: '\n' :: rest => set rest; return '\n' :: (← readLongQuoted n)
      | c :: rest =>
        require (isPlain c || c == '\n')
        set rest
        return c :: (← readLongQuoted n)
      | [] => failure

/-- The rest of a text of several lines in single quotes. -/
def readLongLiteral : Nat → Scan (List Char)
  | 0 => failure
  | n + 1 => do
    let cs ← get
    match closingQuotes? '\'' cs with
    | some (extra, rest) => set rest; return extra
    | none =>
      match cs with
      | '\r' :: '\n' :: rest => set rest; return '\n' :: (← readLongLiteral n)
      | c :: rest =>
        require (isPlain c || c == '\n')
        set rest
        return c :: (← readLongLiteral n)
      | [] => failure

/-- A text in quotes of one line, after its opening quote. -/
def readShortText (quote : Char) : Scan String := do
  if quote = '"' then return String.ofList (← readQuoted ((← get).length + 1))
  let cs ← takeAll fun c => isPlain c && c != '\''
  expect "'"
  return String.ofList cs

/-- A text in quotes, with one of them next. -/
def readText : Scan String := do
  if ← accept "\"\"\"" then
    let _ ← acceptBreak
    return String.ofList (← readLongQuoted ((← get).length + 1))
  if ← accept "'''" then
    let _ ← acceptBreak
    return String.ofList (← readLongLiteral ((← get).length + 1))
  if ← accept "\"" then return ← readShortText '"'
  expect "'"
  readShortText '\''

/-! ## Keys -/

/-- What may stand in a key without quotes. -/
def isBare (c : Char) : Bool :=
  c.isAlphanum || c == '_' || c == '-'

/-- One part of a key. -/
def readKeyPart : Scan String := do
  match ← peek with
  | some '"' => advance; readShortText '"'
  | some '\'' => advance; readShortText '\''
  | _ =>
    let cs ← takeAll isBare
    require (!cs.isEmpty)
    return String.ofList cs

/-- The parts of a dotted key. -/
def readKeyParts : Nat → Scan (List String)
  | 0 => failure
  | n + 1 => do
    skipSpace
    let part ← readKeyPart
    skipSpace
    if ← accept "." then return part :: (← readKeyParts n)
    return [part]

/-- How deep keys and values may be nested. -/
def nestingLimit : Nat := 80

/-- A key: the names of the tables it goes through and its last name. -/
structure Path where
  through : List String
  last : String

/-- A key. -/
def readKey : Scan Path := do
  let parts ← readKeyParts nestingLimit
  match parts.reverse with
  | last :: before =>
    require (parts.length < nestingLimit)
    return ⟨before.reverse, last⟩
  | [] => failure

/-! ## Numbers and dates -/

/-- The rest of digits with single underscores between them; `wanted` says that a digit has to
come. -/
def digitsFrom (isDigit : Char → Bool) (wanted : Bool) : List Char → Option (List Char × List Char)
  | [] => if wanted then none else some ([], [])
  | c :: rest =>
    if isDigit c then (digitsFrom isDigit false rest).map fun (ds, rest) => (c :: ds, rest)
    else if wanted then none
    else if c = '_' then digitsFrom isDigit true rest
    else some ([], c :: rest)

/-- A sign, with the rest. -/
def readSign : List Char → Bool × List Char
  | '-' :: rest => (true, rest)
  | '+' :: rest => (false, rest)
  | cs => (false, cs)

/-- The digits of a decimal integer; a leading zero stands alone. -/
def readWhole (cs : List Char) : Option (List Char × List Char) :=
  match cs with
  | '0' :: rest => some (['0'], rest)
  | cs => digitsFrom isDigit true cs

/-- An integer of 64 bits. -/
def integer? (i : Int) : Option Document :=
  if -9223372036854775808 ≤ i && i < 9223372036854775808 then some (.integer i) else none

/-- The value of digits in a base. -/
def valueIn (base : Nat) (ds : List Char) : Nat :=
  ds.foldl (fun n c => base * n + (hexValue? c).getD 0) 0

/-- An integer in another base, after its mark. -/
def readInBase (base : Nat) (cs : List Char) : Option (Document × List Char) := do
  let isDigit := fun c => (hexValue? c).any (· < base)
  let (ds, rest) ← digitsFrom isDigit true cs
  return (← integer? (valueIn base ds), rest)

/-- The fraction of a number, with the rest; none if no point follows. -/
def readFraction (cs : List Char) : Option (Option (List Char) × List Char) :=
  match cs with
  | '.' :: rest => (digitsFrom isDigit true rest).map fun (ds, rest) => (some ds, rest)
  | cs => some (none, cs)

/-- The exponent of a number, with the rest; none if no mark follows. -/
def readExponent (cs : List Char) : Option (Option Int × List Char) :=
  match cs with
  | c :: rest =>
    if c = 'e' || c = 'E' then
      let (negative, rest) := readSign rest
      (digitsFrom isDigit true rest).map fun (ds, rest) =>
        (some (if negative then -(natOf ds : Int) else natOf ds), rest)
    else some (none, cs)
  | [] => some (none, cs)

/-- A number that is no integer. Too large a one is refused unless it is negative. -/
def real? (negative : Bool) (whole fraction : List Char) (exponent : Int) : Option Document :=
  let d : Decimal := ⟨negative, natOf (whole ++ fraction), exponent - fraction.length⟩
  if negative || (Binary64.ofDecimal d).isFinite then some (.real (.finite d)) else none

/-- A number in decimal digits. -/
def readDecimal (cs : List Char) : Option (Document × List Char) := do
  let (negative, cs) := readSign cs
  match dropLead? ['i', 'n', 'f'] cs with
  | some rest => return (.real (.infinite negative), rest)
  | none =>
    match dropLead? ['n', 'a', 'n'] cs with
    | some rest => return (.real .undefined, rest)
    | none =>
      let (whole, rest) ← readWhole cs
      let (fraction, rest) ← readFraction rest
      let (exponent, rest) ← readExponent rest
      if fraction.isNone && exponent.isNone then
        let n : Int := natOf whole
        return (← integer? (if negative then -n else n), rest)
      else return (← real? negative whole (fraction.getD []) (exponent.getD 0), rest)

/-- A number. -/
def readNumber (cs : List Char) : Option (Document × List Char) :=
  match cs with
  | '0' :: 'x' :: rest => readInBase 16 rest
  | '0' :: 'o' :: rest => readInBase 8 rest
  | '0' :: 'b' :: rest => readInBase 2 rest
  | cs => readDecimal cs

/-- A number of some digits within bounds, with the rest. -/
def readField (width low high : Nat) (cs : List Char) : Option (Nat × List Char) :=
  let ds := (cs.take width).takeWhile isDigit
  if ds.length = width && low ≤ natOf ds && natOf ds ≤ high then some (natOf ds, cs.drop width)
  else none

/-- The days of a month. -/
def daysIn (year month : Nat) : Nat :=
  if month = 2 then
    if year % 4 = 0 && (year % 100 != 0 || year % 400 = 0) then 29 else 28
  else if month = 4 || month = 6 || month = 9 || month = 11 then 30
  else 31

/-- The text after a date. -/
def afterDate? (cs : List Char) : Option (List Char) := do
  let (year, cs) ← readField 4 0 9999 cs
  let cs ← dropLead? ['-'] cs
  let (month, cs) ← readField 2 1 12 cs
  let cs ← dropLead? ['-'] cs
  let (_, cs) ← readField 2 1 (daysIn year month) cs
  return cs

/-- The text after a time of day. -/
def afterTime? (cs : List Char) : Option (List Char) := do
  let (_, cs) ← readField 2 0 23 cs
  let cs ← dropLead? [':'] cs
  let (_, cs) ← readField 2 0 59 cs
  let cs ← dropLead? [':'] cs
  let (_, cs) ← readField 2 0 60 cs
  match cs with
  | '.' :: rest => if rest.head?.any isDigit then some (rest.dropWhile isDigit) else none
  | cs => some cs

/-- The text after an offset, if there is one. -/
def afterOffset? (cs : List Char) : Option (List Char) :=
  match cs with
  | 'Z' :: rest => some rest
  | 'z' :: rest => some rest
  | c :: rest =>
    if c = '+' || c = '-' then do
      let (_, rest) ← readField 2 0 23 rest
      let rest ← dropLead? [':'] rest
      let (_, rest) ← readField 2 0 59 rest
      return rest
    else some cs
  | [] => some []

/-- The text after a date, a time or both. -/
def afterMoment? (cs : List Char) : Option (List Char) :=
  match afterDate? cs with
  | some rest =>
    match rest with
    | c :: after =>
      if c = 'T' || c = 't' || c = ' ' then
        match afterTime? after with
        | some rest => afterOffset? rest
        | none => some rest
      else some rest
    | [] => some []
  | none => afterTime? cs

/-- The document of a date or time. -/
def moment (written : List Char) : Document :=
  .ofMembers [("$moment", .ofText (String.ofList written))]

/-- A number, a date or a time. -/
def readQuantity : Scan Document := do
  let cs ← get
  match afterMoment? cs with
  | some rest =>
    set rest
    return moment (cs.take (cs.length - rest.length))
  | none =>
    match readNumber cs with
    | some (d, rest) => set rest; return d
    | none => failure

/-! ## Lists and inline tables -/

/-- A value, with the entries of inline tables still apart, the last first. -/
inductive Entry where
  | value (d : Document)
  /-- A table; dotted keys may extend those that dotted keys made. -/
  | table (dotted : Bool) (entries : List (String × Entry))

/-- The entries of an inline table, the last first. -/
abbrev Entries := List (String × Entry)

/-- Puts a value under a key, if the name is free in the table that it belongs to. `extensible`
says whether that table may get more entries. -/
def Entries.insert? (extensible : Bool) (entries : Entries) :
    (through : List String) → (last : String) → Entry → Option Entries
  | [], last, e =>
    if !extensible || (entries.lookup last).isSome then none else some ((last, e) :: entries)
  | name :: rest, last, e =>
    match entries.lookup name with
    | none =>
      (Entries.insert? true [] rest last e).map fun inner => (name, .table true inner) :: entries
    | some (.table dotted inner) =>
      (Entries.insert? dotted inner rest last e).map fun inner =>
        entries.map fun old => if old.1 = name then (name, .table dotted inner) else old
    | some (.value _) => none

mutual

/-- The document of an entry. -/
def Entry.document : Entry → Document
  | .value d => d
  | .table _ entries => .table (membersOf entries)

/-- The members of a table. -/
def membersOf : List (String × Entry) → List (Option String × Document)
  | [] => []
  | (name, e) :: rest => (some name, e.document) :: membersOf rest

end

/-- The word that stands for a value, if it is next. -/
def readWord : Scan Document := do
  if ← accept "true" then return .bool true
  if ← accept "false" then return .bool false
  if ← accept "inf" then return .real (.infinite false)
  expect "nan"
  return .real .undefined

mutual

/-- A value within `depth` lists and inline tables. -/
def readValue : (fuel depth : Nat) → Scan Entry
  | 0, _ => failure
  | n + 1, depth => do
    match ← peek with
    | some '"' => return .value (.ofText (← readText))
    | some '\'' => return .value (.ofText (← readText))
    | some '[' =>
      advance
      require (depth + 1 < nestingLimit)
      skipGaps
      return .value (.list (← readItems n (depth + 1)))
    | some '\x7b' =>
      advance
      require (depth + 1 < nestingLimit)
      skipSpace
      if ← accept "\x7d" then return .table false []
      return .table false (← readPairs n (depth + 1) [])
    | some c =>
      if isDigit c || c = '+' || c = '-' then return .value (← readQuantity)
      return .value (← readWord)
    | none => failure

/-- The items of a list up to its end. -/
def readItems : (fuel depth : Nat) → Scan (List Document)
  | 0, _ => failure
  | n + 1, depth => do
    if ← accept "]" then return []
    let e ← readValue n depth
    skipGaps
    if ← accept "," then
      skipGaps
      return e.document :: (← readItems n depth)
    expect "]"
    return [e.document]

/-- The pairs of an inline table up to its end. -/
def readPairs : (fuel depth : Nat) → Entries → Scan Entries
  | 0, _, _ => failure
  | n + 1, depth, entries => do
    let key ← readKey
    expect "="
    skipSpace
    let e ← readValue n depth
    skipSpace
    match entries.insert? true key.through key.last e with
    | none => failure
    | some entries =>
      if ← accept "," then readPairs n depth entries
      else
        expect "\x7d"
        return entries

end

end GuildRelay.Toml
