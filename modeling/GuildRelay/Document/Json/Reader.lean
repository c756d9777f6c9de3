import GuildRelay.Document.Basic
import GuildRelay.Text.Decimal
import GuildRelay.Text.CodeRange
import GuildRelay.Text.Lead
/-!
# Reading JSON

`Document.ofJson?` reads one JSON value with nothing but blanks around it. It checks the grammar
only: a text whose escapes name a lone surrogate, or a number that no double can hold, is kept as it
is, for whoever reads the value to refuse. The readers take the text that is left and return what
they found with the text after it; the fuel is at least the length of the text.
-/

namespace GuildRelay.Json

/-- The blanks of JSON. -/
def isSpace (c : Char) : Bool :=
  c == ' ' || c == '\n' || c == '\t' || c == '\r'

/-- The text without its leading blanks. -/
def skipSpace : List Char → List Char
  | [] => []
  | c :: rest => if isSpace c then skipSpace rest else c :: rest

/-! ## Texts -/

/-- What stands in a text: a character, or a code unit written with four digits. -/
inductive Piece where
  | char (c : Char)
  | unit (n : Nat)
deriving Repr, DecidableEq

/-- The character of an escape with one letter. -/
def shortEscape? (c : Char) : Option Char :=
  if c = '"' then some '"'
  else if c = '\\' then some '\\'
  else if c = '/' then some '/'
  else if c = 'b' then some '\x08'
  else if c = 'f' then some '\x0c'
  else if c = 'n' then some '\n'
  else if c = 'r' then some '\r'
  else if c = 't' then some '\t'
  else none

/-- The value of four hexadecimal digits. -/
def fourDigits? (a b c d : Char) : Option Nat :=
  match Text.hexValue? a, Text.hexValue? b, Text.hexValue? c, Text.hexValue? d with
  | some a, some b, some c, some d => some (((a * 16 + b) * 16 + c) * 16 + d)
  | _, _, _, _ => none

/-- Puts a piece in front of a text that was read. -/
def consPiece (p : Piece) : Option (List Piece × List Char) → Option (List Piece × List Char)
  | some (ps, rest) => some (p :: ps, rest)
  | none => none

/-- The pieces up to the closing quote. Control characters must be escaped. -/
def readPieces : List Char → Option (List Piece × List Char)
  | [] => none
  | c :: rest =>
    if c = '"' then some ([], rest)
    else if c = '\\' then
      match rest with
      | 'u' :: a :: b :: c :: d :: rest =>
        match fourDigits? a b c d with
        | some n => consPiece (.unit n) (readPieces rest)
        | none => none
      | e :: rest =>
        match shortEscape? e with
        | some c => consPiece (.char c) (readPieces rest)
        | none => none
      | [] => none
    else if c.toNat < 0x20 then none
    else consPiece (.char c) (readPieces rest)

/-- The code unit starts a pair. -/
def isLead (n : Nat) : Bool :=
  0xD800 ≤ n && n < 0xDC00

/-- The code unit ends a pair. -/
def isTrail (n : Nat) : Bool :=
  0xDC00 ≤ n && n < 0xE000

/-- The characters that the pieces name, if every surrogate has its partner right beside it. -/
def assemble : List Piece → Option (List Char)
  | [] => some []
  | .char c :: rest => (assemble rest).map (c :: ·)
  | .unit n :: rest =>
    if isLead n then
      match rest with
      | .unit m :: rest =>
        if isTrail m then
          (assemble rest).map (Char.ofNat (0x10000 + (n - 0xD800) * 0x400 + (m - 0xDC00)) :: ·)
        else none
      | _ => none
    else if isTrail n then none
    else (assemble rest).map (Char.ofNat n :: ·)

/-- A text after its opening quote. -/
def readText (cs : List Char) : Option (Option String × List Char) :=
  match readPieces cs with
  | some (ps, rest) => some ((assemble ps).map String.ofList, rest)
  | none => none

/-! ## Numbers -/

/-- The digits at the start of a text, with the rest. -/
def readDigits (cs : List Char) : List Char × List Char :=
  (cs.takeWhile Text.isDigit, cs.dropWhile Text.isDigit)

/-- The fraction after a number's point, if there is one; a point needs a digit. -/
def readFraction : List Char → Option (List Char × List Char)
  | '.' :: rest =>
    match readDigits rest with
    | ([], _) => none
    | (ds, rest) => some (ds, rest)
  | cs => some ([], cs)

/-- The exponent of a number, if there is one; an exponent needs a digit. -/
def readExponent : List Char → Option (Option Int × List Char)
  | [] => some (none, [])
  | e :: rest =>
    if e = 'e' || e = 'E' then
      let (negative, rest) := match rest with
        | '-' :: rest => (true, rest)
        | '+' :: rest => (false, rest)
        | rest => (false, rest)
      match readDigits rest with
      | ([], _) => none
      | (ds, rest) =>
        let n : Int := Text.natOf ds
        some (some (if negative then -n else n), rest)
    else some (none, e :: rest)

/-- What a number's digits mean. Without fraction and exponent it is an integer if it fits 64 bits
and is not minus zero. -/
def number (negative : Bool) (whole fraction : List Char) (exponent : Option Int) : Document :=
  let n := Text.natOf whole
  let i : Int := if negative then -n else n
  if fraction.isEmpty && exponent.isNone && Document.holdsInteger i && !(negative && n == 0) then
    .integer i
  else
    .real (.finite ⟨negative, Text.natOf (whole ++ fraction), exponent.getD 0 - fraction.length⟩)

/-- A number. Its integer part has no leading zeros. -/
def readNumber (cs : List Char) : Option (Document × List Char) :=
  let (negative, cs) := match cs with
    | '-' :: rest => (true, rest)
    | cs => (false, cs)
  let (whole, rest) := match cs with
    | '0' :: rest => (['0'], rest)
    | cs => readDigits cs
  if whole.isEmpty then none
  else
    match readFraction rest with
    | none => none
    | some (fraction, rest) =>
      match readExponent rest with
      | none => none
      | some (exponent, rest) => some (number negative whole fraction exponent, rest)

/-! ## Values -/

/-- One of the three literal words. -/
def readWord (cs : List Char) : Option (Document × List Char) :=
  match Text.dropLead? "null".toList cs with
  | some rest => some (.null, rest)
  | none =>
    match Text.dropLead? "true".toList cs with
    | some rest => some (.bool true, rest)
    | none =>
      match Text.dropLead? "false".toList cs with
      | some rest => some (.bool false, rest)
      | none => none

mutual

/-- A value after any blanks. -/
def readValue : (fuel : Nat) → List Char → Option (Document × List Char)
  | 0, _ => none
  | fuel + 1, cs =>
    match skipSpace cs with
    | [] => none
    | c :: rest =>
      if c = '"' then
        match readText rest with
        | some (s, rest) => some (.text s, rest)
        | none => none
      else if c = '[' then
        match skipSpace rest with
        | ']' :: rest => some (.list [], rest)
        | rest =>
          match readItems fuel rest with
          | some (items, rest) => some (.list items, rest)
          | none => none
      else if c = '{' then
        match skipSpace rest with
        | '}' :: rest => some (.table [], rest)
        | rest =>
          match readMembers fuel rest with
          | some (members, rest) => some (.table members, rest)
          | none => none
      else if c = '-' || Text.isDigit c then readNumber (c :: rest)
      else readWord (c :: rest)

/-- The items of a list, up to and with the closing bracket. -/
def readItems : (fuel : Nat) → List Char → Option (List Document × List Char)
  | 0, _ => none
  | fuel + 1, cs =>
    match readValue fuel cs with
    | none => none
    | some (d, rest) =>
      match skipSpace rest with
      | ']' :: rest => some ([d], rest)
      | ',' :: rest =>
        match readItems fuel rest with
        | some (items, rest) => some (d :: items, rest)
        | none => none
      | _ => none

/-- The members of a table, up to and with the closing brace. -/
def readMembers :
    (fuel : Nat) → List Char → Option (List (Option String × Document) × List Char)
  | 0, _ => none
  | fuel + 1, cs =>
    match skipSpace cs with
    | '"' :: rest =>
      match readText rest with
      | none => none
      | some (key, rest) =>
        match skipSpace rest with
        | ':' :: rest =>
          match readValue fuel rest with
          | none => none
          | some (d, rest) =>
            match skipSpace rest with
            | '}' :: rest => some ([(key, d)], rest)
            | ',' :: rest =>
              match readMembers fuel rest with
              | some (members, rest) => some ((key, d) :: members, rest)
              | none => none
            | _ => none
        | _ => none
    | _ => none

end

end GuildRelay.Json

/-- The document that a JSON text writes. -/
def GuildRelay.Document.ofJson? (s : String) : Option Document :=
  let cs := s.toList
  match Json.readValue (2 * cs.length + 2) cs with
  | some (d, rest) => if (Json.skipSpace rest).isEmpty then some d else none
  | none => none
