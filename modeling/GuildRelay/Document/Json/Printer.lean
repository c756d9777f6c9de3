import GuildRelay.Document.Basic
import GuildRelay.Text.Decimal
/-!
# Compact JSON

`Document.json` writes a document without any blanks. In a text only the quote, the backslash and
the control characters are escaped; the control characters that have a short escape use it, and the
others are written with four hexadecimal digits in small letters.
-/

namespace GuildRelay.Json

/-- A hexadecimal digit in small letters. -/
def hexDigit (n : Nat) : Char :=
  if n < 10 then Text.digitChar n else Char.ofNat ('a'.toNat + (n - 10))

/-- One character of a text as it is written between the quotes. -/
def escaped (c : Char) : List Char :=
  if c = '"' then ['\\', '"']
  else if c = '\\' then ['\\', '\\']
  else if c = '\x08' then ['\\', 'b']
  else if c = '\t' then ['\\', 't']
  else if c = '\n' then ['\\', 'n']
  else if c = '\x0c' then ['\\', 'f']
  else if c = '\r' then ['\\', 'r']
  else if c.toNat < 0x20 then
    ['\\', 'u', '0', '0', hexDigit (c.toNat / 16), hexDigit (c.toNat % 16)]
  else [c]

/-- A text between quotes. -/
def quoted (s : String) : List Char :=
  '"' :: (s.toList.flatMap escaped ++ ['"'])

/-- A text that names no characters has only the escape of a lone surrogate to stand for it. -/
def quoted? : Option String → List Char
  | some s => quoted s
  | none => '"' :: '\\' :: 'u' :: 'd' :: '8' :: '0' :: '0' :: ['"']

/-- A number that is not an integer. JSON has no way to write one that is not finite. -/
def real : Real → List Char
  | .finite d =>
    let sign := if d.negative then ['-'] else []
    sign ++ Text.digits d.coefficient ++ 'e' :: Text.intDigits d.exponent
  | _ => "null".toList

mutual

/-- A document as compact JSON. -/
def render : Document → List Char
  | .null => "null".toList
  | .bool b => if b then "true".toList else "false".toList
  | .integer n => Text.intDigits n
  | .real r => real r
  | .text s => quoted? s
  | .list items => '[' :: renderItems items
  | .table members => '{' :: renderMembers members

/-- The items of a list with the closing bracket. -/
def renderItems : List Document → List Char
  | [] => [']']
  | d :: rest => render d ++ renderMoreItems rest

/-- The items after the first one. -/
def renderMoreItems : List Document → List Char
  | [] => [']']
  | d :: rest => ',' :: (render d ++ renderMoreItems rest)

/-- The members of a table with the closing brace. -/
def renderMembers : List (Option String × Document) → List Char
  | [] => ['}']
  | (k, d) :: rest => quoted? k ++ ':' :: (render d ++ renderMoreMembers rest)

/-- The members after the first one. -/
def renderMoreMembers : List (Option String × Document) → List Char
  | [] => ['}']
  | (k, d) :: rest => ',' :: (quoted? k ++ ':' :: (render d ++ renderMoreMembers rest))

end

end GuildRelay.Json

/-- The compact JSON text of a document. -/
def GuildRelay.Document.json (d : Document) : String :=
  String.ofList (Json.render d)
