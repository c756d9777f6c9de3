import GuildRelay.Text.LowerCaseTable
import GuildRelay.Text.Property.Cased
/-!
# Lower case

`lowerCase` is the full lower-case mapping of Unicode. It differs from character to character
only, with one exception: a capital sigma that ends a word becomes a final sigma, which
`endsWord` decides from the letters on both sides.
-/

namespace GuildRelay.Text

/-- The lower case of one character, wherever it stands. -/
def lowerChar (c : Char) : List Char :=
  if c = 'İ' then ['i', '\u0307'] else [Char.ofNat (caseImage lowerCaseRuns c.toNat)]

/-- The next character that is not case-ignorable is cased. -/
def meetsCased (cs : List Char) : Bool :=
  match cs.dropWhile (inRanges Property.caseIgnorable) with
  | c :: _ => inRanges Property.cased c
  | [] => false

/-- A letter between `before` (nearest first) and `after` is the last of its word. -/
def endsWord (before after : List Char) : Bool :=
  meetsCased before && !meetsCased after

/-- The lower case of a text that follows the characters `before`, nearest first. -/
def lowerAfter (before : List Char) : List Char → List Char
  | [] => []
  | c :: rest =>
    let image := if c = 'Σ' then [if endsWord before rest then 'ς' else 'σ'] else lowerChar c
    image ++ lowerAfter (c :: before) rest

/-- The lower case of a text. -/
def lowerCase (s : String) : String :=
  String.ofList (lowerAfter [] s.toList)

end GuildRelay.Text
