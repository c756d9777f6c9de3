import GuildRelay.Pattern.Class
import GuildRelay.Text.Property.Cased
import GuildRelay.Text.Property.Category
import GuildRelay.Text.Property.Letter
import GuildRelay.Text.Property.Script
import GuildRelay.Text.Property.Symbol
/-!
# Named classes

The classes that patterns know by a name: the short escapes, the classes of ASCII, and properties of
Unicode. Names of properties are compared without case, blanks, hyphens and underscores.
-/

namespace GuildRelay.Pattern

open Text Text.Property

/-! ## Short escapes -/

/-- Blank characters. -/
def blankRanges : List CodeRange :=
  Text.ranges "9-D 20 85 A0 1680 2000-200A 2028-2029 202F 205F 3000"

/-- Decimal digits. -/
def digitClass (unicode : Bool) : CharClass :=
  if unicode then .ranges decimalNumber else .between '0' '9'

/-- Blanks. -/
def spaceClass (unicode : Bool) : CharClass :=
  if unicode then .ranges blankRanges else .ranges (Text.ranges "9-D 20")

/-- Characters of words. -/
def wordClass (unicode : Bool) : CharClass :=
  if unicode then
    .ranges (alphabetic ++ nonspacingMark ++ spacingMark ++ enclosingMark ++ decimalNumber ++
      connectorPunctuation ++ joinControl)
  else .ranges (Text.ranges "30-39 41-5A 5F 61-7A")

/-! ## Classes of ASCII -/

/-- A class of ASCII by its name. -/
def asciiClass? (name : String) : Option CharClass :=
  let table :=
    [("alnum", "30-39 41-5A 61-7A"), ("alpha", "41-5A 61-7A"), ("ascii", "0-7F"), ("blank", "9 20"),
     ("cntrl", "0-1F 7F"), ("digit", "30-39"), ("graph", "21-7E"), ("lower", "61-7A"),
     ("print", "20-7E"), ("punct", "21-2F 3A-40 5B-60 7B-7E"), ("space", "9-D 20"),
     ("upper", "41-5A"), ("word", "30-39 41-5A 5F 61-7A"), ("xdigit", "30-39 41-46 61-66")]
  (table.lookup name).map fun written => .ranges (Text.ranges written)

/-! ## Properties of Unicode -/

/-- A name as it is compared: small letters without separators, characters outside of ASCII and a
leading `is`. -/
def looseName (name : String) : String :=
  let cs := name.toList
  let hasIs := (cs.take 2).map Char.toLower = ['i', 's']
  let kept := (if hasIs then cs.drop 2 else cs).filter fun c =>
    c != ' ' && c != '_' && c != '-' && c.toNat < 128
  let lowered := kept.map Char.toLower
  if hasIs && lowered = ['c'] then "isc" else String.ofList lowered

/-- All letters with a case. -/
def casedLetters : List CodeRange := uppercaseLetter ++ lowercaseLetter ++ titlecaseLetter

/-- All marks. -/
def marks : List CodeRange := nonspacingMark ++ spacingMark ++ enclosingMark

/-- All numbers. -/
def numbers : List CodeRange := decimalNumber ++ letterNumber ++ otherNumber

/-- All punctuation. -/
def punctuation : List CodeRange :=
  connectorPunctuation ++ dashPunctuation ++ openPunctuation ++ closePunctuation ++
    initialPunctuation ++ finalPunctuation ++ otherPunctuation

/-- All symbols. -/
def symbols : List CodeRange := mathSymbol ++ currencySymbol ++ modifierSymbol ++ otherSymbol

/-- All separators. -/
def separators : List CodeRange := spaceSeparator ++ lineSeparator ++ paragraphSeparator

/-- All characters to which a category other than unassigned is given. -/
def assigned : List CodeRange :=
  casedLetters ++ modifierLetter ++ otherLetter ++ marks ++ numbers ++ punctuation ++ symbols ++
    separators ++ control ++ format ++ privateUse

/-- The general categories by their names. -/
def categories : List (List String × CharClass) :=
  [(["lu", "uppercaseletter"], .ranges uppercaseLetter),
   (["ll", "lowercaseletter"], .ranges lowercaseLetter),
   (["lt", "titlecaseletter"], .ranges titlecaseLetter),
   (["lc", "casedletter"], .ranges casedLetters),
   (["lm", "modifierletter"], .ranges modifierLetter),
   (["lo", "otherletter"], .ranges otherLetter),
   (["l", "letter"], .ranges (casedLetters ++ modifierLetter ++ otherLetter)),
   (["mn", "nonspacingmark"], .ranges nonspacingMark),
   (["mc", "spacingmark"], .ranges spacingMark),
   (["me", "enclosingmark"], .ranges enclosingMark),
   (["m", "mark", "combiningmark"], .ranges marks),
   (["nd", "decimalnumber", "digit"], .ranges decimalNumber),
   (["nl", "letternumber"], .ranges letterNumber),
   (["no", "othernumber"], .ranges otherNumber),
   (["n", "number"], .ranges numbers),
   (["pc", "connectorpunctuation"], .ranges connectorPunctuation),
   (["pd", "dashpunctuation"], .ranges dashPunctuation),
   (["ps", "openpunctuation"], .ranges openPunctuation),
   (["pe", "closepunctuation"], .ranges closePunctuation),
   (["pi", "initialpunctuation"], .ranges initialPunctuation),
   (["pf", "finalpunctuation"], .ranges finalPunctuation),
   (["po", "otherpunctuation"], .ranges otherPunctuation),
   (["p", "punctuation", "punct"], .ranges punctuation),
   (["sm", "mathsymbol"], .ranges mathSymbol),
   (["sc", "currencysymbol"], .ranges currencySymbol),
   (["sk", "modifiersymbol"], .ranges modifierSymbol),
   (["so", "othersymbol"], .ranges otherSymbol),
   (["s", "symbol"], .ranges symbols),
   (["zs", "spaceseparator"], .ranges spaceSeparator),
   (["zl", "lineseparator"], .ranges lineSeparator),
   (["zp", "paragraphseparator"], .ranges paragraphSeparator),
   (["z", "separator"], .ranges separators),
   (["cc", "control", "cntrl"], .ranges control),
   (["cf", "format"], .ranges format),
   (["co", "privateuse"], .ranges privateUse),
   (["cn", "unassigned"], .compl (.ranges assigned)),
   (["c", "other"], .union (.ranges (control ++ format ++ privateUse)) (.compl (.ranges assigned))),
   (["any"], .all),
   (["assigned"], .ranges assigned),
   (["ascii"], .between '\x00' '\x7F')]

/-- The properties that a character has or has not, by their names. -/
def flagProperties : List (List String × CharClass) :=
  [(["alphabetic", "alpha"], .ranges alphabetic),
   (["uppercase", "upper"], .ranges uppercase),
   (["lowercase", "lower"], .ranges lowercase),
   (["whitespace", "wspace", "space"], .ranges blankRanges),
   (["cased"], .ranges cased),
   (["caseignorable", "ci"], .ranges caseIgnorable),
   (["asciihexdigit", "ahex"], .ranges asciiHexDigit),
   (["hexdigit", "hex"], .ranges hexDigit),
   (["dash"], .ranges dash),
   (["emoji"], .ranges emoji),
   (["emojipresentation", "epres"], .ranges emojiPresentation),
   (["extendedpictographic", "extpict"], .ranges extendedPictographic),
   (["ideographic", "ideo"], .ranges ideographic),
   (["joincontrol", "joinc"], .ranges joinControl),
   (["math"], .ranges math),
   (["quotationmark", "qmark"], .ranges quotationMark),
   (["regionalindicator", "ri"], .ranges (Text.ranges "1F1E6-1F1FF")),
   (["terminalpunctuation", "term"], .ranges terminalPunctuation)]

/-- The class with a name in a table. -/
def named? (table : List (List String × CharClass)) (name : String) : Option CharClass :=
  (table.find? fun entry => entry.1.contains name).map (·.2)

/-- A script by its name. -/
def script? (name : String) : Option CharClass :=
  (scripts.find? fun entry => entry.1.contains name).map fun entry => .ranges entry.2

/-- The class that a property with one name stands for. -/
def property? (name : String) : Option CharClass :=
  let name := looseName name
  (named? flagProperties name).or ((named? categories name).or (script? name))

/-- The class that a property with a value stands for. -/
def propertyValue? (property value : String) : Option CharClass :=
  let value := looseName value
  match looseName property with
  | "gc" | "generalcategory" => named? categories value
  | "sc" | "script" | "scx" | "scriptextensions" => script? value
  | _ => none

end GuildRelay.Pattern
