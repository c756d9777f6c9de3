import GuildRelay.Number.Shortest
import GuildRelay.Text.Blank
import GuildRelay.Text.Decimal
/-!
# Values in Redis replies

A `RedisValue` is what a Redis server sends back. `asText?`, `asTexts?`, `asBytes?` and `asFlag?`
say what such a value is taken for where a certain kind of answer is wanted, and `none` is for
values that cannot be taken for it.
-/

namespace GuildRelay

/-- A value in a reply. -/
inductive RedisValue where
  | nil
  | okay
  | integer (n : Int)
  | boolean (b : Bool)
  | double (x : Binary64)
  /-- A whole number of any size. -/
  | large (n : Int)
  /-- A short text on a line of its own. -/
  | simple (text : String)
  /-- A text of a given length. -/
  | bulk (bytes : List UInt8)
  /-- A text of a given length that tells its format. -/
  | verbatim (text : String)
  /-- A list of values. A map is the list of its pairs. -/
  | array (items : List RedisValue)
  /-- The reason why a command was refused. -/
  | error (reason : String)

namespace RedisValue

/-- The text of bytes in UTF-8. -/
def utf8? (bytes : List UInt8) : Option String :=
  String.fromUTF8? ⟨bytes.toArray⟩

/-- The value of a text. -/
def ofText (s : String) : RedisValue :=
  bulk s.toUTF8.data.toList

/-- The value of a list of texts. -/
def ofTexts (texts : List String) : RedisValue :=
  array (texts.map ofText)

mutual

/-- The first reason for a refusal anywhere in a value. -/
def refusal? : RedisValue → Option String
  | error reason => some reason
  | array items => itemsRefusal? items
  | _ => none

/-- The first reason for a refusal anywhere in a list of values. -/
def itemsRefusal? : List RedisValue → Option String
  | [] => none
  | v :: rest => (refusal? v).or (itemsRefusal? rest)

end

/-- A whole number, as it is written in replies: digits after an optional sign. -/
def integerOf? (s : String) : Option Int :=
  let (negative, digits) := match s.toList with
    | '-' :: rest => (true, rest)
    | '+' :: rest => (false, rest)
    | cs => (false, cs)
  if digits.isEmpty || !digits.all Text.isDigit then none
  else some (if negative then -(Text.natOf digits : Int) else Text.natOf digits)

/-- A number with an optional fraction and exponent, or a word for what is no finite number. -/
def realOf? (s : String) : Option Real :=
  let (negative, cs) := match s.toList with
    | '-' :: rest => (true, rest)
    | '+' :: rest => (false, rest)
    | cs => (false, cs)
  let word := String.ofList (cs.map Char.toLower)
  if word = "inf" ∨ word = "infinity" then some (.infinite negative)
  else if word = "nan" then some .undefined
  else
    let whole := cs.takeWhile Text.isDigit
    let rest := cs.drop whole.length
    let (fraction, rest) := match rest with
      | '.' :: rest =>
        let fraction := rest.takeWhile Text.isDigit
        (fraction, rest.drop fraction.length)
      | _ => ([], rest)
    let exponent? := match rest with
      | [] => some 0
      | 'e' :: digits | 'E' :: digits => integerOf? (String.ofList digits)
      | _ => none
    if whole.isEmpty && fraction.isEmpty then none
    else exponent?.map fun exponent =>
      .finite ⟨negative, Text.natOf (whole ++ fraction), exponent - fraction.length⟩

/-- A value taken for a text. -/
def asText? : RedisValue → Option String
  | bulk bytes => utf8? bytes
  | okay => some "OK"
  | simple text => some text
  | verbatim text => some text
  | double x => some x.text
  | integer n => some (String.ofList (Text.intDigits n))
  | _ => none

/-- A value taken for a list of texts. -/
def asTexts? : RedisValue → Option (List String)
  | nil => some []
  | bulk bytes => (utf8? bytes).map fun s => [s]
  | array items => items.mapM asText?
  | _ => none

/-- A number of one byte. -/
def byteOf? (s : String) : Option UInt8 :=
  (integerOf? s).bind fun n => if 0 ≤ n ∧ n < 256 then some (.ofNat n.toNat) else none

/-- The byte next to a number towards zero, or else the byte nearest to it. -/
def byteNear (x : Binary64) : UInt8 :=
  match x.toRat? with
  | some q => if q < 0 then 0 else if q < 256 then .ofNat q.floor.toNat else 255
  | none => if x.isPositive then 255 else 0

/-- A value taken for a byte. -/
def asByte? : RedisValue → Option UInt8
  | integer n => some (.ofNat (n % 256).toNat)
  | double x => some (byteNear x)
  | simple text => byteOf? text
  | bulk bytes => (utf8? bytes).bind byteOf?
  | _ => none

/-- A value taken for a list of bytes. -/
def asBytes? : RedisValue → Option (List UInt8)
  | nil => some []
  | bulk bytes => some bytes
  | array items => items.mapM asByte?
  | _ => none

/-- A text taken for yes or no. -/
def flagOf? (s : String) : Option Bool :=
  if s = "1" then some true else if s = "0" then some false else none

/-- A value taken for yes or no. -/
def asFlag? : RedisValue → Option Bool
  | nil => some false
  | okay => some true
  | boolean b => some b
  | integer n => some (n != 0)
  | simple text => flagOf? text
  | bulk bytes => (utf8? bytes).bind flagOf?
  | _ => none

/-- A value taken for something that may be missing. -/
def asOption? {α : Type} (read : RedisValue → Option α) : RedisValue → Option (Option α)
  | nil => some none
  | v => (read v).map some

theorem utf8?_toUTF8 (s : String) : utf8? s.toUTF8.data.toList = some s := by
  have h : s.toUTF8.IsValidUTF8 := s.isValidUTF8
  simp only [utf8?, Array.toArray_toList, String.fromUTF8?]
  exact (dif_pos h).trans rfl

theorem asText?_ofText (s : String) : (ofText s).asText? = some s :=
  utf8?_toUTF8 s

theorem asTexts?_ofTexts (texts : List String) : (ofTexts texts).asTexts? = some texts := by
  simp only [ofTexts, asTexts?]
  induction texts with
  | nil => rfl
  | cons s rest ih => simp [asText?_ofText, ih]

theorem refusal?_ofTexts (texts : List String) : (ofTexts texts).refusal? = none := by
  simp only [ofTexts, refusal?]
  induction texts with
  | nil => rfl
  | cons s rest ih => simpa [itemsRefusal?, ofText, refusal?] using ih

end RedisValue

end GuildRelay
