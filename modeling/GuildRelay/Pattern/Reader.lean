import GuildRelay.Pattern.Size
import GuildRelay.Text.Blank
import GuildRelay.Text.Decimal
import GuildRelay.Text.Lead
/-!
# Reading patterns

`Pattern.parse?` reads a pattern from its written form. Flags change how what follows is read, up to
the end of the group they stand in. Looks at what lies farther away and references to groups are not
part of the language, and neither are patterns that could match half a character.
-/

namespace GuildRelay.Pattern

open Text

/-! ## The text being read -/

/-- How a pattern is read. -/
structure Flags where
  ignoreCase : Bool := false
  /-- Lines have starts and ends of their own. -/
  lines : Bool := false
  /-- A dot is for line breaks too. -/
  dotAll : Bool := false
  /-- Both parts of a line break end lines. -/
  crlf : Bool := false
  unicode : Bool := true
  /-- Blanks and comments mean nothing. -/
  free : Bool := false

/-- What is left of a written pattern, with what was found so far. -/
structure Remainder where
  rest : List Char
  flags : Flags := {}
  /-- The names of groups. -/
  names : List String := []

/-- Reads a part of a written pattern, if it can be read. -/
abbrev Reader := StateT Remainder Option

/-- The next character. -/
def peek : Reader (Option Char) := do
  return (← get).rest.head?

/-- The next character, which has to be there. -/
def current : Reader Char := do
  match ← peek with
  | some c => return c
  | none => failure

/-- Goes on by one character. -/
def advance : Reader Unit :=
  modify fun s => { s with rest := s.rest.tail }

/-- The text after blanks and comments. -/
def dropFree (inComment : Bool) : List Char → List Char
  | [] => []
  | c :: rest =>
    if inComment then dropFree (c != '\n') rest
    else if isBlank c then dropFree false rest
    else if c = '#' then dropFree true rest
    else c :: rest

/-- Goes on over blanks and comments, where they mean nothing. -/
def skipFree : Reader Unit :=
  modify fun s => if s.flags.free then { s with rest := dropFree false s.rest } else s

/-- Goes on by one character and over what means nothing. -/
def bump : Reader Unit := do
  advance
  skipFree

/-- The character after the next one. -/
def second : Reader (Option Char) := do
  return (← get).rest.tail.head?

/-- The character after the next one and after what means nothing. -/
def secondFree : Reader (Option Char) := do
  let s ← get
  return (if s.flags.free then dropFree false s.rest.tail else s.rest.tail).head?

/-- Goes on over a given text, if it is next. -/
def accept (lead : String) : Reader Bool := do
  let s ← get
  match dropLead? lead.toList s.rest with
  | some rest => set { s with rest }; return true
  | none => return false

/-- Some condition has to be true. -/
def require (condition : Bool) : Reader Unit :=
  if condition then pure () else failure

/-- A value that has to be there. -/
def demand {α : Type} : Option α → Reader α
  | some a => pure a
  | none => failure

/-- As many steps as reading the rest can take. -/
def fuel : Reader Nat := do
  return (← get).rest.length + 1

/-- The flags for what is next. -/
def flags : Reader Flags := do
  return (← get).flags

/-- The characters up to `stop`, which is left to be read. -/
def collectUntil (stop : Char) : Nat → Reader (List Char)
  | 0 => failure
  | n + 1 => do
    let c ← current
    if c = stop then return []
    bump
    return c :: (← collectUntil stop n)

/-! ## Classes under flags -/

/-- A class with the case ignored, if flags ask for it. -/
def foldCase (f : Flags) (c : CharClass) : CharClass :=
  if !f.ignoreCase then c else if f.unicode then c.anyCase else c.anyAsciiCase

/-- A class as it is or without its characters. -/
def negateIf (negated : Bool) (c : CharClass) : CharClass :=
  if negated then c.compl else c

/-- A class that may be used under the flags: without Unicode only those of ASCII. -/
def checked (c : CharClass) : Reader CharClass := do
  let f ← flags
  require (f.unicode || c.isAscii)
  return c

/-! ## Escapes -/

/-- What a single character or an escape stands for. -/
inductive Atom where
  /-- A character; it may be one that was written as a byte. -/
  | char (c : Char) (asByte : Bool)
  | chars (c : CharClass)
  | look (l : Look)

/-- Characters that mean something in patterns. -/
def isMeta (c : Char) : Bool :=
  "\\.+*?()|[]\x7b\x7d^$#&-~".toList.contains c

/-- Characters that an escape leaves as they are. -/
def isEscapable (c : Char) : Bool :=
  isMeta c || (c.toNat < 128 && !c.isAlphanum && c != '<' && c != '>')

/-- The value of some hexadecimal digits. -/
def hexValue (cs : List Char) : Option Nat :=
  cs.foldlM (fun n c => (hexValue? c).map (16 * n + ·)) 0

/-- The character with a number. -/
def charOf? (n : Nat) : Option Char :=
  if n.isValidChar then some (Char.ofNat n) else none

/-- A fixed number of characters, each with what means nothing after it. -/
def takeChars : Nat → Reader (List Char)
  | 0 => return []
  | n + 1 => do
    let c ← current
    bump
    return c :: (← takeChars n)

/-- A character by its number, with `kind` next. -/
def readHex (kind : Char) : Reader Atom := do
  bump
  if (← current) = '\x7b' then
    bump
    let cs ← collectUntil '\x7d' (← fuel)
    bump
    require (!cs.isEmpty)
    let n ← demand (hexValue cs)
    return .char (← demand (charOf? n)) false
  else
    let cs ← takeChars (if kind = 'x' then 2 else if kind = 'u' then 4 else 8)
    let n ← demand (hexValue cs)
    return .char (← demand (charOf? n)) (kind = 'x')

/-- A text cut at the first place where a separator stands. -/
def cutAt? (separator : List Char) : List Char → Option (List Char × List Char)
  | [] => none
  | c :: rest =>
    match dropLead? separator (c :: rest) with
    | some after => some ([], after)
    | none => (cutAt? separator rest).map fun (before, after) => (c :: before, after)

/-- The class of a property, given by what stands between the braces, and whether it is negated. -/
def propertyOf? (cs : List Char) : Option (CharClass × Bool) :=
  let value := fun (parts : List Char × List Char) =>
    propertyValue? (String.ofList parts.1) (String.ofList parts.2)
  match cutAt? ['!', '='] cs with
  | some parts => (value parts).map (·, true)
  | none =>
    match (cutAt? [':'] cs).or (cutAt? ['='] cs) with
    | some parts => (value parts).map (·, false)
    | none => (property? (String.ofList cs)).map (·, false)

/-- A property, with `kind` next. -/
def readProperty (kind : Char) : Reader Atom := do
  let f ← flags
  require f.unicode
  bump
  let c ← current
  let name ←
    if c = '\x7b' then do
      bump
      let cs ← collectUntil '\x7d' (← fuel)
      advance
      pure cs
    else do
      require (c != '\\')
      bump
      pure [c]
  let (found, unequal) ← demand (propertyOf? name)
  return .chars (negateIf ((kind == 'P') != unequal) (foldCase f found))

/-- A class with a short escape, with `kind` next. -/
def readShort (kind : Char) : Reader Atom := do
  let f ← flags
  advance
  let negated := kind.isUpper
  require (f.unicode || !negated)
  let found :=
    match kind.toLower with
    | 'd' => digitClass f.unicode
    | 's' => spaceClass f.unicode
    | _ => wordClass f.unicode
  return .chars (negateIf negated found)

/-- What may stand in the name of a look between braces. -/
def isLookName (c : Char) : Bool :=
  c.isAlpha || c == '-'

/-- The name of a look, up to what cannot be in it. -/
def collectLookName : Nat → Reader (List Char)
  | 0 => failure
  | n + 1 => do
    match ← peek with
    | none => return []
    | some c =>
      if isLookName c then
        bump
        return c :: (← collectLookName n)
      else return []

/-- What follows the escape for a word boundary: nothing, or a special kind between braces. -/
def readBoundary : Reader Atom := do
  let f ← flags
  if (← peek) != some '\x7b' then return .look (.wordBoundary f.unicode)
  let start ← get
  bump
  if !isLookName (← current) then
    set start
    return .look (.wordBoundary f.unicode)
  let name ← collectLookName (← fuel)
  require ((← current) == '\x7d')
  advance
  match String.ofList name with
  | "start" => return .look (.wordStart f.unicode)
  | "end" => return .look (.wordEnd f.unicode)
  | "start-half" => return .look (.wordStartHalf f.unicode)
  | "end-half" => return .look (.wordEndHalf f.unicode)
  | _ => failure

/-- An escape, with its backslash next. -/
def readEscape : Reader Atom := do
  advance
  let c ← current
  if c.isDigit then failure
  if c = 'x' || c = 'u' || c = 'U' then return ← readHex c
  if c = 'p' || c = 'P' then return ← readProperty c
  if "dswDSW".toList.contains c then return ← readShort c
  advance
  if isEscapable c then return .char c false
  let f ← flags
  match c with
  | 'a' => return .char '\x07' false
  | 'f' => return .char '\x0c' false
  | 't' => return .char '\t' false
  | 'n' => return .char '\n' false
  | 'r' => return .char '\r' false
  | 'v' => return .char '\x0b' false
  | 'A' => return .look .textStart
  | 'z' => return .look .textEnd
  | 'b' => readBoundary
  | 'B' => return .look (.noWordBoundary f.unicode)
  | '<' => return .look (.wordStart f.unicode)
  | '>' => return .look (.wordEnd f.unicode)
  | _ => failure

/-! ## Bracketed classes -/

/-- A class with how deep its brackets and operations are nested. -/
structure SetPart where
  set : CharClass
  height : Nat := 0

/-- A single character or escape of a bracketed class. -/
def readSetAtom : Reader Atom := do
  let c ← current
  if c = '\\' then readEscape
  else
    advance
    return .char c false

/-- The character of an atom that has to be one. -/
def setChar : Atom → Reader Char
  | .char c _ => do
    let f ← flags
    require (f.unicode || c.toNat < 128)
    return c
  | _ => failure

/-- The class of an atom of a bracketed class. -/
def setClass : Atom → Reader CharClass
  | .chars c => return c
  | .look _ => failure
  | .char c asByte => do
    return .only (← setChar (.char c asByte))

/-- A character, an escape or a range of a bracketed class. -/
def readSetRange : Reader SetPart := do
  let first ← readSetAtom
  skipFree
  let c ← current
  let next ← secondFree
  if c != '-' || next == some ']' || next == some '-' then
    return ⟨← setClass first, 0⟩
  bump
  let last ← readSetAtom
  let a ← setChar first
  let b ← setChar last
  require (decide (a ≤ b))
  return ⟨.between a b, 0⟩

/-- A named class of ASCII, if one is next. -/
def readAsciiClass? : Reader (Option CharClass) := do
  let s ← get
  match dropLead? ['[', ':'] s.rest with
  | none => return none
  | some rest =>
    let negated := rest.head? == some '^'
    let rest := if negated then rest.tail else rest
    let name := rest.takeWhile (· != ':')
    match dropLead? [':', ']'] (rest.drop name.length), asciiClass? (String.ofList name) with
    | some after, some found =>
      set { s with rest := after }
      return some (← checked (negateIf negated (foldCase s.flags found)))
    | _, _ => return none

/-- The hyphens at the start of a bracketed class. -/
def readHyphens : Nat → Reader (List SetPart)
  | 0 => failure
  | n + 1 => do
    if (← current) = '-' then
      bump
      return ⟨.only '-', 0⟩ :: (← readHyphens n)
    else return []

/-- How two bracketed classes are combined. -/
inductive SetOp where
  | inter
  | diff
  | symmDiff

/-- Combines two classes. -/
def SetOp.apply : SetOp → CharClass → CharClass → CharClass
  | inter, c, d => .inter c d
  | diff, c, d => .diff c d
  | symmDiff, c, d => .symmDiff c d

/-- The union of some parts. -/
def unionParts (parts : List SetPart) : SetPart :=
  match parts with
  | [part] => part
  | [] => ⟨.none, 0⟩
  | parts => ⟨.unions (parts.map (·.set)), (parts.map (·.height)).foldl max 0 + 1⟩

/-- The parts read since the last operation, combined with what stood before it. -/
def combine (f : Flags) (pending : Option (SetOp × SetPart)) (parts : List SetPart) : SetPart :=
  let right := unionParts parts
  match pending with
  | none => right
  | some (op, left) =>
    ⟨op.apply (foldCase f left.set) (foldCase f right.set), max left.height right.height + 1⟩

mutual

/-- A bracketed class, with its bracket next. -/
def readSet : Nat → Reader SetPart
  | 0 => failure
  | n + 1 => do
    bump
    let negated := (← current) == '^'
    if negated then bump
    let hyphens ← readHyphens (← fuel)
    let leading ←
      if hyphens.isEmpty && (← current) == ']' then do
        bump
        let _ ← current
        pure [⟨.only ']', 0⟩]
      else pure hyphens
    let part ← readSetParts n leading none
    let f ← flags
    return ⟨← checked (negateIf negated (foldCase f part.set)), part.height + 1⟩

/-- The rest of a bracketed class, up to its end. -/
def readSetParts :
    Nat → (parts : List SetPart) → (pending : Option (SetOp × SetPart)) → Reader SetPart
  | 0, _, _ => failure
  | n + 1, parts, pending => do
    skipFree
    let f ← flags
    let c ← current
    let doubled := (← second) == some c
    if c = '[' then
      match ← readAsciiClass? with
      | some found => readSetParts n (⟨found, 0⟩ :: parts) pending
      | none =>
        let part ← readSet n
        readSetParts n (part :: parts) pending
    else if c = ']' then
      advance
      return combine f pending parts
    else if doubled && (c = '&' || c = '-' || c = '~') then
      advance
      advance
      let op := if c = '&' then SetOp.inter else if c = '-' then .diff else .symmDiff
      readSetParts n [] (some (op, combine f pending parts))
    else
      let part ← readSetRange
      readSetParts n (part :: parts) pending

end

/-! ## Parts of a pattern -/

/-- A part of a pattern with how deep it is nested. -/
structure Part where
  pattern : Pattern
  height : Nat := 0
  /-- A repetition may follow. -/
  repeatable : Bool := true

/-- The pattern of an atom. -/
def ofAtom : Atom → Reader Part
  | .chars c => return { pattern := .one c }
  | .look l => return { pattern := .look l }
  | .char c asByte => do
    let f ← flags
    require (f.unicode || !asByte || c.toNat < 128)
    return { pattern := .one (foldCase f (.only c)) }

/-- Any character but those that end a line. -/
def dotClass (f : Flags) : CharClass :=
  if f.dotAll then .all
  else if f.crlf then .compl (.union (.only '\n') (.only '\r'))
  else .compl (.only '\n')

/-- A part that is no group, class or repetition. -/
def readPlain (c : Char) : Reader Part := do
  let f ← flags
  match c with
  | '\\' => ofAtom (← readEscape)
  | '.' =>
    advance
    require f.unicode
    return { pattern := .one (dotClass f) }
  | '^' =>
    advance
    return { pattern := .look (if f.lines then .lineStart f.crlf else .textStart) }
  | '$' =>
    advance
    return { pattern := .look (if f.lines then .lineEnd f.crlf else .textEnd) }
  | c =>
    advance
    ofAtom (.char c false)

/-- Parts one after the other, given last first. -/
def sequence (parts : List Part) : Part :=
  match parts with
  | [] => { pattern := .empty }
  | [part] => part
  | last :: before =>
    { pattern := before.foldl (fun p part => .seq part.pattern p) last.pattern
      height := (parts.map (·.height)).foldl max 0 + 1 }

/-- Parts of which one matches, given last first. -/
def alternatives (parts : List Part) : Part :=
  match parts with
  | [] => { pattern := .empty }
  | [part] => part
  | last :: before =>
    { pattern := before.foldl (fun p part => .alt part.pattern p) last.pattern
      height := (parts.map (·.height)).foldl max 0 + 1 }

/-- The last part that was read with the part before it taken away. -/
def popOperand (parts : List Part) : Reader (Part × List Part) :=
  match parts with
  | part :: rest => if part.repeatable then pure (part, rest) else failure
  | [] => failure

/-- A part repeated. -/
def repeated (part : Part) (least : Nat) (most : Option Nat) : Part :=
  { pattern := .times part.pattern least most, height := part.height + 1 }

/-- The largest number of repetitions that can be written. -/
def countLimit : Nat := 4294967295

/-- The digits at the front of the rest, with what means nothing after each. -/
def collectDigits : Nat → Reader (List Char)
  | 0 => failure
  | n + 1 => do
    match ← peek with
    | none => return []
    | some c =>
      if isDigit c then
        bump
        return c :: (← collectDigits n)
      else return []

/-- Goes on over blanks, which mean nothing around a count. -/
def skipBlanks : Reader Unit := do
  modify fun s => { s with rest := trimStart s.rest }
  skipFree

/-- A count of repetitions. -/
def readCount : Reader Nat := do
  skipBlanks
  let ds ← collectDigits (← fuel)
  skipBlanks
  require (!ds.isEmpty && natOf ds ≤ countLimit)
  return natOf ds

/-- A mark that what stands before is to be matched as seldom as possible. -/
def acceptLazy : Reader Unit := do
  let _ ← accept "?"

/-- A repetition with counts, with its brace next. -/
def readCounted (part : Part) : Reader Part := do
  bump
  let least ← readCount
  let most ←
    if (← current) = ',' then do
      bump
      if (← current) = '\x7d' then pure none
      else do
        let most ← readCount
        pure (some most)
    else pure (some least)
  require ((← current) == '\x7d')
  bump
  acceptLazy
  require ((most.getD least) ≥ least)
  return repeated part least most

/-! ## Groups -/

/-- What may stand in the name of a group. -/
def isNameChar (first : Bool) (c : Char) : Bool :=
  c == '_' || inRanges Property.alphabetic c ||
    (!first && (c == '.' || c == '[' || c == ']' || inRanges numbers c))

/-- The name of a group, with its end. -/
def readName : Reader Unit := do
  let s ← get
  let name := s.rest.takeWhile (· != '>')
  let text := String.ofList name
  require (s.rest.length != name.length)
  require (!name.isEmpty && name.head?.any (isNameChar true) && name.all (isNameChar false))
  require (!s.names.contains text)
  set { s with rest := s.rest.drop (name.length + 1), names := text :: s.names }

/-- The written flags up to the end of the list, which is left to be read. -/
def readFlags : Nat → (seen : List Char) → Reader (List Char)
  | 0, _ => failure
  | n + 1, seen => do
    let c ← current
    if c = ':' || c = ')' then
      require (seen.head? != some '-')
      return seen.reverse
    require (!seen.contains c && "imsUuRx-".toList.contains c)
    advance
    readFlags n (c :: seen)

/-- The flags after a list of changes; a hyphen turns those after it off. -/
def changeFlags (on : Bool) (f : Flags) : List Char → Flags
  | [] => f
  | '-' :: rest => changeFlags false f rest
  | 'i' :: rest => changeFlags on { f with ignoreCase := on } rest
  | 'm' :: rest => changeFlags on { f with lines := on } rest
  | 's' :: rest => changeFlags on { f with dotAll := on } rest
  | 'R' :: rest => changeFlags on { f with crlf := on } rest
  | 'u' :: rest => changeFlags on { f with unicode := on } rest
  | 'x' :: rest => changeFlags on { f with free := on } rest
  | _ :: rest => changeFlags on f rest

/-- What follows the opening of a group. -/
inductive Opening where
  /-- Flags for what follows, and nothing else. -/
  | flagsOnly
  | captured
  | uncaptured

/-- The opening of a group, with its parenthesis next. -/
def readOpening : Reader Opening := do
  advance
  skipFree
  let rest := (← get).rest
  require (!(["?=", "?!", "?<=", "?<!"].any fun lead => startsWith lead.toList rest))
  let named ← if ← accept "?P<" then pure true else accept "?<"
  if named then
    readName
    return .captured
  if ← accept "?" then
    let written ← readFlags (← fuel) []
    let isEnd := (← current) == ')'
    require (!(isEnd && written.isEmpty))
    advance
    modify fun s => { s with flags := changeFlags true s.flags written }
    return if isEnd then .flagsOnly else .uncaptured
  return .captured

/-- Reads parts up to the end of the group or of the text. `branches` holds the alternatives read
before and `parts` those of the one being read, the last first. -/
def readParts : Nat → (branches parts : List Part) → Reader Part
  | 0, _, _ => failure
  | n + 1, branches, parts => do
    skipFree
    match ← peek with
    | none => return alternatives (sequence parts :: branches)
    | some ')' => return alternatives (sequence parts :: branches)
    | some '|' =>
      advance
      readParts n (sequence parts :: branches) []
    | some '(' =>
      let outer ← flags
      match ← readOpening with
      | .flagsOnly =>
        readParts n branches ({ pattern := .empty, repeatable := false } :: parts)
      | opening =>
        let inner ← readParts n [] []
        require ((← current) == ')')
        advance
        modify fun s => { s with flags := outer }
        let pattern :=
          match opening with
          | .captured => inner.pattern.group
          | _ => inner.pattern
        readParts n branches ({ pattern, height := inner.height + 1 } :: parts)
    | some '[' =>
      let part ← readSet n
      readParts n branches ({ pattern := .one part.set, height := part.height } :: parts)
    | some '?' =>
      let (part, rest) ← popOperand parts
      advance
      acceptLazy
      readParts n branches (repeated part 0 (some 1) :: rest)
    | some '*' =>
      let (part, rest) ← popOperand parts
      advance
      acceptLazy
      readParts n branches (repeated part 0 none :: rest)
    | some '+' =>
      let (part, rest) ← popOperand parts
      advance
      acceptLazy
      readParts n branches (repeated part 1 none :: rest)
    | some '\x7b' =>
      let (part, rest) ← popOperand parts
      let part ← readCounted part
      readParts n branches (part :: rest)
    | some c =>
      let part ← readPlain c
      readParts n branches (part :: parts)

/-- How deep a pattern may be nested. -/
def heightLimit : Nat := 250

/-- The pattern that a text writes. -/
def parse? (text : String) : Option Pattern := do
  let cs := text.toList
  let (part, remainder) ← (readParts (cs.length + 1) [] []).run { rest := cs }
  if remainder.rest.isEmpty && part.height ≤ heightLimit && part.pattern.room ≤ roomLimit then
    some part.pattern
  else none

end GuildRelay.Pattern
