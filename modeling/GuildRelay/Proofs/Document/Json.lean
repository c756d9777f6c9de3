import GuildRelay.Document.Json.Printer
import GuildRelay.Document.Json.Reader
/-!
# JSON reads back what it writes

`Document.ofJson?_json`: the compact text of a document is read as that very document, provided the
document is one that can be written at all (`Document.writable`) - its integers fit 64 bits, its
texts name characters, and it has no other numbers.

The readers are deterministic and take the text that is left, so every statement here has the form
"reading what was written, with `rest` behind it, gives the value and `rest`". Only a number does
not know where it ends; `EndsNumber` is what the text behind it has to satisfy, and the commas,
brackets and braces that the printer puts there do. The fuel is measured by the written text: every
level of the readers eats a bracket, a comma or a colon, so twice the length is enough.

`Document.newline_not_mem_json`: the compact text has no line break in it, as texts escape theirs
and nothing is put between the parts. Documents can be sent line by line.
-/

namespace GuildRelay

namespace Document

mutual

/-- The document is written in a way that can be read back. -/
def writable : Document → Bool
  | .integer n => holdsInteger n
  | .real _ => false
  | .text s => s.isSome
  | .list items => itemsWritable items
  | .table members => membersWritable members
  | _ => true

/-- Every item can be read back. -/
def itemsWritable : List Document → Bool
  | [] => true
  | d :: rest => d.writable && itemsWritable rest

/-- Every member can be read back. -/
def membersWritable : List (Option String × Document) → Bool
  | [] => true
  | (key, d) :: rest => key.isSome && d.writable && membersWritable rest

end

theorem itemsWritable_iff {items : List Document} :
    itemsWritable items = true ↔ ∀ d ∈ items, d.writable = true := by
  induction items with
  | nil => simp [itemsWritable]
  | cons d rest ih => simp [itemsWritable, ih]

theorem membersWritable_ofFields {fields : List (String × Document)} :
    membersWritable (fields.map fun f => (some f.1, f.2)) = true
      ↔ ∀ f ∈ fields, f.2.writable = true := by
  induction fields with
  | nil => simp [membersWritable]
  | cons f rest ih => simp [membersWritable, ih]

end Document

namespace Json

/-! ## Texts -/

/-- How a character reads back: the control characters without a short escape as code units. -/
def pieceOf (c : Char) : Piece :=
  if c.toNat < 0x20 ∧ c ≠ '\x08' ∧ c ≠ '\t' ∧ c ≠ '\n' ∧ c ≠ '\x0c' ∧ c ≠ '\r' then .unit c.toNat
  else .char c

theorem fourDigits?_hexDigit {n : Nat} (h : n < 0x20) :
    fourDigits? '0' '0' (hexDigit (n / 16)) (hexDigit (n % 16)) = some n := by
  have hall : ∀ k < 0x20, fourDigits? '0' '0' (hexDigit (k / 16)) (hexDigit (k % 16)) = some k := by
    decide
  exact hall n h

theorem readPieces_plain {c : Char} (hquote : c ≠ '"') (hescape : c ≠ '\\')
    (hcontrol : ¬c.toNat < 0x20) (rest : List Char) :
    readPieces (c :: rest) = consPiece (.char c) (readPieces rest) := by
  rw [readPieces.eq_def]
  simp [hquote, hescape, hcontrol]

/-- Reading undoes the escape of one character, whichever escape it has. -/
theorem readPieces_escaped (c : Char) (rest : List Char) :
    readPieces (escaped c ++ rest) = consPiece (pieceOf c) (readPieces rest) := by
  unfold escaped
  split
  · next h => subst h; rfl
  split
  · next h => subst h; rfl
  split
  · next h => subst h; rfl
  split
  · next h => subst h; rfl
  split
  · next h => subst h; rfl
  split
  · next h => subst h; rfl
  split
  · next h => subst h; rfl
  next hquote hescape h8 ht hn hf hr =>
  split
  · next hlt =>
    have hp : pieceOf c = .unit c.toNat := by
      rw [pieceOf, if_pos ⟨hlt, h8, ht, hn, hf, hr⟩]
    simp [readPieces, fourDigits?_hexDigit hlt, hp]
  · next hge =>
    have hp : pieceOf c = .char c := by
      rw [pieceOf, if_neg fun h => hge h.1]
    rw [hp, ← readPieces_plain hquote hescape hge]
    rfl

theorem readPieces_flatMap (cs rest : List Char) :
    readPieces (cs.flatMap escaped ++ '"' :: rest) = some (cs.map pieceOf, rest) := by
  induction cs with
  | nil => rw [readPieces.eq_def]; simp
  | cons c cs ih =>
      rw [List.flatMap_cons, List.append_assoc, readPieces_escaped, ih]
      rfl

theorem assemble_char (c : Char) (ps : List Piece) :
    assemble (.char c :: ps) = (assemble ps).map (c :: ·) := by
  rw [assemble]

/-- A code unit that is no surrogate stands for its own character. -/
theorem assemble_unit {n : Nat} (hn : n < 0xD800) (ps : List Piece) :
    assemble (.unit n :: ps) = (assemble ps).map (Char.ofNat n :: ·) := by
  have hlead : isLead n = false := by simp [isLead]; omega
  have htrail : isTrail n = false := by simp [isTrail]; omega
  rw [assemble.eq_def]
  simp [hlead, htrail]

theorem assemble_map_pieceOf (cs : List Char) : assemble (cs.map pieceOf) = some cs := by
  induction cs with
  | nil => rfl
  | cons c cs ih =>
      rw [List.map_cons, pieceOf]
      split
      · next h => rw [assemble_unit (by omega), ih, Option.map_some, Char.ofNat_toNat]
      · rw [assemble_char, ih, Option.map_some]

theorem quoted?_some (s : String) :
    quoted? (some s) = '"' :: (s.toList.flatMap escaped ++ ['"']) := rfl

/-- A written text reads back as its characters. -/
theorem readText_quoted (s : String) (rest : List Char) :
    readText (s.toList.flatMap escaped ++ '"' :: rest) = some (some s, rest) := by
  simp [readText, readPieces_flatMap, assemble_map_pieceOf]

/-! ## Numbers -/

/-- Nothing at the start of the text is taken for more of a number. -/
def EndsNumber (rest : List Char) : Prop :=
  ∀ c ∈ rest.head?, Text.isDigit c = false ∧ c ≠ '.' ∧ c ≠ 'e' ∧ c ≠ 'E'

theorem readDigits_append {ds rest : List Char} (hds : ∀ d ∈ ds, Text.isDigit d = true)
    (hrest : EndsNumber rest) : readDigits (ds ++ rest) = (ds, rest) := by
  have hstop : rest.takeWhile Text.isDigit = [] ∧ rest.dropWhile Text.isDigit = rest := by
    cases rest with
    | nil => simp
    | cons c rest => simp [(hrest c (by simp)).1]
  simp [readDigits, List.takeWhile_append_of_pos hds, List.dropWhile_append_of_pos hds, hstop]

theorem readFraction_of_endsNumber {rest : List Char} (h : EndsNumber rest) :
    readFraction rest = some ([], rest) := by
  cases rest with
  | nil => rfl
  | cons c rest => simp [readFraction, (h c (by simp)).2.1]

theorem readExponent_of_endsNumber {rest : List Char} (h : EndsNumber rest) :
    readExponent rest = some (none, rest) := by
  cases rest with
  | nil => rfl
  | cons c rest =>
      obtain ⟨-, -, he, hE⟩ := h c (by simp)
      simp [readExponent, he, hE]

theorem digits_eq_cons (n : Nat) : ∃ d ds, Text.digits n = d :: ds ∧ Text.isDigit d = true := by
  cases hd : Text.digits n with
  | nil => exact absurd hd (Text.digits_ne_nil n)
  | cons d ds => exact ⟨d, ds, rfl, Text.digits_all n d (by simp [hd])⟩

/-- The digits of a number are read to their end: a lone zero, or digits that start with none. -/
theorem readNumber_digits (negative : Bool) (n : Nat) {rest : List Char}
    (hrest : EndsNumber rest) :
    readNumber ((if negative then ['-'] else []) ++ (Text.digits n ++ rest)) =
      some (number negative (Text.digits n) [] none, rest) := by
  have hfraction := readFraction_of_endsNumber hrest
  have hexponent := readExponent_of_endsNumber hrest
  by_cases hn : n = 0
  · subst hn
    have hzero : Text.digits 0 = ['0'] := by rw [Text.digits]; rfl
    cases negative <;> simp [hzero, readNumber, hfraction, hexponent]
  · obtain ⟨d, ds, hd, hdigit⟩ := digits_eq_cons n
    have hminus : d ≠ '-' := fun h => absurd (h ▸ hdigit) (by decide)
    have hzero : d ≠ '0' := Text.digits_head hn d (by simp [hd])
    have hall := readDigits_append (Text.digits_all n) hrest
    rw [hd, List.cons_append] at hall ⊢
    cases negative <;> simp [readNumber, hminus, hzero, hall, hfraction, hexponent]

theorem number_digits (negative : Bool) (n : Nat) (h : negative = true → n ≠ 0)
    (hfits : Document.holdsInteger (if negative then -(n : Int) else n) = true) :
    number negative (Text.digits n) [] none = .integer (if negative then -(n : Int) else n) := by
  have hzero : (negative && n == 0) = false := by
    cases negative with
    | false => rfl
    | true => simpa using h rfl
  rw [number, Text.natOf_digits, if_pos (by simp [hfits, hzero])]

/-- A written integer reads back. -/
theorem readNumber_intDigits {n : Int} (hn : Document.holdsInteger n = true) {rest : List Char}
    (hrest : EndsNumber rest) :
    readNumber (Text.intDigits n ++ rest) = some (.integer n, rest) := by
  by_cases hneg : n < 0
  · have habs : (if true = true then -(n.natAbs : Int) else n.natAbs) = n := by
      rw [if_pos rfl]
      omega
    have hnumber := number_digits true n.natAbs (by omega) (by rwa [habs])
    rw [Text.intDigits, if_pos hneg, ← habs, ← hnumber, habs]
    exact readNumber_digits true n.natAbs hrest
  · have habs : (if false = true then -(n.natAbs : Int) else n.natAbs) = n := by
      rw [if_neg Bool.false_ne_true]
      omega
    have hnumber := number_digits false n.natAbs (by simp) (by rwa [habs])
    rw [Text.intDigits, if_neg hneg, ← habs, ← hnumber, habs]
    exact readNumber_digits false n.natAbs hrest

/-! ## Values -/

/-- How the text of a value starts: with nothing that is skipped, and with nothing that ends a
list or a table. -/
def StartsValue (c : Char) : Prop :=
  isSpace c = false ∧ c ≠ ']' ∧ c ≠ '}'

instance (c : Char) : Decidable (StartsValue c) :=
  inferInstanceAs (Decidable (_ ∧ _))

theorem StartsValue.skipSpace {c : Char} (h : StartsValue c) (cs : List Char) :
    Json.skipSpace (c :: cs) = c :: cs := by
  simp [Json.skipSpace, h.1]

theorem startsValue_of_isDigit {c : Char} (h : Text.isDigit c = true) : StartsValue c := by
  refine ⟨?_, fun hc => ?_, fun hc => ?_⟩
  · have hne : ∀ d, Text.isDigit d = false → (c == d) = false := fun d hd =>
      beq_eq_false_iff_ne.mpr fun hcd => by rw [hcd, hd] at h; cases h
    simp [isSpace, hne ' ' (by decide), hne '\n' (by decide), hne '\t' (by decide),
      hne '\r' (by decide)]
  · subst hc; exact absurd h (by decide)
  · subst hc; exact absurd h (by decide)

theorem render_eq_cons : ∀ {d : Document}, d.writable = true →
    ∃ c cs, render d = c :: cs ∧ StartsValue c
  | .null, _ => ⟨'n', _, rfl, by decide⟩
  | .bool true, _ => ⟨'t', _, rfl, by decide⟩
  | .bool false, _ => ⟨'f', _, rfl, by decide⟩
  | .integer n, _ => by
      rw [render, Text.intDigits]
      split
      · exact ⟨'-', _, rfl, by decide⟩
      · obtain ⟨d, ds, hd, hdigit⟩ := digits_eq_cons n.natAbs
        exact ⟨d, ds, hd, startsValue_of_isDigit hdigit⟩
  | .real _, h => by simp [Document.writable] at h
  | .text (some s), _ => ⟨'"', _, rfl, by decide⟩
  | .text none, h => by simp [Document.writable] at h
  | .list _, _ => ⟨'[', _, by rw [render], by decide⟩
  | .table _, _ => ⟨'{', _, by rw [render], by decide⟩

theorem endsNumber_renderMoreItems (items : List Document) (rest : List Char) :
    EndsNumber (renderMoreItems items ++ rest) := by
  cases items <;> simp [renderMoreItems, EndsNumber] <;> decide

theorem endsNumber_renderMoreMembers (members : List (Option String × Document))
    (rest : List Char) : EndsNumber (renderMoreMembers members ++ rest) := by
  cases members <;> simp [renderMoreMembers, EndsNumber] <;> decide

theorem readValue_intDigits {n : Int} (hn : Document.holdsInteger n = true) {fuel : Nat}
    {rest : List Char} (hrest : EndsNumber rest) :
    readValue (fuel + 1) (Text.intDigits n ++ rest) = some (.integer n, rest) := by
  have hread := readNumber_intDigits hn hrest
  obtain ⟨c, cs, hc, hstart⟩ := render_eq_cons (d := .integer n) hn
  have hfirst : c = '-' ∨ Text.isDigit c = true := by
    simp only [render, Text.intDigits] at hc
    split at hc
    · exact .inl (List.cons.inj hc).1.symm
    · exact .inr (Text.digits_all n.natAbs c (by simp [hc]))
  have hne : ∀ d, d ≠ '-' → Text.isDigit d = false → c ≠ d := by
    rintro d hminus hdigit rfl
    exact hfirst.elim hminus fun h => by rw [hdigit] at h; cases h
  rw [render] at hc
  rw [hc, List.cons_append] at hread ⊢
  rw [readValue, hstart.skipSpace]
  simp [hne '"' (by decide) (by decide), hne '[' (by decide) (by decide),
    hne '{' (by decide) (by decide), hfirst, hread]

/-- A list that is not empty is read by its items. -/
theorem readValue_bracket {fuel : Nat} {c : Char} {cs rest : List Char} {items : List Document}
    (hc : StartsValue c) (h : readItems fuel (c :: cs) = some (items, rest)) :
    readValue (fuel + 1) ('[' :: c :: cs) = some (.list items, rest) := by
  rw [readValue, StartsValue.skipSpace (by decide)]
  simp [hc.skipSpace, hc.2.1, h]

/-- A table that is not empty is read by its members. -/
theorem readValue_brace {fuel : Nat} {cs rest : List Char}
    {members : List (Option String × Document)}
    (h : readMembers fuel ('"' :: cs) = some (members, rest)) :
    readValue (fuel + 1) ('{' :: '"' :: cs) = some (.table members, rest) := by
  rw [readValue, StartsValue.skipSpace (by decide)]
  simp [StartsValue.skipSpace (c := '"') (by decide), h]

mutual

/-- A written value reads back, if there is fuel for twice its length. -/
theorem readValue_render : ∀ (d : Document), d.writable = true → ∀ (fuel : Nat) (rest : List Char),
    2 * (render d).length ≤ fuel → EndsNumber rest →
      readValue fuel (render d ++ rest) = some (d, rest)
  | .null, _, fuel + 1, rest, _, _ => by
      simp [render, readValue, skipSpace, isSpace, Text.isDigit, readWord, Text.dropLead?]
  | .bool b, _, fuel + 1, rest, _, _ => by
      cases b <;>
        simp [render, readValue, skipSpace, isSpace, Text.isDigit, readWord, Text.dropLead?]
  | .integer n, hd, fuel + 1, rest, _, hrest => by
      rw [render]
      exact readValue_intDigits hd hrest
  | .real _, hd, _, _, _, _ => by simp [Document.writable] at hd
  | .text none, hd, _, _, _, _ => by simp [Document.writable] at hd
  | .text (some s), _, fuel + 1, rest, _, _ => by
      simp [render, quoted?_some, readValue, skipSpace, isSpace, readText_quoted]
  | .list [], _, fuel + 1, rest, _, _ => by
      simp [render, renderItems, readValue, skipSpace, isSpace]
  | .list (d :: items), hd, fuel + 1, rest, hfuel, _ => by
      rw [render, List.length_cons] at hfuel
      have hitems := readItems_render (d :: items) hd (List.cons_ne_nil _ _) fuel rest
        (by omega)
      rw [Document.writable, Document.itemsWritable, Bool.and_eq_true] at hd
      obtain ⟨c, cs, hc, hstart⟩ := render_eq_cons hd.1
      rw [renderItems, hc] at hitems
      rw [render, renderItems, hc]
      exact readValue_bracket hstart hitems
  | .table [], _, fuel + 1, rest, _, _ => by
      simp [render, renderMembers, readValue, skipSpace, isSpace]
  | .table ((none, _) :: _), hd, _, _, _, _ => by
      simp [Document.writable, Document.membersWritable] at hd
  | .table ((some k, d) :: members), hd, fuel + 1, rest, hfuel, _ => by
      rw [render, List.length_cons] at hfuel
      have hmembers := readMembers_render ((some k, d) :: members) hd (List.cons_ne_nil _ _)
        fuel rest (by omega)
      rw [renderMembers, quoted?_some] at hmembers
      rw [render, renderMembers, quoted?_some]
      exact readValue_brace hmembers
  | d, hd, 0, _, hfuel, _ => by
      obtain ⟨c, cs, hc, -⟩ := render_eq_cons hd
      simp [hc] at hfuel

theorem readItems_render : ∀ (items : List Document), Document.itemsWritable items = true →
    items ≠ [] → ∀ (fuel : Nat) (rest : List Char), 2 * (renderItems items).length ≤ fuel →
      readItems fuel (renderItems items ++ rest) = some (items, rest)
  | [], _, hne, _, _, _ => absurd rfl hne
  | d :: items, hd, _, 0, _, hfuel => by
      rw [Document.itemsWritable, Bool.and_eq_true] at hd
      obtain ⟨c, cs, hc, -⟩ := render_eq_cons hd.1
      simp [renderItems, hc] at hfuel
  | [d], hd, _, fuel + 1, rest, hfuel => by
      rw [Document.itemsWritable, Bool.and_eq_true] at hd
      simp only [renderItems, renderMoreItems, List.length_append, List.length_singleton] at hfuel
      have hvalue := readValue_render d hd.1 fuel _ (by omega)
        (endsNumber_renderMoreItems [] rest)
      rw [renderItems, List.append_assoc, readItems, hvalue]
      simp [renderMoreItems, skipSpace, isSpace]
  | d :: d' :: items, hd, _, fuel + 1, rest, hfuel => by
      rw [Document.itemsWritable, Bool.and_eq_true] at hd
      simp only [renderItems, renderMoreItems, List.length_append, List.length_cons] at hfuel
      have hvalue := readValue_render d hd.1 fuel _ (by omega)
        (endsNumber_renderMoreItems (d' :: items) rest)
      have hmore := readItems_render (d' :: items) hd.2 (List.cons_ne_nil _ _) fuel rest
        (by simp only [renderItems, List.length_append]; omega)
      rw [renderItems, List.append_assoc] at hmore
      rw [renderItems, List.append_assoc, readItems, hvalue]
      simp [renderMoreItems, skipSpace, isSpace, hmore]

theorem readMembers_render : ∀ (members : List (Option String × Document)),
    Document.membersWritable members = true → members ≠ [] → ∀ (fuel : Nat) (rest : List Char),
      2 * (renderMembers members).length ≤ fuel →
        readMembers fuel (renderMembers members ++ rest) = some (members, rest)
  | [], _, hne, _, _, _ => absurd rfl hne
  | (none, _) :: _, hd, _, _, _, _ => by simp [Document.membersWritable] at hd
  | (some k, d) :: members, _, _, 0, _, hfuel => by
      simp [renderMembers] at hfuel
  | [(some k, d)], hd, _, fuel + 1, rest, hfuel => by
      simp only [Document.membersWritable, Bool.and_eq_true] at hd
      simp only [renderMembers, renderMoreMembers, List.length_append, List.length_cons] at hfuel
      have hvalue := readValue_render d hd.1.2 fuel _ (by omega)
        (endsNumber_renderMoreMembers [] rest)
      simp only [renderMoreMembers, List.cons_append, List.nil_append] at hvalue
      simp [renderMembers, renderMoreMembers, quoted?_some, readMembers, skipSpace, isSpace,
        readText_quoted, hvalue]
  | (some k, d) :: (k', d') :: members, hd, _, fuel + 1, rest, hfuel => by
      rw [Document.membersWritable, Bool.and_eq_true, Bool.and_eq_true] at hd
      simp only [renderMembers, renderMoreMembers, List.length_append, List.length_cons] at hfuel
      have hvalue := readValue_render d hd.1.2 fuel _ (by omega)
        (endsNumber_renderMoreMembers ((k', d') :: members) rest)
      have hmore := readMembers_render ((k', d') :: members) hd.2 (List.cons_ne_nil _ _)
        fuel rest (by
          simp only [renderMembers, List.length_append, List.length_cons]; omega)
      simp only [renderMoreMembers, List.cons_append, List.append_assoc] at hvalue
      simp only [renderMembers, List.append_assoc, List.cons_append] at hmore
      simp [renderMembers, renderMoreMembers, quoted?_some, readMembers, skipSpace, isSpace,
        readText_quoted, hvalue, hmore]

end

/-! ## Lines -/

theorem newline_not_mem_digits (n : Nat) : '\n' ∉ Text.digits n :=
  fun h => absurd (Text.digits_all n _ h) (by decide)

theorem newline_not_mem_intDigits (n : Int) : '\n' ∉ Text.intDigits n := by
  unfold Text.intDigits
  split <;> simp [newline_not_mem_digits]

theorem newline_not_mem_real (r : Real) : '\n' ∉ real r := by
  cases r with
  | finite d =>
      cases hsign : d.negative <;>
        simp [real, hsign, newline_not_mem_digits, newline_not_mem_intDigits]
  | _ => exact of_decide_eq_true rfl

theorem newline_not_mem_escaped (c : Char) : '\n' ∉ escaped c := by
  have hdigit : ∀ n < 16, '\n' ≠ hexDigit n := by decide
  unfold escaped
  repeat (split; · decide)
  next hnewline _ _ =>
  split
  · next hcontrol =>
    have hhigh := hdigit (c.toNat / 16) (by omega)
    have hlow := hdigit (c.toNat % 16) (by omega)
    simp [hhigh, hlow]
  · simpa using Ne.symm hnewline

theorem newline_not_mem_quoted? (s : Option String) : '\n' ∉ quoted? s := by
  cases s with
  | none => exact of_decide_eq_true rfl
  | some s => simp [quoted?_some, newline_not_mem_escaped]

mutual

/-- A document is written on one line. -/
theorem newline_not_mem_render : ∀ d : Document, '\n' ∉ render d
  | .null => of_decide_eq_true rfl
  | .bool b => by cases b <;> exact of_decide_eq_true rfl
  | .integer n => newline_not_mem_intDigits n
  | .real r => newline_not_mem_real r
  | .text s => newline_not_mem_quoted? s
  | .list items => by simp [render, newline_not_mem_renderItems items]
  | .table members => by simp [render, newline_not_mem_renderMembers members]

theorem newline_not_mem_renderItems : ∀ items : List Document, '\n' ∉ renderItems items
  | [] => by simp [renderItems]
  | d :: rest => by
      simp [renderItems, newline_not_mem_render d, newline_not_mem_renderMoreItems rest]

theorem newline_not_mem_renderMoreItems : ∀ items : List Document, '\n' ∉ renderMoreItems items
  | [] => by simp [renderMoreItems]
  | d :: rest => by
      simp [renderMoreItems, newline_not_mem_render d, newline_not_mem_renderMoreItems rest]

theorem newline_not_mem_renderMembers : ∀ members : List (Option String × Document),
    '\n' ∉ renderMembers members
  | [] => by simp [renderMembers]
  | (k, d) :: rest => by
      simp [renderMembers, newline_not_mem_quoted? k, newline_not_mem_render d,
        newline_not_mem_renderMoreMembers rest]

theorem newline_not_mem_renderMoreMembers : ∀ members : List (Option String × Document),
    '\n' ∉ renderMoreMembers members
  | [] => by simp [renderMoreMembers]
  | (k, d) :: rest => by
      simp [renderMoreMembers, newline_not_mem_quoted? k, newline_not_mem_render d,
        newline_not_mem_renderMoreMembers rest]

end

end Json

/-- A document is read back from its compact text. -/
theorem Document.ofJson?_json {d : Document} (hd : d.writable = true) :
    Document.ofJson? d.json = some d := by
  have hend : Json.EndsNumber [] := fun c hc => by simp at hc
  have hread := Json.readValue_render d hd (2 * (Json.render d).length + 2) [] (by omega) hend
  rw [List.append_nil] at hread
  simp [Document.ofJson?, Document.json, hread, Json.skipSpace]

/-- The compact text of a document is a single line. -/
theorem Document.newline_not_mem_json (d : Document) : '\n' ∉ d.json.toList := by
  rw [Document.json, String.toList_ofList]
  exact Json.newline_not_mem_render d

end GuildRelay
