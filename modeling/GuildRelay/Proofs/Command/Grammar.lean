import GuildRelay.Command.Words
import Mathlib.Data.List.Chain
import Mathlib.Data.List.Basic
/-!
# The grammar of a command line

A word is one or more pieces, a line is words with blanks between them and perhaps around them
(`Word`, `Line`), and a text is read in one of three ways (`Reads`): as the words of a line, as a
line that a lone backslash follows, or as a line that an open quote follows. `words_eq_iff_reads`
says that splitting a text and reading it by the grammar are the same thing, and that no text is
read in two ways.

Towards it, `wordsFrom_line` follows the splitting through a whole line whatever stands behind it,
and `exists_reads` builds a line from the front of a text, a piece or a blank at a time (`Front`).
-/

namespace GuildRelay.Command

open Text

/-!
## Pieces and words

The `text` of a piece is what is written, and its `value` is what it stands for.
-/

/-- A character that stands for itself where nothing quotes it. -/
def IsOrdinary (c : Char) : Prop :=
  isBlank c = false ∧ c ≠ '\\' ∧ c ≠ '\'' ∧ c ≠ '"'

/-- A character between double quotes, as it is or behind a backslash. -/
inductive QuotedChar where
  | literal (c : Char) (h : c ≠ '"' ∧ c ≠ '\\')
  | escaped (c : Char)

def QuotedChar.text : QuotedChar → List Char
  | literal c _ => [c]
  | escaped c => ['\\', c]

def QuotedChar.value : QuotedChar → Char
  | literal c _ => c
  | escaped c => c

/-- A part of a word that is written in one way. -/
inductive Piece where
  | ordinary (c : Char) (h : IsOrdinary c)
  | escaped (c : Char)
  | single (cs : List Char) (h : '\'' ∉ cs)
  | double (qs : List QuotedChar)

def Piece.text : Piece → List Char
  | ordinary c _ => [c]
  | escaped c => ['\\', c]
  | single cs _ => '\'' :: cs ++ ['\'']
  | double qs => '"' :: qs.flatMap QuotedChar.text ++ ['"']

def Piece.value : Piece → List Char
  | ordinary c _ => [c]
  | escaped c => [c]
  | single cs _ => cs
  | double qs => qs.map QuotedChar.value

/-- A word as it is written. -/
structure Word where
  pieces : List Piece
  ne_nil : pieces ≠ []

def Word.text (w : Word) : List Char :=
  w.pieces.flatMap Piece.text

def Word.value (w : Word) : List Char :=
  w.pieces.flatMap Piece.value

/-- The word that begins with one more piece. -/
def Word.cons (p : Piece) (w : Word) : Word :=
  ⟨p :: w.pieces, List.cons_ne_nil p w.pieces⟩

@[simp] theorem Word.text_cons (p : Piece) (w : Word) : (w.cons p).text = p.text ++ w.text := by
  simp [Word.text, Word.cons]

/-! ## Lines -/

/-- An item and the blanks behind it. -/
structure Spaced (α : Type) where
  item : α
  gap : List Char
  blank : ∀ c ∈ gap, isBlank c = true

/-- Items with blanks between them, and perhaps in front of the first and behind the last. -/
structure Layout (α : Type) where
  lead : List Char
  blank : ∀ c ∈ lead, isBlank c = true
  items : List (Spaced α)
  apart : items.IsChain fun x _ => x.gap ≠ []

/-- The items without their blanks. -/
def Layout.contents {α : Type} (l : Layout α) : List α :=
  l.items.map Spaced.item

/-- The text of a layout whose items are written so. -/
def Layout.text {α : Type} (write : α → List Char) (l : Layout α) : List Char :=
  l.lead ++ l.items.flatMap fun x => write x.item ++ x.gap

/-- Words with blanks around them. -/
abbrev Line := Layout Word

/-- What the words of a line stand for. -/
def Line.values (l : Line) : List String :=
  l.contents.map fun w => String.ofList w.value

/-- What follows an opening quote when nothing closes it. Between double quotes a lone backslash
may end it. -/
inductive Unclosed : Char → List Char → Prop
  | single {cs : List Char} (h : '\'' ∉ cs) : Unclosed '\'' cs
  | double (qs : List QuotedChar) {tail : List Char} (h : tail = [] ∨ tail = ['\\']) :
      Unclosed '"' (qs.flatMap QuotedChar.text ++ tail)

/-- The ways a text is read, with what it is read as. -/
inductive Reads : List Char → Except WordError (List String) → Prop
  | line (l : Line) : Reads (l.text Word.text) (.ok l.values)
  | trailingEscape (l : Line) : Reads (l.text Word.text ++ ['\\']) (.error .trailingEscape)
  | unterminatedQuote (l : Line) {q : Char} {body : List Char} (h : Unclosed q body) :
      Reads (l.text Word.text ++ q :: body) (.error (.unterminatedQuote q))

/-! ## Splitting what the grammar writes -/

section Splitting

variable (word : Option (List Char)) (rest : List Char)

theorem wordsFrom_ordinary {c : Char} (h : IsOrdinary c) :
    wordsFrom .plain word (c :: rest) = wordsFrom .plain (some (c :: word.getD [])) rest := by
  obtain ⟨blank, escape, single, double⟩ := h
  rw [wordsFrom.eq_def]
  split <;> simp_all

theorem wordsFrom_blank {c : Char} (h : isBlank c = true) :
    wordsFrom .plain none (c :: rest) = wordsFrom .plain none rest ∧
      ∀ cs, wordsFrom .plain (some cs) (c :: rest) =
        (wordsFrom .plain none rest).map (cs.reverse :: ·) := by
  have escape : c ≠ '\\' := by rintro rfl; revert h; decide
  have single : c ≠ '\'' := by rintro rfl; revert h; decide
  have double : c ≠ '"' := by rintro rfl; revert h; decide
  constructor
  · rw [wordsFrom.eq_def]
    split <;> simp_all
  · intro cs
    rw [wordsFrom.eq_def]
    split <;> simp_all

theorem wordsFrom_inSingle {c : Char} (h : c ≠ '\'') :
    wordsFrom .single word (c :: rest) = wordsFrom .single (some (c :: word.getD [])) rest := by
  rw [wordsFrom.eq_def]
  split <;> simp_all

theorem wordsFrom_inDouble (q : QuotedChar) :
    wordsFrom .double word (q.text ++ rest) =
      wordsFrom .double (some (q.value :: word.getD [])) rest := by
  cases q with
  | literal c h =>
    obtain ⟨quote, escape⟩ := h
    show wordsFrom .double word (c :: rest) = wordsFrom .double (some (c :: word.getD [])) rest
    rw [wordsFrom.eq_def]
    split <;> simp_all
  | escaped c => rfl

theorem wordsFrom_blanks {blanks : List Char} (h : ∀ c ∈ blanks, isBlank c = true) :
    wordsFrom .plain none (blanks ++ rest) = wordsFrom .plain none rest := by
  induction blanks with
  | nil => rfl
  | cons c blanks ih =>
    rw [List.cons_append, (wordsFrom_blank _ (h c (by simp))).1]
    exact ih fun d hd => h d (List.mem_cons_of_mem c hd)

/-- Blanks end the word before them. -/
theorem wordsFrom_gap {blanks : List Char} (h : ∀ c ∈ blanks, isBlank c = true)
    (hne : blanks ≠ []) (cs : List Char) :
    wordsFrom .plain (some cs) (blanks ++ rest) =
      (wordsFrom .plain none rest).map (cs.reverse :: ·) := by
  cases blanks with
  | nil => exact absurd rfl hne
  | cons c blanks =>
    rw [List.cons_append, (wordsFrom_blank _ (h c (by simp))).2,
      wordsFrom_blanks rest fun d hd => h d (List.mem_cons_of_mem c hd)]

theorem wordsFrom_single {cs : List Char} (begun : List Char) (h : '\'' ∉ cs) :
    wordsFrom .single (some begun) (cs ++ rest) =
      wordsFrom .single (some (cs.reverse ++ begun)) rest := by
  induction cs generalizing begun with
  | nil => rfl
  | cons c cs ih =>
    obtain ⟨hc, hcs⟩ : '\'' ≠ c ∧ '\'' ∉ cs := by simpa using h
    rw [List.cons_append, wordsFrom_inSingle _ _ hc.symm, Option.getD_some, ih _ hcs]
    simp

theorem wordsFrom_double (qs : List QuotedChar) (begun : List Char) :
    wordsFrom .double (some begun) (qs.flatMap QuotedChar.text ++ rest) =
      wordsFrom .double (some ((qs.map QuotedChar.value).reverse ++ begun)) rest := by
  induction qs generalizing begun with
  | nil => rfl
  | cons q qs ih =>
    rw [List.flatMap_cons, List.append_assoc, wordsFrom_inDouble, Option.getD_some, ih]
    simp

/-- A piece begins a word or goes on with the one begun. -/
theorem wordsFrom_piece (p : Piece) :
    wordsFrom .plain word (p.text ++ rest) =
      wordsFrom .plain (some (p.value.reverse ++ word.getD [])) rest := by
  cases p with
  | ordinary c h => exact wordsFrom_ordinary word rest h
  | escaped c => rfl
  | single cs h =>
    show wordsFrom .single (some (word.getD [])) ((cs ++ ['\'']) ++ rest) = _
    rw [List.append_assoc, wordsFrom_single _ _ h]
    rfl
  | double qs =>
    show wordsFrom .double (some (word.getD [])) ((qs.flatMap QuotedChar.text ++ ['"']) ++ rest) = _
    rw [List.append_assoc, wordsFrom_double]
    rfl

theorem wordsFrom_pieces (ps : List Piece) (begun : List Char) :
    wordsFrom .plain (some begun) (ps.flatMap Piece.text ++ rest) =
      wordsFrom .plain (some ((ps.flatMap Piece.value).reverse ++ begun)) rest := by
  induction ps generalizing begun with
  | nil => rfl
  | cons p ps ih => simp [wordsFrom_piece, ih]

theorem wordsFrom_word (w : Word) :
    wordsFrom .plain none (w.text ++ rest) = wordsFrom .plain (some w.value.reverse) rest := by
  obtain ⟨pieces, h⟩ := w
  cases pieces with
  | nil => exact absurd rfl h
  | cons p ps => simp [Word.text, Word.value, wordsFrom_piece, wordsFrom_pieces]

/-- Behind a line some words are done, and the last one may still be open. -/
theorem wordsFrom_line (l : Line) : ∃ (done : List (List Char)) (begun : Option (List Char)),
    done ++ (begun.map List.reverse).toList = l.contents.map Word.value ∧
      ∀ rest, wordsFrom .plain none (l.text Word.text ++ rest) =
        (wordsFrom .plain begun rest).map (done ++ ·) := by
  obtain ⟨lead, blank, items, apart⟩ := l
  simp only [Layout.contents, Layout.text, List.append_assoc, wordsFrom_blanks _ blank]
  clear blank lead
  induction items with
  | nil =>
    refine ⟨[], none, rfl, fun rest => ?_⟩
    rw [List.flatMap_nil, List.nil_append]
    cases wordsFrom .plain none rest <;> rfl
  | cons x xs ih =>
    obtain ⟨next, apart⟩ := List.isChain_cons.mp apart
    by_cases hgap : x.gap = []
    · -- No blank ends the word, so it is the last one and still open.
      have hxs : xs = [] := by
        cases xs with
        | nil => rfl
        | cons y ys => exact absurd hgap (next y (by simp))
      subst hxs
      refine ⟨[], some x.item.value.reverse, by simp, fun rest => ?_⟩
      simp only [List.flatMap_cons, List.flatMap_nil, hgap, List.append_nil, wordsFrom_word]
      cases wordsFrom .plain (some x.item.value.reverse) rest <;> rfl
    · obtain ⟨done, begun, hvalues, hrest⟩ := ih apart
      refine ⟨x.item.value :: done, begun, by simpa using hvalues, fun rest => ?_⟩
      simp only [List.flatMap_cons, List.append_assoc, wordsFrom_word,
        wordsFrom_gap _ x.blank hgap, hrest]
      cases wordsFrom .plain begun rest <;> simp [Except.map]

end Splitting

/-- A quote that nothing closes is an error. -/
theorem Unclosed.wordsFrom_eq {q : Char} {body : List Char} (h : Unclosed q body)
    (word : Option (List Char)) :
    wordsFrom .plain word (q :: body) = .error (.unterminatedQuote q) := by
  cases h with
  | single h =>
    show wordsFrom .single (some (word.getD [])) body = _
    rw [← List.append_nil body, wordsFrom_single _ _ h]
    rfl
  | @double qs tail h =>
    show wordsFrom .double (some (word.getD [])) (qs.flatMap QuotedChar.text ++ tail) = _
    rw [wordsFrom_double]
    rcases h with rfl | rfl <;> rfl

/-- Splitting a text that can be read gives what it is read as. -/
theorem Reads.words_eq {s : String} {r : Except WordError (List String)}
    (h : Reads s.toList r) : words s = r := by
  generalize hs : s.toList = cs at h
  unfold words
  rw [hs]
  cases h with
  | line l =>
    obtain ⟨done, begun, hvalues, hrest⟩ := wordsFrom_line l
    rw [← List.append_nil (l.text Word.text), hrest]
    show Except.ok ((done ++ (begun.map List.reverse).toList).map String.ofList) = _
    rw [hvalues, List.map_map]
    rfl
  | trailingEscape l =>
    obtain ⟨done, begun, -, hrest⟩ := wordsFrom_line l
    rw [hrest]
    rfl
  | unterminatedQuote l h =>
    obtain ⟨done, begun, -, hrest⟩ := wordsFrom_line l
    rw [hrest, h.wordsFrom_eq]
    rfl

/-! ## Every text can be read -/

/-- The line of no words. -/
def Line.empty : Line :=
  ⟨[], by simp, [], .nil⟩

theorem Line.exists_consBlank {c : Char} (h : isBlank c = true) (l : Line) :
    ∃ l' : Line, l'.text Word.text = [c] ++ l.text Word.text := by
  refine ⟨⟨c :: l.lead, fun d hd => ?_, l.items, l.apart⟩, rfl⟩
  rcases List.mem_cons.mp hd with rfl | hd
  · exact h
  · exact l.blank d hd

/-- A piece in front of a line belongs to the first word if no blank stands between, and is a word
of its own otherwise. -/
theorem Line.exists_consPiece (p : Piece) (l : Line) :
    ∃ l' : Line, l'.text Word.text = p.text ++ l.text Word.text := by
  obtain ⟨lead, blank, items, apart⟩ := l
  by_cases hword : lead = [] ∧ items ≠ []
  · obtain ⟨rfl, hne⟩ := hword
    obtain ⟨x, xs, rfl⟩ := List.exists_cons_of_ne_nil hne
    have chain := List.isChain_cons.mp apart
    refine ⟨⟨[], blank, { x with item := x.item.cons p } :: xs, List.isChain_cons.mpr chain⟩, ?_⟩
    simp [Layout.text]
  · have chain : List.IsChain (fun x _ => x.gap ≠ [])
        ((⟨⟨[p], List.cons_ne_nil p []⟩, lead, blank⟩ : Spaced Word) :: items) := by
      refine List.isChain_cons.mpr ⟨fun y hy hlead => hword ⟨hlead, ?_⟩, apart⟩
      rintro rfl
      simp at hy
    exact ⟨⟨[], by simp, _, chain⟩, by simp [Layout.text, Word.text]⟩

/-- What can stand in front of a line can stand in front of all that is read. -/
theorem Reads.exists_append {front cs : List Char} {r : Except WordError (List String)}
    (h : Reads cs r)
    (hfront : ∀ l : Line, ∃ l' : Line, l'.text Word.text = front ++ l.text Word.text) :
    ∃ r', Reads (front ++ cs) r' := by
  cases h with
  | line l =>
    obtain ⟨l', hl'⟩ := hfront l
    rw [← hl']
    exact ⟨_, .line l'⟩
  | trailingEscape l =>
    obtain ⟨l', hl'⟩ := hfront l
    rw [← List.append_assoc, ← hl']
    exact ⟨_, .trailingEscape l'⟩
  | unterminatedQuote l h =>
    obtain ⟨l', hl'⟩ := hfront l
    rw [← List.append_assoc, ← hl']
    exact ⟨_, .unterminatedQuote l' h⟩

/-- A double quote closes the text between quotes that was begun before `cs`. -/
def Closed (cs : List Char) : Prop :=
  ∃ (qs : List QuotedChar) (rest : List Char), cs = qs.flatMap QuotedChar.text ++ '"' :: rest

theorem closed_or_unclosed_append (q : QuotedChar) {cs : List Char}
    (h : Closed cs ∨ Unclosed '"' cs) : Closed (q.text ++ cs) ∨ Unclosed '"' (q.text ++ cs) := by
  rcases h with ⟨qs, rest, rfl⟩ | h
  · exact .inl ⟨q :: qs, rest, by simp⟩
  · cases h with
    | double qs h =>
      have unclosed := Unclosed.double (q :: qs) h
      rw [List.flatMap_cons, List.append_assoc] at unclosed
      exact .inr unclosed

theorem closed_or_unclosed : ∀ cs : List Char, Closed cs ∨ Unclosed '"' cs
  | [] => .inr (.double [] (.inl rfl))
  | c :: cs => by
    by_cases quote : c = '"'
    · subst quote
      exact .inl ⟨[], cs, rfl⟩
    by_cases escape : c = '\\'
    · subst escape
      cases cs with
      | nil => exact .inr (.double [] (.inr rfl))
      | cons d cs => exact closed_or_unclosed_append (.escaped d) (closed_or_unclosed cs)
    · exact closed_or_unclosed_append (.literal c ⟨quote, escape⟩) (closed_or_unclosed cs)

/-- What stands at the front of a text. -/
inductive Front : List Char → Prop
  | nil : Front []
  | escape : Front ['\\']
  | quote {q : Char} {body : List Char} (h : Unclosed q body) : Front (q :: body)
  | blank {c : Char} (h : isBlank c = true) (rest : List Char) : Front (c :: rest)
  | piece (p : Piece) (rest : List Char) : Front (p.text ++ rest)

theorem front_single (cs : List Char) : Front ('\'' :: cs) := by
  by_cases closed : '\'' ∈ cs
  · obtain ⟨inner, rest, rfl, h⟩ := List.eq_append_cons_of_mem closed
    have piece := Front.piece (.single inner h) rest
    simpa [Piece.text] using piece
  · exact .quote (.single closed)

theorem front_double (cs : List Char) : Front ('"' :: cs) := by
  rcases closed_or_unclosed cs with ⟨qs, rest, rfl⟩ | unclosed
  · have piece := Front.piece (.double qs) rest
    simpa [Piece.text] using piece
  · exact .quote unclosed

theorem front : ∀ cs : List Char, Front cs
  | [] => .nil
  | c :: cs => by
    by_cases blank : isBlank c = true
    · exact .blank blank cs
    by_cases escape : c = '\\'
    · subst escape
      cases cs with
      | nil => exact .escape
      | cons d cs => exact .piece (.escaped d) cs
    by_cases single : c = '\''
    · subst single
      exact front_single cs
    by_cases double : c = '"'
    · subst double
      exact front_double cs
    · exact .piece (.ordinary c ⟨by simpa using blank, escape, single, double⟩) cs

theorem Piece.text_ne_nil (p : Piece) : p.text ≠ [] := by
  cases p <;> simp [Piece.text]

/-- The grammar reads every text. -/
theorem exists_reads (cs : List Char) : ∃ r, Reads cs r := by
  -- A blank or a piece is taken off the front, and the rest is shorter.
  induction hn : cs.length using Nat.strong_induction_on generalizing cs with
  | _ n ih =>
    subst hn
    cases front cs with
    | nil => exact ⟨_, .line Line.empty⟩
    | escape => exact ⟨_, .trailingEscape Line.empty⟩
    | quote h => exact ⟨_, .unterminatedQuote Line.empty h⟩
    | blank h rest =>
      obtain ⟨r, hr⟩ := ih rest.length (by simp) rest rfl
      exact hr.exists_append (Line.exists_consBlank h)
    | piece p rest =>
      have shorter : rest.length < (p.text ++ rest).length := by
        have := List.length_pos_of_ne_nil p.text_ne_nil
        rw [List.length_append]
        omega
      obtain ⟨r, hr⟩ := ih rest.length shorter rest rfl
      exact hr.exists_append (Line.exists_consPiece p)

/-! ## The grammar -/

/-- Splitting a text gives what the grammar reads it as, and the grammar reads it in one way. -/
theorem words_eq_iff_reads (s : String) :
    (∃! r, Reads s.toList r) ∧ ∀ r, words s = r ↔ Reads s.toList r := by
  have reads : Reads s.toList (words s) := by
    obtain ⟨r, h⟩ := exists_reads s.toList
    rwa [h.words_eq]
  refine ⟨⟨words s, reads, fun r h => h.words_eq.symm⟩, fun r => ⟨?_, Reads.words_eq⟩⟩
  rintro rfl
  exact reads

example : words " a\"b c\"d '' e\\ f" = .ok ["ab cd", "", "e f"] := rfl

end GuildRelay.Command
