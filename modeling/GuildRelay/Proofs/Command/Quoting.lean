import GuildRelay.Proofs.Command.Grammar
import Mathlib.Data.Set.List
/-!
# Writing words so that they are read back

Every word can be written in one of four ways, each with the words it is good for
(`QuotingStyle.Fits`). `words_written` says that words written so and laid out with blanks are read
back as they are, whatever they hold and however the ways are mixed, and that every list of words
can be laid out.

A word written in any of the ways is a word of the grammar with the same text
(`QuotingStyle.exists_word`), so a layout of quoted words is a line.
-/

namespace GuildRelay.Command

open Text

/-- How a word is written: between double or single quotes, with a backslash before every
character, or as it is. -/
inductive QuotingStyle where
  | double
  | single
  | escaped
  | bare
deriving DecidableEq, Repr

namespace QuotingStyle

/-- The words that can be written in this way. -/
def Fits : QuotingStyle → List Char → Prop
  | double, _ => True
  | single, cs => '\'' ∉ cs
  | escaped, cs => cs ≠ []
  | bare, cs => cs ≠ [] ∧ ∀ c ∈ cs, IsOrdinary c

/-- A character between double quotes, behind a backslash if it is a quote or a backslash. -/
def guarded (c : Char) : List Char :=
  if c = '"' ∨ c = '\\' then ['\\', c] else [c]

/-- The word written in this way. -/
def write : QuotingStyle → List Char → List Char
  | double, cs => '"' :: cs.flatMap guarded ++ ['"']
  | single, cs => '\'' :: cs ++ ['\'']
  | escaped, cs => cs.flatMap fun c => ['\\', c]
  | bare, cs => cs

theorem exists_quotedChar (c : Char) :
    ∃ q : QuotedChar, q.text = guarded c ∧ q.value = c := by
  by_cases h : c = '"' ∨ c = '\\'
  · exact ⟨.escaped c, by simp [QuotedChar.text, guarded, h], rfl⟩
  · exact ⟨.literal c (not_or.mp h), by simp [QuotedChar.text, guarded, h], rfl⟩

/-- What is written is a word of the grammar that stands for the same characters. -/
theorem exists_word {style : QuotingStyle} {cs : List Char} (h : style.Fits cs) :
    ∃ w : Word, w.text = style.write cs ∧ w.value = cs := by
  cases style with
  | double =>
    choose quoted text value using exists_quotedChar
    refine ⟨⟨[.double (cs.map quoted)], by simp⟩, ?_, ?_⟩
    · simp [Word.text, Piece.text, write, List.flatMap_map, text]
    · simp [Word.value, Piece.value, Function.comp_def, value]
  | single =>
    exact ⟨⟨[.single cs h], by simp⟩, by simp [Word.text, Piece.text, write],
      by simp [Word.value, Piece.value]⟩
  | escaped =>
    refine ⟨⟨cs.map .escaped, List.map_eq_nil_iff.not.mpr h⟩, ?_, ?_⟩
    · simp [Word.text, Piece.text, write, List.flatMap_map]
    · simp [Word.value, Piece.value, List.flatMap_map]
  | bare =>
    obtain ⟨hne, ordinary⟩ := h
    lift cs to List {c // IsOrdinary c} using ordinary
    have pieces : cs.map (fun c => Piece.ordinary c.1 c.2) ≠ [] := by
      intro h
      rw [List.map_eq_nil_iff] at h
      exact hne (by rw [h, List.map_nil])
    refine ⟨⟨_, pieces⟩, ?_, ?_⟩
    · simp [Word.text, Piece.text, write, List.flatMap_map]
    · simp [Word.value, Piece.value, List.flatMap_map]

end QuotingStyle

/-- A word and a way to write it. -/
structure QuotedWord where
  value : String
  style : QuotingStyle
  fits : style.Fits value.toList

/-- The word as it is written. -/
def QuotedWord.text (w : QuotedWord) : List Char :=
  w.style.write w.value.toList

/-! ## Layouts -/

namespace Layout

variable {α β : Type}

/-- The layout of other items with the same blanks. -/
def map (f : α → β) (l : Layout α) : Layout β where
  lead := l.lead
  blank := l.blank
  items := l.items.map fun x => { x with item := f x.item }
  apart := (List.isChain_map _).mpr l.apart

theorem text_map (f : α → β) (write : β → List Char) (l : Layout α) :
    (l.map f).text write = l.text (write ∘ f) := by
  simp [text, map, List.flatMap_map]

theorem contents_map (f : α → β) (l : Layout α) : (l.map f).contents = l.contents.map f := by
  simp [contents, map]

/-- Any items can be laid out. -/
theorem exists_contents (xs : List α) : ∃ l : Layout α, l.contents = xs := by
  have blank : ∀ c ∈ [' '], isBlank c = true := by
    intro c hc
    rw [List.mem_singleton.mp hc]
    rfl
  have apart : (xs.map fun x => (⟨x, [' '], blank⟩ : Spaced α)).IsChain
      fun x _ => x.gap ≠ [] := by
    induction xs with
    | nil => exact .nil
    | cons x xs ih => exact List.isChain_cons.mpr ⟨fun _ _ => by simp, ih⟩
  exact ⟨⟨[], by simp, _, apart⟩, by simp [contents, Function.comp_def]⟩

end Layout

/-- Words that are quoted and laid out are read back, and all words can be. -/
theorem words_written :
    (∀ l : Layout QuotedWord, words (String.ofList (l.text QuotedWord.text)) =
      .ok (l.contents.map QuotedWord.value)) ∧
    ∀ ws : List String, ∃ l : Layout QuotedWord, l.contents.map QuotedWord.value = ws := by
  constructor
  · intro l
    choose word text value using fun w : QuotedWord => QuotingStyle.exists_word w.fits
    have line : (l.map word).text Word.text = l.text QuotedWord.text := by
      rw [Layout.text_map]
      congr 1
      funext w
      exact text w
    have values : Line.values (l.map word) = l.contents.map QuotedWord.value := by
      simp [Line.values, Layout.contents_map, value]
    have reads := Reads.line (l.map word)
    rw [line, values] at reads
    exact Reads.words_eq (by simpa using reads)
  · intro ws
    obtain ⟨l, hl⟩ := Layout.exists_contents
      (ws.map fun w => (⟨w, .double, trivial⟩ : QuotedWord))
    exact ⟨l, by simp [hl, Function.comp_def]⟩

end GuildRelay.Command
