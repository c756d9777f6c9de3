import GuildRelay.Text.Blank
/-!
# Words

`words` splits a text the way a shell does: blanks separate words, single quotes are literal, double
quotes group and allow escapes, and a backslash makes the next character plain.
-/

namespace GuildRelay.Command

open Text

/-- Why a text cannot be split into words. -/
inductive WordError where
  | unterminatedQuote (quote : Char)
  | trailingEscape
deriving DecidableEq, Repr

/-- What is reported for a text that cannot be split. -/
def WordError.message : WordError → String
  | unterminatedQuote quote => "unterminated " ++ String.singleton quote ++ " quote"
  | trailingEscape => "trailing backslash"

/-- Where the splitting stands: between quotes of one kind or outside of them. -/
inductive Quoting where
  | plain
  | single
  | double
deriving DecidableEq, Repr

/-- The words of a text. `word` holds the characters of the word begun before, last first, or
nothing between words. -/
def wordsFrom : Quoting → (word : Option (List Char)) → List Char →
    Except WordError (List (List Char))
  | .plain, word, [] => .ok (word.map List.reverse).toList
  | .plain, _, ['\\'] => .error .trailingEscape
  | .plain, word, '\\' :: c :: rest => wordsFrom .plain (some (c :: word.getD [])) rest
  | .plain, word, '\'' :: rest => wordsFrom .single (some (word.getD [])) rest
  | .plain, word, '"' :: rest => wordsFrom .double (some (word.getD [])) rest
  | .plain, word, c :: rest =>
    if isBlank c then
      match word with
      | some cs => (wordsFrom .plain none rest).map (cs.reverse :: ·)
      | none => wordsFrom .plain none rest
    else wordsFrom .plain (some (c :: word.getD [])) rest
  | .single, _, [] => .error (.unterminatedQuote '\'')
  | .single, word, '\'' :: rest => wordsFrom .plain word rest
  | .single, word, c :: rest => wordsFrom .single (some (c :: word.getD [])) rest
  | .double, _, [] => .error (.unterminatedQuote '"')
  | .double, word, '"' :: rest => wordsFrom .plain word rest
  | .double, _, ['\\'] => .error (.unterminatedQuote '"')
  | .double, word, '\\' :: c :: rest => wordsFrom .double (some (c :: word.getD [])) rest
  | .double, word, c :: rest => wordsFrom .double (some (c :: word.getD [])) rest

/-- The words of a text. -/
def words (s : String) : Except WordError (List String) :=
  (wordsFrom .plain none s.toList).map fun ws => ws.map String.ofList

end GuildRelay.Command
