/-!
# Leads

`dropLead?` takes a given beginning off a text. `dropLead?_eq_some_iff` says that it does so exactly
when the text starts with it.
-/

namespace GuildRelay.Text

/-- The text after a given beginning, if it starts with it. -/
def dropLead? : (lead cs : List Char) → Option (List Char)
  | [], cs => some cs
  | l :: lead, c :: cs => if l = c then dropLead? lead cs else none
  | _ :: _, [] => none

theorem dropLead?_eq_some_iff {lead cs rest : List Char} :
    dropLead? lead cs = some rest ↔ cs = lead ++ rest := by
  induction lead generalizing cs with
  | nil => simp [dropLead?]
  | cons l lead ih =>
    cases cs with
    | nil => simp [dropLead?]
    | cons c cs =>
      by_cases h : l = c
      · simp [dropLead?, h, ih]
      · simp [dropLead?, h, Ne.symm h]

/-- The text starts with a given beginning. -/
def startsWith (lead cs : List Char) : Bool :=
  (dropLead? lead cs).isSome

end GuildRelay.Text
