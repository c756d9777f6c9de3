/-!
# Entries under texts

Lists of entries that are looked up by a text. Taking out the entries of one text leaves what is
found under any other.
-/

namespace GuildRelay.Entries

variable {α : Type}

/-- The entries that are not under a text. -/
def without (entries : List (String × α)) (key : String) : List (String × α) :=
  entries.filter fun entry => entry.1 != key

theorem lookup_without_ne {entries : List (String × α)} {k k' : String} (h : k' ≠ k) :
    (without entries k).lookup k' = entries.lookup k' := by
  induction entries with
  | nil => rfl
  | cons e rest ih =>
    obtain ⟨key, c⟩ := e
    simp only [without] at ih ⊢
    by_cases he : key = k
    · have hk : (k' == k) = false := by simpa using h
      simpa [he, List.lookup_cons, hk] using ih
    · simp [he, List.lookup_cons, ih]

theorem lookup_without_self (entries : List (String × α)) (k : String) :
    (without entries k).lookup k = none := by
  induction entries with
  | nil => rfl
  | cons e rest ih =>
    obtain ⟨key, c⟩ := e
    simp only [without] at ih ⊢
    by_cases he : key = k
    · simp [he, ih]
    · have hk : (k == key) = false := by simpa using Ne.symm he
      simp [he, List.lookup_cons, ih, hk]

end GuildRelay.Entries
