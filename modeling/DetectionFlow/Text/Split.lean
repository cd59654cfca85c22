/-!
# Parts of a text

A text between the occurrences of a character.

Main statement: `splitAt` loses nothing but the separators (`intercalate_splitAt`).
-/

namespace DetectionFlow
namespace Text

/-- The parts of a text between the occurrences of a character. The empty text has one part. -/
def splitAt (sep : Char) : List Char → List (List Char)
  | [] => [[]]
  | c :: rest =>
    if c = sep then [] :: splitAt sep rest
    else match splitAt sep rest with
      | first :: more => (c :: first) :: more
      | [] => [[c]]

theorem splitAt_ne_nil (sep : Char) (cs : List Char) : splitAt sep cs ≠ [] := by
  cases cs with
  | nil => simp [splitAt]
  | cons c rest =>
    unfold splitAt
    split
    · simp
    · split <;> simp

/-- Joined by the separator, the parts are the text again. -/
theorem intercalate_splitAt (sep : Char) (cs : List Char) :
    [sep].intercalate (splitAt sep cs) = cs := by
  induction cs with
  | nil => simp [splitAt, List.intercalate]
  | cons c rest ih =>
    obtain ⟨first, more, h⟩ := List.exists_cons_of_ne_nil (splitAt_ne_nil sep rest)
    rw [h] at ih
    by_cases hc : c = sep
    · subst hc
      simp [splitAt, h, List.intercalate] at ih ⊢
      exact ih
    · cases more <;> simp_all [splitAt, List.intercalate, List.intersperse]

end Text
end DetectionFlow
