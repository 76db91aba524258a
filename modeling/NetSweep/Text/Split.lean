/-!
# Splitting

A text as the parts between its separators.
-/

namespace NetSweep.Text

/-- The parts of a text between separators; a text without a separator is its only part. -/
def splitAt (isSeparator : Char → Bool) : List Char → List (List Char)
  | [] => [[]]
  | c :: rest =>
    if isSeparator c then [] :: splitAt isSeparator rest
    else
      match splitAt isSeparator rest with
      | part :: parts => (c :: part) :: parts
      | [] => [[c]]

theorem splitAt_ne_nil (isSeparator : Char → Bool) (cs : List Char) :
    splitAt isSeparator cs ≠ [] := by
  induction cs with
  | nil => simp [splitAt]
  | cons c rest ih =>
    unfold splitAt
    split
    · simp
    · split <;> simp

end NetSweep.Text
