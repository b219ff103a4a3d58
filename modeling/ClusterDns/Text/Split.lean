/-! Cutting a text at separators and putting it together again. -/

namespace ClusterDns.Text

/-- The pieces between separators. A text with `n` separators has `n + 1` pieces, empty ones
included. -/
def splitOn (isSeparator : Char → Bool) : List Char → List (List Char)
  | [] => [[]]
  | c :: rest =>
    if isSeparator c then [] :: splitOn isSeparator rest
    else
      match splitOn isSeparator rest with
      | [] => [[c]]
      | piece :: pieces => (c :: piece) :: pieces

theorem splitOn_ne_nil (p : Char → Bool) (s : List Char) : splitOn p s ≠ [] := by
  cases s with
  | nil => simp [splitOn]
  | cons c rest =>
    simp only [splitOn]
    split
    · simp
    · split <;> simp

/-- Cuts once, at the first separator, which belongs to neither side. -/
def cutAt (isSeparator : Char → Bool) (s : List Char) : List Char × Option (List Char) :=
  match s.dropWhile (!isSeparator ·) with
  | [] => (s, none)
  | _ :: rest => (s.takeWhile (!isSeparator ·), some rest)

end ClusterDns.Text
