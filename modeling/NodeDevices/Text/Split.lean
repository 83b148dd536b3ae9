/-! Texts in parts that a mark separates. Splitting a text and joining its parts again gives
the text back.
-/

namespace NodeDevices.Text

/-- The parts of a text between the marks in it, of which there is one more than marks. -/
def splitOn (mark : Char) : List Char → List (List Char)
  | [] => [[]]
  | c :: rest =>
      if c = mark then [] :: splitOn mark rest
      else
        match splitOn mark rest with
        | part :: parts => (c :: part) :: parts
        | [] => [[c]]

/-- The parts joined by a mark. -/
def joinWith (mark : Char) : List (List Char) → List Char
  | [] => []
  | [part] => part
  | part :: parts => part ++ mark :: joinWith mark parts

theorem splitOn_ne_nil (mark : Char) (text : List Char)
    : splitOn mark text ≠ [] := by
  cases text with
  | nil => simp [splitOn]
  | cons c rest =>
      rw [splitOn]
      split
      · simp
      · split <;> simp

theorem joinWith_splitOn (mark : Char) (text : List Char)
    : joinWith mark (splitOn mark text) = text := by
  induction text with
  | nil => rfl
  | cons c rest ih =>
      have some_part := splitOn_ne_nil mark rest
      cases hs : splitOn mark rest with
      | nil => exact absurd hs some_part
      | cons part parts =>
          rw [hs] at ih
          by_cases h : c = mark
          · simp [splitOn, h, hs, joinWith, ih]
          · cases parts with
            | nil => simp_all [splitOn, joinWith]
            | cons next later => simp_all [splitOn, joinWith]

end NodeDevices.Text
