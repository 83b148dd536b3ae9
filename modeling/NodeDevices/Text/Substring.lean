/-! Texts within texts: where one occurs, and what a text becomes when each occurrence is
replaced.
-/

namespace NodeDevices.Text

/-- The text without its given start. -/
def dropStart? (start : List Char) (text : List Char) : Option (List Char) :=
  if start.isPrefixOf text then some (text.drop start.length) else none

/-- Says whether a text occurs in another. -/
def contains (part : List Char) : List Char → Bool
  | [] => part.isEmpty
  | c :: rest => part.isPrefixOf (c :: rest) || contains part rest

/-- Replaces a text, found from the left, within a text of which the first characters
belong to the last occurrence.
-/
def replaceFrom (part replacement : List Char) : Nat → List Char → List Char
  | _, [] => []
  | skip + 1, _ :: rest => replaceFrom part replacement skip rest
  | 0, c :: rest =>
      if part.isPrefixOf (c :: rest) then
        replacement ++ replaceFrom part replacement (part.length - 1) rest
      else c :: replaceFrom part replacement 0 rest

/-- Replaces every occurrence of a text that is not empty. -/
def replace (part replacement text : List Char) : List Char :=
  replaceFrom part replacement 0 text

end NodeDevices.Text
