/-! Characters that count as blank, and the trimming of text at them. The class is the
Unicode property `White_Space`, which is wider than the four blanks of a JSON document.
-/

namespace NodeDevices.Text

/-- Says whether a character has the property `White_Space`. -/
def isBlank (c : Char) : Bool :=
  let code := c.toNat
  (9 ≤ code && code ≤ 13) || code = 0x20 || code = 0x85 || code = 0xA0 || code = 0x1680
    || (0x2000 ≤ code && code ≤ 0x200A) || code = 0x2028 || code = 0x2029 || code = 0x202F
    || code = 0x205F || code = 0x3000

/-- Drops the blanks that a text starts with. -/
def dropBlank (text : List Char) : List Char :=
  text.dropWhile isBlank

/-- Drops the characters of a class from the end of a text. -/
def dropEndWhile (class? : Char → Bool) (text : List Char) : List Char :=
  (text.reverse.dropWhile class?).reverse

/-- Removes the blanks at both ends of a text. -/
def trim (text : String) : String :=
  String.ofList (dropEndWhile isBlank (dropBlank text.toList))

/-- Core's blanks are all in the class. -/
theorem isBlank_of_isWhitespace {c : Char} (h : c.isWhitespace)
    : isBlank c := by
  simp only [Char.isWhitespace, Bool.or_eq_true, decide_eq_true_eq] at h
  rcases h with ((rfl | rfl) | rfl) | rfl <;> decide

end NodeDevices.Text
