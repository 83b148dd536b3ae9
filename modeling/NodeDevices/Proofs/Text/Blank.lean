import Mathlib.Data.List.DropRight
import NodeDevices.Text.Blank

/-! What is left of a text when the characters of a class are dropped from its end. -/

namespace NodeDevices.Text

variable {class? : Char → Bool}

/-- What is dropped from the end of a text is part of its second half, unless that is all dropped.
-/
theorem dropEndWhile_append (first second : List Char)
    : dropEndWhile class? (first ++ second)
      = if dropEndWhile class? second = [] then dropEndWhile class? first
        else first ++ dropEndWhile class? second := by
  rw [dropEndWhile, List.reverse_append, List.dropWhile_append]
  simp only [List.isEmpty_iff, dropEndWhile, List.reverse_eq_nil_iff]
  split
  · rfl
  · rw [List.reverse_append, List.reverse_reverse]

theorem dropEndWhile_concat (text : List Char) (c : Char)
    : dropEndWhile class? (text ++ [c])
      = if class? c then dropEndWhile class? text else text ++ [c] :=
  List.rdropWhile_concat class? text c

theorem dropEndWhile_eq_self_iff {text : List Char}
    : dropEndWhile class? text = text ↔ ∀ c ∈ text.getLast?, class? c = false := by
  refine (List.rdropWhile_eq_self_iff (p := class?) (l := text)).trans ?_
  cases text using List.reverseRecOn with
  | nil => simp
  | append_singleton start last => simp

theorem getLast?_dropEndWhile {text : List Char} {c : Char}
    (last : c ∈ (dropEndWhile class? text).getLast?)
    : class? c = false :=
  dropEndWhile_eq_self_iff.mp (List.rdropWhile_idempotent class? text) c last

theorem length_dropEndWhile_le (class? : Char → Bool) (text : List Char)
    : (dropEndWhile class? text).length ≤ text.length :=
  (List.rdropWhile_prefix class? text).length_le

theorem mem_of_mem_dropEndWhile {text : List Char} {c : Char}
    (member : c ∈ dropEndWhile class? text)
    : c ∈ text :=
  (List.rdropWhile_prefix class? text).subset member

end NodeDevices.Text
