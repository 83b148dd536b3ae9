import NodeDevices.Text.Substring

/-! A text occurs in another when the other is made of it with something before and after it, and
starts it when the other is made of it with something after it.
-/

namespace NodeDevices.Text

theorem contains_iff_infix {part text : List Char}
    : contains part text = true ↔ part <:+: text := by
  induction text with
  | nil => simp [contains]
  | cons c rest ih =>
      rw [contains, Bool.or_eq_true, List.isPrefixOf_iff_prefix, ih]
      exact List.infix_cons_iff.symm

theorem dropStart?_eq_some_iff {start text rest : List Char}
    : dropStart? start text = some rest ↔ text = start ++ rest := by
  unfold dropStart?
  split
  · next starts =>
      obtain ⟨tail, rfl⟩ := List.isPrefixOf_iff_prefix.mp starts
      rw [List.drop_left, Option.some.injEq, List.append_cancel_left_eq]
  · next other =>
      constructor
      · intro found
        cases found
      · rintro rfl
        exact absurd (List.isPrefixOf_iff_prefix.mpr (List.prefix_append start rest)) other

end NodeDevices.Text
