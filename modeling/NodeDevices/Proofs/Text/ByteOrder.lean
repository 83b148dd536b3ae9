import Mathlib.Tactic.SplitIfs

/-! The order of texts by their characters is the order of their UTF-8 bytes: the bytes of a
lesser character are less than those of a greater one, whatever follows either of them.
-/

namespace NodeDevices.Text

/-- The UTF-8 bytes of a text. -/
def bytes (s : String) : List UInt8 :=
  s.toUTF8.data.toList

theorem bytes_eq_flatMap (s : String) : bytes s = s.toList.flatMap String.utf8EncodeChar := by
  rw [bytes, String.toUTF8_eq_toByteArray, ← String.utf8Encode_toList, List.utf8Encode,
    List.data_toByteArray]

/-- A lesser character decides the order of bytes, before anything that comes after it. -/
theorem utf8EncodeChar_append_lt {c d : Char} (less : c < d) (left right : List UInt8)
    : String.utf8EncodeChar c ++ left < String.utf8EncodeChar d ++ right := by
  have values : c.val.toNat < d.val.toNat := less
  have bound : d.val.toNat < 0x110000 := by
    rcases d.valid with small | ⟨_, large⟩
    · exact Nat.lt_trans small (by decide)
    · exact large
  have digits (n : Nat) : n / 4096 = n / 64 / 64 ∧ n / 262144 = n / 64 / 64 / 64 := by
    simp [Nat.div_div_eq_div_mul]
  have fits (n : Nat) : (n % 64 + 128) % 256 = n % 64 + 128 := by omega
  simp only [String.utf8EncodeChar]
  -- of as many bytes the first digit to the base 64 that differs decides
  split_ifs <;>
    simp only [List.cons_append, List.nil_append, List.cons_lt_cons_iff, UInt8.lt_iff_toNat_lt,
      ← UInt8.toNat_inj, UInt8.toNat_ofNat', Nat.reducePow, fits, digits] <;>
    omega

theorem utf8EncodeChar_ne_nil (c : Char) : String.utf8EncodeChar c ≠ [] := by
  simp only [String.utf8EncodeChar]
  split_ifs <;> simp

/-- The bytes of characters are in order as the characters are. -/
theorem flatMap_utf8EncodeChar_lt {left right : List Char} (less : left < right)
    : left.flatMap String.utf8EncodeChar < right.flatMap String.utf8EncodeChar := by
  induction left generalizing right with
  | nil =>
      cases right with
      | nil => exact absurd less (List.lt_irrefl _)
      | cons d rest =>
          obtain ⟨first, others, shown⟩ :=
            List.exists_cons_of_ne_nil (utf8EncodeChar_ne_nil d)
          rw [List.flatMap_nil, List.flatMap_cons, shown]
          exact List.nil_lt_cons _ _
  | cons c head ih =>
      cases right with
      | nil => exact absurd less (List.not_lt_nil _)
      | cons d rest =>
          rw [List.flatMap_cons, List.flatMap_cons]
          rcases List.cons_lt_cons_iff.mp less with first | ⟨rfl, later⟩
          · exact utf8EncodeChar_append_lt first _ _
          · exact List.append_left_lt (ih later)

theorem bytes_lt {s t : String} (less : s < t) : bytes s < bytes t := by
  rw [bytes_eq_flatMap, bytes_eq_flatMap]
  exact flatMap_utf8EncodeChar_lt less

end NodeDevices.Text
