import Mathlib.Algebra.Group.Nat.Defs
import Mathlib.Data.List.Induction
import NodeDevices.Text.Decimal

/-! Scanning the digits that a number was written with. A scanner takes all of them and nothing
else when no digit follows, and zeros in front count for nothing.
-/

namespace NodeDevices.Text.Decimal

/-- The text does not go on with a digit. -/
def StartsWithNoDigit (text : List Char) : Prop :=
  ∀ c rest, text = c :: rest → c.isDigit = false

theorem startsWithNoDigit_cons {c : Char} {rest : List Char}
    : StartsWithNoDigit (c :: rest) ↔ c.isDigit = false := by
  constructor
  · intro ends
    exact ends c rest rfl
  · intro noDigit d others same
    rw [← (List.cons.inj same).1]
    exact noDigit

/-- A scanner of digits stops where they end. -/
theorem spanDigits_append {run rest : List Char} (digits : ∀ c ∈ run, c.isDigit = true)
    (ends : StartsWithNoDigit rest)
    : spanDigits (run ++ rest) = (run, rest) := by
  have taken : rest.takeWhile Char.isDigit = [] := by
    cases rest with
    | nil => rfl
    | cons c others => rw [List.takeWhile_cons, startsWithNoDigit_cons.mp ends]; rfl
  have dropped : rest.dropWhile Char.isDigit = rest := by
    cases rest with
    | nil => rfl
    | cons c others => rw [List.dropWhile_cons, startsWithNoDigit_cons.mp ends]; rfl
  rw [spanDigits, List.takeWhile_append_of_pos digits, List.dropWhile_append_of_pos digits,
    taken, dropped, List.append_nil]

-----------------------------------------------------------------------------------------
-- Digits of a number
-----------------------------------------------------------------------------------------

theorem digits_ne_nil (n : Nat) : digits n ≠ [] := by
  rw [digits]
  split <;> simp

/-- Only zero is written with a zero in front. -/
theorem head?_digits {n : Nat} (positive : 0 < n) : (digits n).head? ≠ some '0' := by
  rw [digits]
  split
  · next small =>
      have nonzero : ∀ digit < 10, 0 < digit → digitChar digit ≠ '0' := by decide
      simpa using nonzero n small positive
  · next large =>
      have leading : (digits (n / 10)).head? ≠ some '0' := head?_digits (by omega)
      obtain ⟨first, others, shown⟩ := List.exists_cons_of_ne_nil (digits_ne_nil (n / 10))
      rw [shown] at leading ⊢
      exact leading
termination_by n

/-- A run of digits starts with a zero only if it is that alone. -/
theorem length_digits_of_head? {n : Nat} (zero : (digits n).head? = some '0')
    : (digits n).length = 1 := by
  rcases Nat.eq_zero_or_pos n with rfl | positive
  · rw [digits]
    rfl
  · exact absurd zero (head?_digits positive)

/-- A number has at most as many digits as the least power of ten above it has zeros. -/
theorem length_digits_le {n width : Nat} (positive : 0 < width) (below : n < 10 ^ width)
    : (digits n).length ≤ width := by
  induction width generalizing n with
  | zero => omega
  | succ width ih =>
      rw [digits]
      split
      · simp
      · next large =>
          have shorter : 0 < width := by
            rcases Nat.eq_zero_or_pos width with rfl | more
            · omega
            · exact more
          have fits : n / 10 < 10 ^ width := by
            rw [Nat.pow_succ] at below
            omega
          rw [List.length_append, List.length_singleton]
          exact Nat.succ_le_succ (ih shorter fits)

-----------------------------------------------------------------------------------------
-- Fields of a fixed width
-----------------------------------------------------------------------------------------

theorem value_append (run more : List Char)
    : value (run ++ more) = value run * 10 ^ more.length + value more := by
  induction more using List.reverseRecOn with
  | nil => simp [value]
  | append_singleton more c ih =>
      have last (text : List Char) : value (text ++ [c]) = 10 * value text + digitValue c := by
        simp [value]
      rw [← List.append_assoc, last, last, ih, List.length_append, List.length_singleton,
        Nat.pow_succ, Nat.mul_add]
      rw [← Nat.mul_assoc (value run), Nat.mul_comm 10 (value run * _), Nat.add_assoc]

/-- A run of digits stands for less than a one with as many zeros. -/
theorem value_lt {run : List Char} (digits : ∀ c ∈ run, c.isDigit = true)
    : value run < 10 ^ run.length := by
  induction run using List.reverseRecOn with
  | nil => decide
  | append_singleton run c ih =>
      have before := ih fun d member => digits d (List.mem_append_left _ member)
      have last : c.isDigit = true := digits c (by simp)
      have small : value [c] < 10 := by
        simp only [Char.isDigit, Bool.and_eq_true, decide_eq_true_eq] at last
        have high : c.toNat ≤ 57 := last.2
        simp only [value, List.foldl_cons, List.foldl_nil, digitValue]
        omega
      simp only [value_append, List.length_append, List.length_singleton, Nat.pow_succ,
        Nat.pow_zero]
      omega

theorem value_replicate_zero (count : Nat) : value (List.replicate count '0') = 0 := by
  induction count with
  | zero => rfl
  | succ count ih => rw [List.replicate_succ', value_append, ih]; rfl

/-- Zeros in front do not change what a field stands for. -/
theorem value_padded (width n : Nat) : value (padded width n) = n := by
  rw [padded, value_append, value_replicate_zero, value_digits]
  omega

theorem isDigit_of_mem_padded {width n : Nat} {c : Char} (h : c ∈ padded width n)
    : c.isDigit = true := by
  rw [padded, List.mem_append] at h
  rcases h with filler | digit
  · rw [List.eq_of_mem_replicate filler]
    rfl
  · exact isDigit_of_mem_digits digit

theorem padded_ne_nil (width n : Nat) : padded width n ≠ [] := by
  simp [padded, digits_ne_nil]

/-- A number that fits a field fills it exactly. -/
theorem length_padded {width n : Nat} (positive : 0 < width) (below : n < 10 ^ width)
    : (padded width n).length = width := by
  have fits := length_digits_le positive below
  rw [padded, List.length_append, List.length_replicate]
  omega

-----------------------------------------------------------------------------------------
-- Signed numbers
-----------------------------------------------------------------------------------------

theorem signed_ne_nil (n : Int) : signed n ≠ [] := by
  unfold signed
  split
  · exact List.cons_ne_nil _ _
  · exact digits_ne_nil _

theorem mem_signed {n : Int} {c : Char} (member : c ∈ signed n) : c = '-' ∨ c.isDigit = true := by
  unfold signed at member
  split at member
  · rcases List.mem_cons.mp member with sign | digit
    · exact Or.inl sign
    · exact Or.inr (isDigit_of_mem_digits digit)
  · exact Or.inr (isDigit_of_mem_digits member)

theorem digits_injective : Function.Injective digits :=
  Function.LeftInverse.injective value_digits

/-- Digits start with no sign, so that a number and its opposite are written apart. -/
theorem signed_injective : Function.Injective signed := by
  have unsigned (m n : Nat) : '-' :: digits m ≠ digits n := by
    intro same
    have digit : '-'.isDigit = true := isDigit_of_mem_digits (same ▸ List.mem_cons_self)
    exact absurd digit (by decide)
  intro m n same
  unfold signed at same
  split at same <;> split at same
  · have magnitude := digits_injective (List.cons.inj same).2
    omega
  · exact absurd same (unsigned _ _)
  · exact absurd same.symm (unsigned _ _)
  · have magnitude := digits_injective same
    omega

end NodeDevices.Text.Decimal
