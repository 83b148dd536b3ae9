/-! Numbers in decimal notation. Reading the digits of a number gives the number back,
and a signed number is written with a minus sign only when it is negative.
-/

namespace NodeDevices.Text.Decimal

/-- The character of a digit below ten. -/
def digitChar (digit : Nat) : Char :=
  Char.ofNat (48 + digit)

/-- The value of a digit character. -/
def digitValue (c : Char) : Nat :=
  c.toNat - 48

/-- The decimal digits of a number, the most significant first and never padded. -/
def digits (n : Nat) : List Char :=
  if n < 10 then [digitChar n] else digits (n / 10) ++ [digitChar (n % 10)]
termination_by n

/-- Writes an integer. -/
def signed (n : Int) : List Char :=
  if n < 0 then '-' :: digits n.natAbs else digits n.natAbs

/-- The text of an integer. -/
def ofInt (n : Int) : String :=
  String.ofList (signed n)

/-- The number that a run of digits stands for. -/
def value (run : List Char) : Nat :=
  run.foldl (fun total c => 10 * total + digitValue c) 0

/-- Splits off the digits that a text starts with. -/
def spanDigits (text : List Char) : List Char × List Char :=
  (text.takeWhile Char.isDigit, text.dropWhile Char.isDigit)

/-- Reads a text that consists of digits and nothing else. -/
def nat? (text : List Char) : Option Nat :=
  if text ≠ [] ∧ text.all Char.isDigit then some (value text) else none

/-- Writes a number in a field of at least the given width, filled with zeros. -/
def padded (width n : Nat) : List Char :=
  let run := digits n
  List.replicate (width - run.length) '0' ++ run

theorem digitValue_digitChar_below : ∀ digit < 10, digitValue (digitChar digit) = digit := by
  decide

theorem isDigit_digitChar_below : ∀ digit < 10, (digitChar digit).isDigit := by
  decide

theorem value_digits (n : Nat)
    : value (digits n) = n := by
  rw [digits]
  split
  · next h => simp [value, digitValue_digitChar_below n h]
  · next h =>
      have ih := value_digits (n / 10)
      simp only [value, List.foldl_append, List.foldl_cons, List.foldl_nil] at ih ⊢
      rw [ih, digitValue_digitChar_below _ (Nat.mod_lt _ (by decide))]
      omega
termination_by n

theorem isDigit_of_mem_digits {n : Nat} {c : Char} (h : c ∈ digits n)
    : c.isDigit := by
  rw [digits] at h
  split at h
  · next small =>
      rw [List.mem_singleton] at h
      exact h ▸ isDigit_digitChar_below n small
  · rw [List.mem_append, List.mem_singleton] at h
    rcases h with h | rfl
    · exact isDigit_of_mem_digits h
    · exact isDigit_digitChar_below _ (Nat.mod_lt _ (by decide))
termination_by n

end NodeDevices.Text.Decimal
