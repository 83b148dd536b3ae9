import NodeDevices.Text.LetterCase

/-! The lower case of a text consists of characters that are their own lower case, so a text in
lower case stays as it is. A run of the table leads only to characters that no run changes; whether
a sigma ends a word does not matter then, as no capital one is left.
-/

namespace NodeDevices.Text.LetterCase

-----------------------------------------------------------------------------------------
-- Where the runs of the table lead
-----------------------------------------------------------------------------------------

namespace Run

/-- The numbers of the first and the last character that a run leads to. -/
def target (run : Run) : Nat × Nat :=
  ((run.first + run.shift).toNat, (run.last + run.shift).toNat)

/-- Says whether a run leads to numbers of characters. -/
def isValid (run : Run) : Bool :=
  decide (0 ≤ run.first + run.shift)
    && (run.target.2.blt 0xD800 || (Nat.blt 0xDFFF run.target.1 && run.target.2.blt 0x110000))

/-- Says whether the characters that a run leads to lie beside another run, or between its
characters, of which it has every other one.
-/
def clears (run other : Run) : Bool :=
  run.target.2.blt other.first || other.last.blt run.target.1
    || ((run.step.beq 2 || run.first.beq run.last) && other.step.beq 2
      && (run.target.1 % 2).beq ((other.first + 1) % 2))

variable {run other : Run} {code image : Nat}

/-- A run leads from its characters to its target, and by steps of two if it has such. -/
theorem target_of_partner? (valid : run.isValid) (h : run.partner? code = some image)
    : run.target.1 ≤ image ∧ image ≤ run.target.2
      ∧ ((run.step = 2 ∨ run.first = run.last) → image % 2 = run.target.1 % 2) := by
  simp only [isValid, Bool.and_eq_true, decide_eq_true_eq] at valid
  simp only [partner?] at h
  split at h
  · next within =>
      obtain rfl := Option.some.inj h
      refine ⟨?_, ?_, ?_⟩
      · simp only [target]
        omega
      · simp only [target]
        omega
      · simp only [target]
        rintro (two | single)
        · rw [two] at within
          omega
        · omega
  · cases h

theorem isValidChar_of_partner? (valid : run.isValid) (h : run.partner? code = some image)
    : image.isValidChar := by
  obtain ⟨low, high, _⟩ := target_of_partner? valid h
  simp only [isValid, Bool.and_eq_true, Bool.or_eq_true, Nat.blt_eq] at valid
  rcases valid.2 with below | ⟨above, within⟩
  · exact Or.inl (Nat.lt_of_le_of_lt high below)
  · exact Or.inr ⟨Nat.lt_of_lt_of_le above low, Nat.lt_of_le_of_lt high within⟩

/-- What a run leads to is not changed by a run that it clears. -/
theorem partner?_eq_none (valid : run.isValid) (clear : run.clears other)
    (h : run.partner? code = some image)
    : other.partner? image = none := by
  obtain ⟨low, high, even⟩ := target_of_partner? valid h
  simp only [clears, Bool.or_eq_true, Bool.and_eq_true, Nat.blt_eq, Nat.beq_eq] at clear
  rw [partner?, if_neg]
  rintro ⟨from', upTo, stepped⟩
  rcases clear with (below | above) | ⟨⟨paired, two⟩, odd⟩
  · omega
  · omega
  · have parity := even paired
    rw [two] at stepped
    omega

end Run

theorem lowerRuns_valid : lowerRuns.all Run.isValid = true := by
  decide +kernel

theorem lowerRuns_clear : (lowerRuns.all fun run => lowerRuns.all run.clears) = true := by
  decide +kernel

/-- The dotted capital, whose lower case is two characters, is where no run leads. -/
theorem lowerRuns_clear_dotted
    : (lowerRuns.all fun run => run.clears ⟨0x130, 0x130, 1, 0⟩) = true := by
  decide +kernel

-----------------------------------------------------------------------------------------
-- Characters in lower case
-----------------------------------------------------------------------------------------

/-- The character is its own lower case wherever it stands. -/
def IsLower (c : Char) : Prop :=
  c ≠ 'Σ' ∧ lowerChar c = [c]

instance (c : Char) : Decidable (IsLower c) :=
  inferInstanceAs (Decidable (_ ∧ _))

/-- Whether all characters of a text are in lower case can be computed. -/
theorem isLower_of_all {text : List Char} (all : (text.all fun c => decide (IsLower c)) = true)
    : ∀ c ∈ text, IsLower c :=
  fun c member => of_decide_eq_true (List.all_eq_true.mp all c member)

theorem isLower_of_lookup?_eq_none {c : Char} (dotless : c ≠ 'İ')
    (none : lookup? lowerRuns c.toNat = none)
    : IsLower c := by
  constructor
  · rintro rfl
    exact absurd none (by decide +kernel)
  · rw [lowerChar, if_neg dotless, none]

/-- Where a run leads, there are characters in lower case. -/
theorem isLower_of_lookup?_eq_some {code image : Nat}
    (found : lookup? lowerRuns code = some image)
    : IsLower (Char.ofNat image) := by
  obtain ⟨run, among, leads⟩ := List.exists_of_findSome?_eq_some found
  have valid := List.all_eq_true.mp lowerRuns_valid run among
  have number : (Char.ofNat image).toNat = image := by
    rw [Char.ofNat, dif_pos (Run.isValidChar_of_partner? valid leads)]
    rfl
  apply isLower_of_lookup?_eq_none
  · intro dotted
    have clear := List.all_eq_true.mp lowerRuns_clear_dotted run among
    have beside := Run.partner?_eq_none valid clear leads
    rw [← number, dotted] at beside
    exact absurd beside (by decide)
  · rw [number, lookup?, List.findSome?_eq_none_iff]
    intro other member
    have clear := List.all_eq_true.mp (List.all_eq_true.mp lowerRuns_clear run among) other member
    exact Run.partner?_eq_none valid clear leads

/-- The lower case of a character by itself is in lower case. -/
theorem isLower_of_mem_lowerChar {c d : Char} (member : d ∈ lowerChar c)
    : IsLower d := by
  rw [lowerChar] at member
  split at member
  · exact isLower_of_all (by decide +kernel) d member
  · next dotless =>
      cases found : lookup? lowerRuns c.toNat with
      | none =>
          rw [found] at member
          rw [List.mem_singleton.mp member]
          exact isLower_of_lookup?_eq_none dotless found
      | some image =>
          rw [found] at member
          rw [List.mem_singleton.mp member]
          exact isLower_of_lookup?_eq_some found

theorem isLower_of_mem_lowerAfter {before text : List Char} {d : Char}
    (member : d ∈ lowerAfter before text)
    : IsLower d := by
  induction text generalizing before with
  | nil => cases member
  | cons c rest ih =>
      rw [lowerAfter] at member
      rcases List.mem_append.mp member with here | later
      · have sigmas : IsLower 'ς' ∧ IsLower 'σ' := by decide +kernel
        split at here
        · split at here
          · exact List.mem_singleton.mp here ▸ sigmas.1
          · exact List.mem_singleton.mp here ▸ sigmas.2
        · exact isLower_of_mem_lowerChar here
      · exact ih later

/-- A text in lower case consists of characters in lower case. -/
theorem isLower_of_mem_lower {text : List Char} {d : Char} (member : d ∈ lower text)
    : IsLower d :=
  isLower_of_mem_lowerAfter member

/-- A text of characters in lower case is its own lower case. -/
theorem lower_eq_self {text : List Char} (all : ∀ c ∈ text, IsLower c) : lower text = text := by
  have stays (before : List Char) : lowerAfter before text = text := by
    induction text generalizing before with
    | nil => rfl
    | cons c rest ih =>
        obtain ⟨⟨noSigma, own⟩, later⟩ := List.forall_mem_cons.mp all
        rw [lowerAfter, if_neg noSigma, own, ih later]
        rfl
  exact stays []

end NodeDevices.Text.LetterCase
