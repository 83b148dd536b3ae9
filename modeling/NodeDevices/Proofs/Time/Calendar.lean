import Mathlib.Tactic.SplitIfs
import NodeDevices.Time.Calendar

/-! Days are numbered, so that distances between dates can be told. A year has 365 days, and one
more every fourth year but not every hundredth, and again every four hundredth.
-/

namespace NodeDevices.Time

/-- The days of the year before a month. -/
def daysBeforeMonth (year : Int) : Nat → Nat
  | 0 => 0
  | 1 => 0
  | month + 2 => daysBeforeMonth year (month + 1) + daysInMonth year (month + 1)

/-- The days before a year, counted from the first day of the year 1. -/
def daysBeforeYear (year : Int) : Int :=
  365 * (year - 1) + (year - 1) / 4 - (year - 1) / 100 + (year - 1) / 400

namespace Date

/-- The number of a day; the first day of the year 1 has the number 1. -/
def number (date : Date) : Int :=
  daysBeforeYear date.year + daysBeforeMonth date.year date.month + date.day

end Date

theorem daysBeforeMonth_succ (year : Int) {month : Nat} (positive : 1 ≤ month)
    : daysBeforeMonth year (month + 1)
      = daysBeforeMonth year month + daysInMonth year month := by
  obtain ⟨before, rfl⟩ := Nat.exists_eq_add_of_le' positive
  rfl

/-- The days before December and those of December make a year. -/
theorem daysBeforeYear_succ (year : Int)
    : daysBeforeYear (year + 1) = daysBeforeYear year + daysBeforeMonth year 12 + 31 := by
  have months : daysBeforeMonth year 12 = 306 + daysInMonth year 2 := by
    simp only [daysBeforeMonth, daysInMonth]
    simp only [Nat.reduceAdd, Nat.reduceEqDiff, or_false, or_true, if_true, if_false]
    split_ifs <;> rfl
  have february : (daysInMonth year 2 : Int)
      = 28 + ((year / 4 - (year - 1) / 4) - (year / 100 - (year - 1) / 100)
        + (year / 400 - (year - 1) / 400)) := by
    simp only [daysInMonth, isLeapYear, if_true, Bool.and_eq_true, Bool.or_eq_true,
      decide_eq_true_eq]
    split_ifs <;> push_cast <;> omega
  rw [months, daysBeforeYear, daysBeforeYear, Int.add_sub_cancel, Int.natCast_add, february]
  omega

namespace Date

theorem of?_eq_some {year : Int} {month day : Nat} {date : Date}
    (h : of? year month day = some date)
    : date.year = year ∧ date.month = month ∧ date.day = day := by
  rw [of?] at h
  split at h
  · rw [← Option.some.inj h]
    exact ⟨rfl, rfl, rfl⟩
  · cases h

/-- The day after has the next number. -/
theorem number_of_next? {date next : Date} (h : date.next? = some next)
    : next.number = date.number + 1 := by
  obtain ⟨_, _, january, december, _, lastDay⟩ := date.valid
  rw [next?] at h
  split at h
  · obtain ⟨year, month, day⟩ := of?_eq_some h
    simp only [number, year, month, day]
    omega
  next last =>
  have ends : date.day = daysInMonth date.year date.month := by omega
  split at h
  · obtain ⟨year, month, day⟩ := of?_eq_some h
    simp only [number, year, month, day, daysBeforeMonth_succ _ january]
    omega
  · next endOfYear =>
      have month12 : date.month = 12 := by omega
      obtain ⟨year, month, day⟩ := of?_eq_some h
      have length : daysInMonth date.year 12 = 31 := rfl
      simp only [number, year, month, day, ends, month12, length, daysBeforeYear_succ,
        daysBeforeMonth]
      omega

/-- The day before has the number before. -/
theorem number_of_previous? {date previous : Date} (h : date.previous? = some previous)
    : previous.number = date.number - 1 := by
  obtain ⟨_, _, january, december, firstDay, _⟩ := date.valid
  rw [previous?] at h
  split at h
  · obtain ⟨year, month, day⟩ := of?_eq_some h
    simp only [number, year, month, day]
    omega
  next first =>
  have starts : date.day = 1 := by omega
  split at h
  · next later =>
      obtain ⟨before, shown⟩ := Nat.exists_eq_add_of_lt later
      obtain ⟨year, month, day⟩ := of?_eq_some h
      have step : daysBeforeMonth date.year (date.month - 1 + 1) = _ :=
        daysBeforeMonth_succ date.year (by omega)
      rw [Nat.sub_add_cancel january] at step
      simp only [number, year, month, day, starts, step]
      omega
  · next startOfYear =>
      have month1 : date.month = 1 := by omega
      obtain ⟨year, month, day⟩ := of?_eq_some h
      have step := daysBeforeYear_succ (date.year - 1)
      rw [Int.sub_add_cancel] at step
      simp only [number, year, month, day, starts, month1, step, daysBeforeMonth]
      omega

theorem one_le_daysInMonth (year : Int) (month : Nat) : 1 ≤ daysInMonth year month := by
  unfold daysInMonth
  split_ifs <;> decide

theorem isSome_of? {year : Int} {month day : Nat} (valid : IsDate year month day)
    : (of? year month day).isSome := by
  rw [of?, dif_pos valid]
  rfl

/-- Every day before the last year has a day after it. -/
theorem isSome_next? {date : Date} (earlier : date.year < lastYear) : date.next?.isSome := by
  obtain ⟨first, last, january, december, firstDay, _⟩ := date.valid
  rw [next?]
  split
  · exact isSome_of? ⟨first, last, january, december, by omega, by omega⟩
  split
  · exact isSome_of? ⟨first, last, by omega, by omega, by decide, one_le_daysInMonth ..⟩
  · exact isSome_of? ⟨by omega, by omega, by decide, by decide, by decide,
      one_le_daysInMonth ..⟩

/-- Every day after the first year has a day before it. -/
theorem isSome_previous? {date : Date} (later : firstYear < date.year)
    : date.previous?.isSome := by
  obtain ⟨first, last, january, december, firstDay, lastDay⟩ := date.valid
  rw [previous?]
  split
  · exact isSome_of? ⟨first, last, january, december, by omega, by omega⟩
  split
  · exact isSome_of? ⟨first, last, by omega, by omega, one_le_daysInMonth .., Nat.le_refl _⟩
  · exact isSome_of? ⟨by omega, by omega, by decide, by decide, by decide, Nat.le_refl _⟩

end Date

end NodeDevices.Time
