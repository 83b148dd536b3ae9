import Mathlib.Data.List.Basic
import Mathlib.Data.List.TakeWhile
import NodeDevices.Proofs.Text.Decimal
import NodeDevices.Proofs.Time.Calendar
import NodeDevices.Time.Timestamp

/-! Instants are read back from their written form. Every field is written with as many digits as
its reader takes at most, so that it ends where the next mark stands.
-/

namespace NodeDevices.Time.Timestamp

open Text Text.Decimal

-----------------------------------------------------------------------------------------
-- Fields
-----------------------------------------------------------------------------------------

theorem isBlank_of_isDigit {c : Char} (digit : c.isDigit = true) : isBlank c = false := by
  simp only [Char.isDigit, Bool.and_eq_true, decide_eq_true_eq] at digit
  have low : 48 ≤ c.toNat := digit.1
  have high : c.toNat ≤ 57 := digit.2
  simp only [isBlank, Bool.or_eq_false_iff, Bool.and_eq_false_iff, decide_eq_false_iff_not]
  omega

theorem dropBlank_of_head {c : Char} (visible : isBlank c = false) (rest : List Char)
    : dropBlank (c :: rest) = c :: rest := by
  rw [dropBlank, List.dropWhile_cons, visible]
  rfl

/-- A run of digits that fills its field is read, whatever follows. -/
theorem number?_append {width : Nat} {run : List Char} (digits : ∀ c ∈ run, c.isDigit = true)
    (fills : run.length = width) (some : run ≠ []) (rest : List Char)
    : number? width (run ++ rest) = .some (value run, rest) := by
  obtain ⟨c, others, rfl⟩ := List.exists_cons_of_ne_nil some
  have visible := dropBlank_of_head (isBlank_of_isDigit (digits c List.mem_cons_self))
    (others ++ rest)
  have taken : ((c :: others) ++ rest).take width = c :: others := by
    rw [← fills, List.take_left]
  have all : (c :: others).takeWhile Char.isDigit = c :: others :=
    List.takeWhile_eq_self_iff.mpr digits
  have dropped : ((c :: others) ++ rest).drop (c :: others).length = rest := List.drop_left
  simp only [number?, List.cons_append, visible]
  rw [← List.cons_append, taken, all, if_neg some, dropped]

theorem number?_padded {width n : Nat} (positive : 0 < width) (below : n < 10 ^ width)
    (rest : List Char)
    : number? width (padded width n ++ rest) = some (n, rest) := by
  rw [number?_append (fun c => isDigit_of_mem_padded) (length_padded positive below)
    (padded_ne_nil width n), value_padded]

theorem longNumber?_padded (width n : Nat) {rest : List Char} (ends : StartsWithNoDigit rest)
    : longNumber? (padded width n ++ rest) = some (n, rest) := by
  have scanned : spanDigits (padded width n ++ rest) = (padded width n, rest) :=
    spanDigits_append (fun c => isDigit_of_mem_padded) ends
  simp only [longNumber?, scanned, if_neg (padded_ne_nil width n), value_padded]

theorem mark?_cons (mark : Char) (visible : isBlank mark = false) (rest : List Char)
    : mark? mark (mark :: rest) = some rest := by
  simp only [mark?, dropBlank_of_head visible, if_true]

/-- A year is read up to the hyphen after it. -/
theorem year?_renderYear (year : Int) (rest : List Char)
    : year? (renderYear year ++ '-' :: rest) = some (year, '-' :: rest) := by
  have ends : StartsWithNoDigit ('-' :: rest) := startsWithNoDigit_cons.mpr (by decide)
  unfold renderYear
  split
  · next short =>
      obtain ⟨first, others, shown⟩ := List.exists_cons_of_ne_nil (padded_ne_nil 4 year.natAbs)
      have digit : first.isDigit = true := isDigit_of_mem_padded (shown ▸ List.mem_cons_self)
      have field
          : number? 4 (padded 4 year.natAbs ++ '-' :: rest) = some (year.natAbs, '-' :: rest) :=
        number?_padded (by decide) (by omega) _
      have different {c : Char} (other : c.isDigit = false) : first ≠ c := by
        rintro rfl
        rw [digit] at other
        cases other
      rw [shown, List.cons_append] at field ⊢
      rw [year?, dropBlank_of_head (isBlank_of_isDigit digit)]
      split
      · next same => exact absurd (List.cons.inj same).1 (different rfl)
      · next same => exact absurd (List.cons.inj same).1 (different rfl)
      · simp only [field, Option.map_some, Option.some.injEq, Prod.mk.injEq, and_true]
        exact Int.natAbs_of_nonneg short.1
  · next long =>
      split
      · next negative =>
          rw [List.cons_append, year?, dropBlank_of_head (by decide)]
          simp only [longNumber?_padded 4 year.natAbs ends, Option.map_some, Option.some.injEq,
            Prod.mk.injEq, and_true]
          omega
      · next positive =>
          rw [List.cons_append, year?, dropBlank_of_head (by decide)]
          simp only [longNumber?_padded 4 year.natAbs ends, Option.map_some, Option.some.injEq,
            Prod.mk.injEq, and_true]
          omega

/-- A fraction is read up to the letter after it. -/
theorem fraction?_renderFraction {nanosecond : Nat} (below : nanosecond < 1000000000)
    (rest : List Char)
    : fraction? (renderFraction nanosecond ++ 'Z' :: rest) = some (nanosecond, 'Z' :: rest) := by
  have ends : StartsWithNoDigit ('Z' :: rest) := startsWithNoDigit_cons.mpr (by decide)
  have field {width n : Nat} (positive : 0 < width) (short : width ≤ 9) (fits : n < 10 ^ width)
      : fraction? ('.' :: (padded width n ++ 'Z' :: rest))
        = some (n * 10 ^ (9 - width), 'Z' :: rest) := by
    have scanned : spanDigits (padded width n ++ 'Z' :: rest) = (padded width n, 'Z' :: rest) :=
      spanDigits_append (fun c => isDigit_of_mem_padded) ends
    have filled := length_padded positive fits
    have kept : (padded width n).take 9 = padded width n := List.take_of_length_le (by omega)
    simp only [fraction?, scanned, if_neg (padded_ne_nil width n), kept, value_padded, filled,
      Nat.pow_eq]
  unfold renderFraction
  split
  · next zero => rw [zero]; rfl
  split
  · next millis =>
      rw [List.cons_append, field (by decide) (by decide) (by omega)]
      simp only [Option.some.injEq, Prod.mk.injEq, and_true]
      omega
  split
  · next micros =>
      rw [List.cons_append, field (by decide) (by decide) (by omega)]
      simp only [Option.some.injEq, Prod.mk.injEq, and_true]
      omega
  · rw [List.cons_append, field (by decide) (by decide) (by omega)]
    simp

-----------------------------------------------------------------------------------------
-- Instants
-----------------------------------------------------------------------------------------

/-- Universal time is local time at the offset zero. -/
theorem ofLocal?_universal (t : Timestamp)
    : ofLocal? t.date t.hour t.minute t.second t.nanosecond ⟨0, by decide⟩ = some t := by
  obtain ⟨date, hour, minute, second, nanosecond⟩ := t
  have hours := hour.isLt
  have minutes := minute.isLt
  have early : ¬ (60 * (hour : Int) + (minute : Int) - 0 < 0) := by omega
  have late : ¬ (1440 ≤ 60 * (hour : Int) + (minute : Int) - 0) := by omega
  have total : ((60 * (hour : Int) + (minute : Int) - 0) % 1440).toNat = 60 * hour + minute := by
    omega
  simp only [ofLocal?, if_neg early, if_neg late, total, Option.bind_eq_bind, Option.bind_some,
    second.isLt, nanosecond.isLt, and_self, dite_true, Option.pure_def, Option.some.injEq]
  congr
  · apply Fin.ext
    simp only [Fin.ofNat]
    omega
  · apply Fin.ext
    simp only [Fin.ofNat]
    omega

/-- Writes a day and a time of day, up to the second. -/
def renderSeconds (date : Date) (hour : Fin 24) (minute : Fin 60) (second : Fin 61)
    : List Char :=
  renderYear date.year ++ '-' :: padded 2 date.month ++ '-' :: padded 2 date.day
    ++ 'T' :: padded 2 hour ++ ':' :: padded 2 minute ++ ':' :: padded 2 second

/-- What follows the seconds says how they are read. -/
theorem parse?_renderSeconds (date : Date) (hour : Fin 24) (minute : Fin 60) (second : Fin 61)
    {tail rest : List Char} {nanosecond : Nat} {offset : Offset}
    (fraction : fraction? tail = some (nanosecond, rest))
    (shift : offset? (dropBlank rest) = some (offset, []))
    : parse? (String.ofList (renderSeconds date hour minute second ++ tail))
      = ofLocal? date hour minute second nanosecond offset := by
  have valid : Date.of? date.year date.month date.day = some date := by
    rw [Date.of?, dif_pos date.valid]
  obtain ⟨_, _, _, december, _, lastDay⟩ := date.valid
  have short : daysInMonth date.year date.month ≤ 31 := by
    unfold daysInMonth
    split_ifs <;> decide
  have field {n : Nat} (below : n < 100) (rest : List Char)
      : number? 2 (padded 2 n ++ rest) = some (n, rest) :=
    number?_padded (by decide) below rest
  have month := field (n := date.month) (by omega)
  have day := field (n := date.day) (by omega)
  have hours := field (n := hour) (by omega)
  have minutes := field (n := minute) (by omega)
  have seconds := field (n := second) (by omega)
  have hyphen := mark?_cons '-' (by decide)
  have colon := mark?_cons ':' (by decide)
  have divider (rest : List Char) : divider? ('T' :: rest) = some rest := rfl
  have finished : dropBlank [] = [] := rfl
  have shown : (String.ofList (renderSeconds date hour minute second ++ tail)).toList
      = renderYear date.year ++ '-' :: (padded 2 date.month ++ '-' :: (padded 2 date.day
        ++ 'T' :: (padded 2 hour ++ ':' :: (padded 2 minute ++ ':' :: (padded 2 second
        ++ tail))))) := by
    simp only [renderSeconds, String.toList_ofList, List.append_assoc, List.cons_append]
  simp only [parse?, bind, Option.bind, shown, year?_renderYear, hyphen, colon, divider, month,
    day, hours, minutes, seconds, fraction, shift, valid, finished, Fin.is_lt, and_self, if_true]

/-- An instant is read back from its written form. -/
theorem parse?_render (t : Timestamp) : parse? t.render = some t := by
  have shown : t.render = String.ofList (renderSeconds t.date t.hour t.minute t.second
      ++ (renderFraction t.nanosecond ++ ['Z'])) := by
    rw [← List.append_assoc]
    rfl
  have fraction := fraction?_renderFraction t.nanosecond.isLt []
  rw [shown, parse?_renderSeconds t.date t.hour t.minute t.second fraction rfl]
  exact ofLocal?_universal t

-----------------------------------------------------------------------------------------
-- Local time
-----------------------------------------------------------------------------------------

/-- The minute of an instant, counted from the day numbered 0. -/
def minutes (t : Timestamp) : Int :=
  1440 * t.date.number + 60 * t.hour + t.minute

/-- The hour and the minute are those of the minute of the day. -/
theorem minutes_clock (date : Date) (total : Int) (second : Fin 61) (nanosecond : Fin 1000000000)
    : minutes ⟨date, Fin.ofNat 24 ((total % 1440).toNat / 60),
        Fin.ofNat 60 ((total % 1440).toNat % 60), second, nanosecond⟩
      = 1440 * date.number + total % 1440 := by
  simp only [Timestamp.minutes, Fin.ofNat]
  omega

/-- A time of day where the clock is ahead of universal time by an offset, with the digits of a
fraction of a second.
-/
structure LocalTime where
  date : Date
  hour : Fin 24
  minute : Fin 60
  second : Fin 61
  fraction : List Char
  digits : ∀ c ∈ fraction, c.isDigit = true
  offset : Offset

namespace LocalTime

/-- The minute of universal time. -/
def minutes (time : LocalTime) : Int :=
  1440 * time.date.number + 60 * time.hour + time.minute - time.offset.minutes

/-- The first nine digits of the fraction count. -/
def nanosecond (time : LocalTime) : Nat :=
  value (time.fraction.take 9) * Nat.pow 10 (9 - (time.fraction.take 9).length)

/-- Writes an offset as a sign, hours and minutes. -/
def renderOffset (offset : Offset) : List Char :=
  (if offset.minutes < 0 then '-' else '+')
    :: padded 2 (offset.minutes.natAbs / 60) ++ ':' :: padded 2 (offset.minutes.natAbs % 60)

/-- Writes a local time. -/
def render (time : LocalTime) : String :=
  String.ofList
    (renderSeconds time.date time.hour time.minute time.second
      ++ ((if time.fraction = [] then [] else '.' :: time.fraction)
        ++ renderOffset time.offset))

theorem twoDigits?_padded {n : Nat} (below : n < 100) (rest : List Char)
    : twoDigits? (padded 2 n ++ rest) = some (n, rest) := by
  obtain ⟨a, b, shown⟩ := List.length_eq_two.mp (length_padded (n := n) (by decide) below)
  have first : a.isDigit = true := isDigit_of_mem_padded (shown ▸ List.mem_cons_self)
  have second : b.isDigit = true :=
    isDigit_of_mem_padded (shown ▸ List.mem_cons_of_mem a List.mem_cons_self)
  have stands := value_padded 2 n
  rw [shown] at stands ⊢
  simp only [List.cons_append, List.nil_append, twoDigits?, first, second, and_self, if_true,
    stands]

/-- Hours and minutes of an offset are read up to the end. -/
theorem offsetDigits?_padded (west : Bool) {hours minutes : Nat} (hour : hours < 24)
    (minute : minutes < 60)
    : offsetDigits? west (padded 2 hours ++ ':' :: padded 2 minutes)
      = (Offset.of? west hours minutes).map fun offset => (offset, []) := by
  obtain ⟨first, others, shown⟩ := List.exists_cons_of_ne_nil (padded_ne_nil 2 minutes)
  have digit : first.isDigit = true := isDigit_of_mem_padded (shown ▸ List.mem_cons_self)
  have noColon : first ≠ ':' := by
    rintro rfl
    cases digit
  have stays : (':' :: padded 2 minutes).dropWhile (fun c => c = ':' || isBlank c)
      = padded 2 minutes := by
    simp [shown, noColon, isBlank_of_isDigit digit]
  have field := twoDigits?_padded (n := minutes) (by omega) []
  rw [List.append_nil] at field
  simp only [offsetDigits?, twoDigits?_padded (n := hours) (by omega), stays, field, minute,
    Option.bind_eq_bind, Option.bind_some, if_true]
  cases Offset.of? west hours minutes <;> rfl

theorem offset?_sign (west : Bool) (rest : List Char)
    : offset? ((if west then '-' else '+') :: rest) = offsetDigits? west rest := by
  have noLetter : ∀ west : Bool, (if west then '-' else '+').toLower ≠ 'u' := by decide
  have named (t c : Char) : ¬ [(if west then '-' else '+').toLower, t.toLower, c.toLower]
      = ['u', 't', 'c'] := by
    intro same
    exact noLetter west (List.cons.inj same).1
  unfold offset?
  split
  · next u t c others same =>
      obtain ⟨rfl, rfl⟩ := List.cons.inj same
      rw [if_neg (named t c)]
      cases west <;> rfl
  · cases west <;> rfl

/-- An offset is read back from its written form. -/
theorem offset?_renderOffset (offset : Offset)
    : offset? (dropBlank (renderOffset offset)) = some (offset, []) := by
  have bounded := offset.bounded
  have visible : isBlank (if offset.minutes < 0 then '-' else '+') = false := by
    split <;> decide
  have sign := offset?_sign (decide (offset.minutes < 0))
  simp only [decide_eq_true_eq] at sign
  have total : Offset.of? (decide (offset.minutes < 0)) (offset.minutes.natAbs / 60)
      (offset.minutes.natAbs % 60) = some offset := by
    have same : (if decide (offset.minutes < 0)
        then -(60 * ((offset.minutes.natAbs / 60 : Nat) : Int) + (offset.minutes.natAbs % 60 : Nat))
        else 60 * ((offset.minutes.natAbs / 60 : Nat) : Int) + (offset.minutes.natAbs % 60 : Nat))
        = offset.minutes := by
      simp only [decide_eq_true_eq]
      split <;> omega
    simp only [Offset.of?, same, dif_pos bounded]
  rw [renderOffset, List.cons_append, dropBlank_of_head visible, sign,
    offsetDigits?_padded _ (by omega) (Nat.mod_lt _ (by decide)), total]
  rfl

theorem nanosecond_lt (time : LocalTime) : time.nanosecond < 1000000000 := by
  have digits : ∀ c ∈ time.fraction.take 9, c.isDigit = true :=
    fun c member => time.digits c (List.mem_of_mem_take member)
  have short : (time.fraction.take 9).length ≤ 9 := List.length_take_le 9 _
  have below := value_lt digits
  calc time.nanosecond
    _ < 10 ^ (time.fraction.take 9).length * 10 ^ (9 - (time.fraction.take 9).length) :=
      Nat.mul_lt_mul_of_pos_right below (Nat.pow_pos (by decide))
    _ = 1000000000 := by rw [← Nat.pow_add, Nat.add_sub_cancel' short]

/-- A written local time is read as the instant that it stands for. -/
theorem parse?_render (time : LocalTime)
    : parse? time.render
      = ofLocal? time.date time.hour time.minute time.second time.nanosecond time.offset := by
  have sign : StartsWithNoDigit (renderOffset time.offset) := by
    rw [renderOffset, List.cons_append, startsWithNoDigit_cons]
    split <;> decide
  refine parse?_renderSeconds time.date time.hour time.minute time.second ?_
    (offset?_renderOffset time.offset)
  split
  · next whole =>
      have zero : time.nanosecond = 0 := by rw [nanosecond, whole]; rfl
      rw [zero, List.nil_append, renderOffset, List.cons_append]
      split <;> rfl
  · next some =>
      simp only [List.cons_append, fraction?, spanDigits_append time.digits sign, if_neg some]
      rfl

/-- The instant has the minute of universal time, and the same second and fraction. -/
theorem eq_of_parse?_render {time : LocalTime} {t : Timestamp}
    (h : parse? time.render = some t)
    : t.minutes = time.minutes ∧ t.second = time.second
      ∧ (t.nanosecond : Nat) = time.nanosecond := by
  have hours := time.hour.isLt
  have minutes := time.minute.isLt
  have bounded := time.offset.bounded
  rw [parse?_render, ofLocal?] at h
  simp only [Option.bind_eq_bind, nanosecond_lt, time.second.isLt, and_self, dite_true,
    Option.pure_def] at h
  split at h
  · next early =>
      obtain ⟨date, shifted, built⟩ := Option.bind_eq_some_iff.mp h
      obtain rfl := Option.some.inj built
      refine ⟨?_, rfl, rfl⟩
      rw [minutes_clock, Date.number_of_previous? shifted, LocalTime.minutes]
      omega
  split at h
  · next late =>
      obtain ⟨date, shifted, built⟩ := Option.bind_eq_some_iff.mp h
      obtain rfl := Option.some.inj built
      refine ⟨?_, rfl, rfl⟩
      rw [minutes_clock, Date.number_of_next? shifted, LocalTime.minutes]
      omega
  · obtain rfl := Option.some.inj h
    refine ⟨?_, rfl, rfl⟩
    rw [minutes_clock, LocalTime.minutes]
    omega

/-- Only a time in the first or the last year may stand for no instant. -/
theorem exists_parse?_render {time : LocalTime} (later : firstYear < time.date.year)
    (earlier : time.date.year < lastYear)
    : ∃ t, parse? time.render = some t := by
  rw [parse?_render, ofLocal?]
  simp only [Option.bind_eq_bind, nanosecond_lt, time.second.isLt, and_self, dite_true,
    Option.pure_def]
  split
  · obtain ⟨date, shifted⟩ := Option.isSome_iff_exists.mp (Date.isSome_previous? later)
    rw [shifted]
    exact ⟨_, rfl⟩
  split
  · obtain ⟨date, shifted⟩ := Option.isSome_iff_exists.mp (Date.isSome_next? earlier)
    rw [shifted]
    exact ⟨_, rfl⟩
  · exact ⟨_, rfl⟩

end LocalTime

end NodeDevices.Time.Timestamp
