import NodeDevices.Text.Blank
import NodeDevices.Text.Decimal
import NodeDevices.Time.Calendar
/-! Instants in universal time, their written form and a lenient reader of it. A written
instant has no fraction or one of three, six or nine digits; the reader accepts blanks
before numbers and marks, single digits, signed years and any offset below a day.
-/

namespace NodeDevices.Time

/-- An instant in universal time. The second numbered 60 is a leap second. -/
structure Timestamp where
  date : Date
  hour : Fin 24
  minute : Fin 60
  second : Fin 61
  nanosecond : Fin 1000000000
  deriving DecidableEq

/-- Minutes east of universal time, less than a day. -/
structure Offset where
  minutes : Int
  bounded : -1440 < minutes ∧ minutes < 1440

namespace Timestamp

open Text Text.Decimal

/-- Writes a year: four digits, or a sign and at least four digits when there are more or
the year is negative.
-/
def renderYear (year : Int) : List Char :=
  if 0 ≤ year ∧ year ≤ 9999 then padded 4 year.natAbs
  else (if year < 0 then '-' else '+') :: padded 4 year.natAbs

/-- Writes the fraction of a second in as few groups of three digits as keep it whole. -/
def renderFraction (nanosecond : Nat) : List Char :=
  if nanosecond = 0 then []
  else if nanosecond % 1000000 = 0 then '.' :: padded 3 (nanosecond / 1000000)
  else if nanosecond % 1000 = 0 then '.' :: padded 6 (nanosecond / 1000)
  else '.' :: padded 9 nanosecond

/-- Writes an instant. -/
def render (t : Timestamp) : String :=
  String.ofList
    (renderYear t.date.year ++ '-' :: padded 2 t.date.month ++ '-' :: padded 2 t.date.day
      ++ 'T' :: padded 2 t.hour ++ ':' :: padded 2 t.minute ++ ':' :: padded 2 t.second
      ++ renderFraction t.nanosecond ++ ['Z'])

/-- Reads a number of one to `width` digits after blanks. -/
def number? (width : Nat) (text : List Char) : Option (Nat × List Char) :=
  let text := dropBlank text
  let run := (text.take width).takeWhile Char.isDigit
  if run = [] then none else some (value run, text.drop run.length)

/-- Reads a number with any count of digits, and none before its first. -/
def longNumber? (text : List Char) : Option (Nat × List Char) :=
  let (run, rest) := spanDigits text
  if run = [] then none else some (value run, rest)

/-- Reads a year. Only a signed year may have more than four digits. -/
def year? (text : List Char) : Option (Int × List Char) :=
  match dropBlank text with
  | '-' :: rest => (longNumber? rest).map fun (n, rest) => (-(n : Int), rest)
  | '+' :: rest => (longNumber? rest).map fun (n, rest) => ((n : Int), rest)
  | rest => (number? 4 rest).map fun (n, rest) => ((n : Int), rest)

/-- Reads a mark after blanks. -/
def mark? (mark : Char) (text : List Char) : Option (List Char) :=
  match dropBlank text with
  | c :: rest => if c = mark then some rest else none
  | [] => none

/-- Reads what stands between the date and the time of day. -/
def divider? : List Char → Option (List Char)
  | c :: rest => if c = 'T' ∨ c = 't' ∨ c = ' ' then some rest else none
  | [] => none

/-- Reads the fraction of a second, if there is one. Digits after the ninth are dropped. -/
def fraction? : List Char → Option (Nat × List Char)
  | '.' :: rest =>
      let (run, rest) := spanDigits rest
      if run = [] then none
      else
        let kept := run.take 9
        some (value kept * Nat.pow 10 (9 - kept.length), rest)
  | rest => some (0, rest)

/-- The offset of that many hours and minutes, to the west if so said. -/
def Offset.of? (west : Bool) (hours minutes : Nat) : Option Offset :=
  let total : Int := 60 * hours + minutes
  let total := if west then -total else total
  if h : -1440 < total ∧ total < 1440 then some ⟨total, h⟩ else none

/-- Reads two digits. -/
def twoDigits? : List Char → Option (Nat × List Char)
  | a :: b :: rest => if a.isDigit ∧ b.isDigit then some (value [a, b], rest) else none
  | _ => none

/-- Reads the hours and minutes of an offset, between which colons and blanks may stand. -/
def offsetDigits? (west : Bool) (text : List Char) : Option (Offset × List Char) := do
  let (hours, rest) ← twoDigits? text
  let (minutes, rest) ← twoDigits? (rest.dropWhile fun c => c = ':' || isBlank c)
  if minutes < 60 then return (← Offset.of? west hours minutes, rest) else none

/-- Reads an offset from universal time. -/
def offset? (text : List Char) : Option (Offset × List Char) :=
  let universal : Offset := ⟨0, by decide⟩
  match text with
  | u :: t :: c :: rest =>
      if [u.toLower, t.toLower, c.toLower] = ['u', 't', 'c'] then some (universal, rest)
      else signed (u :: t :: c :: rest) universal
  | short => signed short universal
where
  /-- Reads an offset that is a sign and digits, or a letter. -/
  signed (text : List Char) (universal : Offset) : Option (Offset × List Char) :=
    match text with
    | c :: rest =>
        if c = 'Z' ∨ c = 'z' then some (universal, rest)
        else if c = '+' then offsetDigits? false rest
        else if c = '-' ∨ c = '−' then offsetDigits? true rest
        else none
    | [] => none

/-- The instant whose local time at an offset is given. -/
def ofLocal? (date : Date) (hour minute second nanosecond : Nat) (offset : Offset)
    : Option Timestamp := do
  let total : Int := 60 * hour + minute - offset.minutes
  let date ←
    if total < 0 then date.previous? else if 1440 ≤ total then date.next? else some date
  let minutes := (total % 1440).toNat
  if h : second < 61 ∧ nanosecond < 1000000000 then
    return {
      date
      hour := Fin.ofNat 24 (minutes / 60)
      minute := Fin.ofNat 60 (minutes % 60)
      second := ⟨second, h.1⟩
      nanosecond := ⟨nanosecond, h.2⟩
    }
  else none

/-- Reads an instant. -/
def parse? (text : String) : Option Timestamp := do
  let (year, rest) ← year? text.toList
  let rest ← mark? '-' rest
  let (month, rest) ← number? 2 rest
  let rest ← mark? '-' rest
  let (day, rest) ← number? 2 rest
  let date ← Date.of? year month day
  let rest ← divider? rest
  let (hour, rest) ← number? 2 rest
  let rest ← mark? ':' rest
  let (minute, rest) ← number? 2 rest
  let rest ← mark? ':' rest
  let (second, rest) ← number? 2 rest
  let (nanosecond, rest) ← fraction? rest
  let (offset, rest) ← offset? (dropBlank rest)
  if hour < 24 ∧ minute < 60 ∧ second < 61 ∧ dropBlank rest = [] then
    ofLocal? date hour minute second nanosecond offset
  else none

end Timestamp

end NodeDevices.Time
