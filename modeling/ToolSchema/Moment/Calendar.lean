/-!
# Days of the calendar

Days are numbered from 1 January 1970 in the proleptic Gregorian calendar. Years run from -262143 to
262142. The arithmetic counts from 1 March of year 0, so that a leap day is the last day of its
year.
-/

namespace ToolSchema

structure CivilDate where
  year : Int
  month : Nat
  day : Nat
deriving DecidableEq

namespace CivilDate

def isLeapYear (year : Int) : Bool := year % 4 = 0 && (year % 100 ≠ 0 || year % 400 = 0)

def monthLength (year : Int) (month : Nat) : Nat :=
  if month = 2 then (if isLeapYear year then 29 else 28)
  else if month = 4 ∨ month = 6 ∨ month = 9 ∨ month = 11 then 30
  else 31

/-- Whether the date is a day of a year in range. -/
def IsValid (date : CivilDate) : Prop :=
  -262143 ≤ date.year ∧ date.year ≤ 262142 ∧ 1 ≤ date.month ∧ date.month ≤ 12 ∧
    1 ≤ date.day ∧ date.day ≤ monthLength date.year date.month

instance (date : CivilDate) : Decidable date.IsValid := inferInstanceAs (Decidable (_ ∧ _))

def toDays (date : CivilDate) : Int :=
  let year := if date.month ≤ 2 then date.year - 1 else date.year
  let era := year / 400
  let yearOfEra := year % 400
  let monthFromMarch : Int := (date.month + 9) % 12
  let dayOfYear := (153 * monthFromMarch + 2) / 5 + date.day - 1
  let dayOfEra := yearOfEra * 365 + yearOfEra / 4 - yearOfEra / 100 + dayOfYear
  era * 146097 + dayOfEra - 719468

def ofDays (days : Int) : CivilDate :=
  let shifted := days + 719468
  let era := shifted / 146097
  let dayOfEra := shifted % 146097
  let yearOfEra := (dayOfEra - dayOfEra / 1460 + dayOfEra / 36524 - dayOfEra / 146096) / 365
  let dayOfYear := dayOfEra - (365 * yearOfEra + yearOfEra / 4 - yearOfEra / 100)
  let monthFromMarch := (5 * dayOfYear + 2) / 153
  let day := dayOfYear - (153 * monthFromMarch + 2) / 5 + 1
  let month := if monthFromMarch < 10 then monthFromMarch + 3 else monthFromMarch - 9
  let year := yearOfEra + era * 400
  ⟨if month ≤ 2 then year + 1 else year, month.toNat, day.toNat⟩

def firstDay : Int := toDays ⟨-262143, 1, 1⟩

def lastDay : Int := toDays ⟨262142, 12, 31⟩

end CivilDate

/-- An instant of universal time. A leap second is the last second of its minute with a thousand
million or more nanoseconds. -/
structure Moment where
  days : Int
  second : Nat
  nano : Nat
deriving DecidableEq

namespace Moment

/-- The instant of a local time that is `offset` seconds ahead of universal time, if its day is in
range. -/
def ofLocal? (days : Int) (second nano : Nat) (offset : Int) : Option Moment :=
  let shifted := (second : Int) - offset
  let days := days + shifted / 86400
  if CivilDate.firstDay ≤ days ∧ days ≤ CivilDate.lastDay then
    some ⟨days, (shifted % 86400).toNat, nano⟩
  else none

/-- The instant so many milliseconds after the start of 1970, if its day is in range. -/
def ofMilliseconds? (ms : Int) : Option Moment :=
  let days := ms / 86400000
  if CivilDate.firstDay ≤ days ∧ days ≤ CivilDate.lastDay then
    let rest := (ms % 86400000).toNat
    some ⟨days, rest / 1000, rest % 1000 * 1000000⟩
  else none

end Moment

end ToolSchema
