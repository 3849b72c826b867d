import ToolSchema.Moment.Calendar

/-!
# Numbers of days are dates

The calendar repeats after an era of 400 years, which begins on 1 March. Within an era the year of a
day is found by taking out the leap days before it, and within a year the month by a line through
the beginnings of the months. The date found is a day of the calendar, and its number is the one it
was found from.
-/

namespace ToolSchema.CivilDate

/-! ## Years of an era -/

/-- The day of the era on which a year begins. -/
def yearStart (year : Int) : Int := 365 * year + year / 4 - year / 100

/-- Whether a year that begins on 1 March ends with a leap day: the next year of the calendar has
one. -/
def HasLeapDay (year : Int) : Prop := (year + 1) % 4 = 0 ∧ ((year + 1) % 100 ≠ 0 ∨ year = 399)

/-- The year of a day of the era. -/
def yearOfEra (day : Int) : Int := (day - day / 1460 + day / 36524 - day / 146096) / 365

variable {day : Int}

/-- A day of the era stands in a century, there in a span of 1460 days, and there in one of five
years, as the span began some days early. The last day of the era is left out. -/
theorem exists_century_span (hnonneg : 0 ≤ day) (hlt : day < 146096) :
    ∃ century span year rest : Int, (0 ≤ century ∧ century ≤ 3) ∧
      (year = -1 ∨ year = 0 ∨ year = 1 ∨ year = 2 ∨ year = 3) ∧
      yearOfEra day = 100 * century + 4 * span + year ∧
      (0 ≤ 4 * span + year ∧ 4 * span + year ≤ 99) ∧
      day = 36500 * century + 1460 * span + rest ∧ day < 36524 * century + 36524 ∧
      365 * year ≤ rest - span - 24 * century ∧ rest - span - 24 * century < 365 * (year + 1) := by
  let century := day / 36524
  let span := day / 1460 - 25 * century
  let rest := day % 1460
  refine ⟨century, span, (rest - span - 24 * century) / 365, rest, ?_, ?_, ?_, ?_, ?_, ?_, ?_, ?_⟩
  all_goals
    simp only [century, span, rest, yearOfEra]
    omega

/-- The year of a day began on that day or before, and the day is the last of a leap year or one of
the 365 first days of any year. -/
theorem yearOfEra_spec (hnonneg : 0 ≤ day) (hlt : day < 146097) :
    (0 ≤ yearOfEra day ∧ yearOfEra day ≤ 399) ∧
      (yearStart (yearOfEra day) ≤ day ∧ day ≤ yearStart (yearOfEra day) + 365) ∧
      (day = yearStart (yearOfEra day) + 365 → HasLeapDay (yearOfEra day)) := by
  by_cases hlast : day = 146096
  · subst hlast
    simp only [HasLeapDay]
    decide
  obtain ⟨century, span, year, rest, hcentury, hyear, heq, hplace, hday, hbefore, hlow, hhigh⟩ :=
    exists_century_span hnonneg (by omega)
  -- With both quotients of the year known, the leap days before it are counted exactly.
  have hquarters : yearOfEra day / 4 = 25 * century + span + year / 4 := by omega
  have hcenturies : yearOfEra day / 100 = century := by omega
  unfold yearStart HasLeapDay
  refine ⟨by omega, by omega, fun hleap ↦ ⟨by omega, ?_⟩⟩
  by_cases hend : yearOfEra day = 399
  · exact .inr hend
  · left
    omega

/-! ## Months of a year -/

/-- The day of the year on which a month begins, counted from March. -/
def monthStart (month : Int) : Int := (153 * month + 2) / 5

/-- The quotient finds the last month that begins on the day or before it. -/
theorem monthStart_spec (hnonneg : 0 ≤ day) (hle : day ≤ 365) :
    (0 ≤ (5 * day + 2) / 153 ∧ (5 * day + 2) / 153 ≤ 11) ∧
      monthStart ((5 * day + 2) / 153) ≤ day ∧ day < monthStart ((5 * day + 2) / 153 + 1) := by
  unfold monthStart
  omega

/-- February, the last month, is left out. -/
theorem monthLength_eq_sub {month : Int} (hmonth : 0 ≤ month ∧ month ≤ 10) (year : Int) :
    (monthLength year (month + if month < 10 then 3 else -9).toNat : Int) =
      monthStart (month + 1) - monthStart month := by
  have hcases : month = 0 ∨ month = 1 ∨ month = 2 ∨ month = 3 ∨ month = 4 ∨ month = 5 ∨
      month = 6 ∨ month = 7 ∨ month = 8 ∨ month = 9 ∨ month = 10 := by omega
  rcases hcases with rfl | rfl | rfl | rfl | rfl | rfl | rfl | rfl | rfl | rfl | rfl
  all_goals rfl

theorem monthLength_le (year : Int) (month : Nat) : monthLength year month ≤ 31 := by
  unfold monthLength
  split
  · split <;> decide
  · split <;> decide

/-! ## Dates -/

/-- Where a number of a day stands in the calendar, with years and months that begin in March, and
the date that it has. -/
theorem ofDays_spec (days : Int) :
    ∃ era year month day : Int, days + 719468 = 146097 * era + yearStart year + day ∧
      (0 ≤ year ∧ year ≤ 399) ∧ (0 ≤ month ∧ month ≤ 11) ∧
      (monthStart month ≤ day ∧ day < monthStart (month + 1)) ∧ day ≤ 365 ∧
      (day = 365 → HasLeapDay year) ∧
      (ofDays days).year = year + 400 * era + (if month < 10 then 0 else 1) ∧
      ((ofDays days).month : Int) = month + (if month < 10 then 3 else -9) ∧
      ((ofDays days).day : Int) = day - monthStart month + 1 := by
  let dayOfEra := (days + 719468) % 146097
  let year := yearOfEra dayOfEra
  let day := dayOfEra - yearStart year
  let month := (5 * day + 2) / 153
  obtain ⟨hyear, hday, hleap⟩ :
      (0 ≤ year ∧ year ≤ 399) ∧ (yearStart year ≤ dayOfEra ∧ dayOfEra ≤ yearStart year + 365) ∧
        (dayOfEra = yearStart year + 365 → HasLeapDay year) :=
    yearOfEra_spec (by omega) (by omega)
  obtain ⟨hmonth, hfirst, hlast⟩ :
      (0 ≤ month ∧ month ≤ 11) ∧ monthStart month ≤ day ∧ day < monthStart (month + 1) :=
    monthStart_spec (by omega) (by omega)
  have hdate : ofDays days =
      ⟨if (if month < 10 then month + 3 else month - 9) ≤ 2 then
          year + (days + 719468) / 146097 * 400 + 1 else year + (days + 719468) / 146097 * 400,
        (if month < 10 then month + 3 else month - 9).toNat,
        (day - monthStart month + 1).toNat⟩ := rfl
  refine ⟨(days + 719468) / 146097, year, month, day, ?_, hyear, hmonth, ⟨hfirst, hlast⟩, ?_, ?_,
    ?_, ?_, ?_⟩
  · omega
  · omega
  · intro h
    exact hleap (by omega)
  · rw [hdate]
    dsimp only
    omega
  · rw [hdate]
    dsimp only
    omega
  · rw [hdate]
    dsimp only
    omega

/-- The number of the date found for a number of a day is that number. -/
theorem toDays_ofDays (days : Int) : (ofDays days).toDays = days := by
  obtain ⟨era, year, month, day, hdays, hplace, hmonth, -, -, -, hdateYear, hdateMonth, hdateDay⟩ :=
    ofDays_spec days
  have hfromMarch : (((ofDays days).month : Int) + 9) % 12 = month := by
    split at hdateMonth <;> omega
  have hyearFromMarch :
      (if (ofDays days).month ≤ 2 then (ofDays days).year - 1 else (ofDays days).year) =
        400 * era + year := by
    split at hdateMonth <;> split <;> omega
  unfold toDays
  dsimp only
  rw [hyearFromMarch, hfromMarch, hdateDay]
  simp only [yearStart, monthStart] at hdays ⊢
  omega

/-- The date found for a number of a day is a day of the calendar, if its year is in range. -/
theorem isValid_ofDays {days : Int}
    (hyear : -262143 ≤ (ofDays days).year ∧ (ofDays days).year ≤ 262142) :
    (ofDays days).IsValid := by
  obtain ⟨era, year, month, day, hdays, hplace, hmonth, hday, hle, hleap, hdateYear, hdateMonth,
    hdateDay⟩ := ofDays_spec days
  refine ⟨hyear.1, hyear.2, by omega, by omega, by omega, ?_⟩
  by_cases hlast : month = 11
  · subst hlast
    have hmonthStart : monthStart 11 = 337 := rfl
    have hfebruary : (ofDays days).month = 2 := by omega
    have hlength : monthLength (ofDays days).year (ofDays days).month =
        if isLeapYear (ofDays days).year then 29 else 28 := by rw [hfebruary]; rfl
    by_cases hend : day = 365
    · have hisLeap : isLeapYear (ofDays days).year = true := by
        obtain ⟨hquarter, hcentury⟩ := hleap hend
        simp only [isLeapYear, Bool.and_eq_true, Bool.or_eq_true, decide_eq_true_eq]
        omega
      rw [hlength, if_pos hisLeap]
      omega
    · rw [hlength]
      split <;> omega
  · have hlength := monthLength_eq_sub ⟨hmonth.1, by omega⟩ (ofDays days).year
    rw [← hdateMonth, Int.toNat_natCast] at hlength
    omega

end ToolSchema.CivilDate
