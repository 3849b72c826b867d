import ToolSchema.Moment.Printer
import ToolSchema.Moment.Reader
import ToolSchema.Proofs.Calendar
import ToolSchema.Proofs.Numerals
import ToolSchema.Proofs.Outcomes

/-!
# Written instants are read again

The text of an instant is in the strict notation: its numbers have full width, its fraction no more
than nine digits, and its parts are those of the instant. It is read again, as the same instant, if
its year is from 0 to 9999. Any other year has a sign, with which no strict notation begins.
-/

namespace ToolSchema.Moment

open Numeral (natural)
open Outcome (bind_eq_ok)

/-! ## Numbers -/

variable {least most width n : ℕ} {ds rest : List Char}

theorem length_le_byteLength (cs : List Char) : cs.length ≤ byteLength cs := by
  have hfold : ∀ (cs : List Char) (length : ℕ),
      length + cs.length ≤ cs.foldl (fun length c ↦ length + c.utf8Size) length := by
    intro cs
    induction cs with
    | nil => exact fun length ↦ le_rfl
    | cons c cs ih =>
      intro length
      have hstep := ih (length + c.utf8Size)
      have hsize : 0 < c.utf8Size := c.utf8Size_pos
      rw [List.length_cons, List.foldl_cons]
      omega
  have h := hfold cs 0
  rwa [Nat.zero_add] at h

/-- A run of digits is read if it ends where a number of full width does, or before a character
that is no digit. -/
theorem number_append (hds : ∀ c ∈ ds, c.isDigit) (hleast : least ≤ ds.length)
    (hmost : ds.length ≤ most) (hend : ds.length = most ∨ ∀ c ∈ rest.head?, c.isDigit = false) :
    number least most (ds ++ rest) = .ok (natural ds, rest) := by
  have htake : ((ds ++ rest).take most).takeWhile Char.isDigit = ds := by
    rw [List.take_append, List.take_of_length_le hmost, List.takeWhile_append_of_pos hds]
    rcases hend with heq | hend
    · rw [heq, Nat.sub_self, List.take_zero, List.takeWhile_nil, List.append_nil]
    · cases rest with
      | nil => simp
      | cons c rest => cases most - ds.length <;> simp [hend c rfl]
  have hbytes : least ≤ byteLength (ds ++ rest) := by
    refine le_trans ?_ (length_le_byteLength _)
    rw [List.length_append]
    omega
  rw [number]
  simp only [htake, if_neg hbytes.not_gt, if_neg hleast.not_gt, List.drop_left]
  rfl

theorem isDigit_of_mem_padded : ∀ c ∈ padded width n, c.isDigit := by
  exact List.forall_mem_append.mpr ⟨Numeral.isDigit_of_mem_zeros, Numeral.isDigit_of_mem_digits⟩

theorem natural_padded : natural (padded width n) = n := by
  have hzeros : natural (List.replicate (width - (Nat.toDigits 10 n).length) '0') = 0 :=
    Numeral.natural_zeros _
  have hdigits : natural (Nat.toDigits 10 n) = n := Numeral.natural_digits n
  simp only [padded]
  rw [Numeral.natural_append, hzeros, hdigits, mul_zero, zero_add]

theorem length_padded (hwidth : 0 < width) (h : n < 10 ^ width) :
    (padded width n).length = width := by
  have hlength : (Nat.toDigits 10 n).length ≤ width := Nat.toDigits_length 10 n width hwidth h
  simp only [padded, List.length_append, List.length_replicate]
  omega

/-- A padded number is read back if it fits its width. -/
theorem number_padded (hwidth : 0 < width) (h : n < 10 ^ width) :
    number width width (padded width n ++ rest) = .ok (n, rest) := by
  have hlength := length_padded hwidth h
  rw [number_append isDigit_of_mem_padded hlength.ge hlength.le (.inl hlength), natural_padded]

theorem bounded_padded {low high : ℕ} (hn : low ≤ n ∧ n ≤ high) (h : high < 100) :
    bounded 2 2 low high (padded 2 n ++ rest) = .ok (n, rest) := by
  rw [bounded, number_padded (by decide) (by omega)]
  exact if_pos hn

/-! ## The strict notation -/

/-- Digits that are not written count as zeros behind the others. -/
theorem fraction_padded (hwidth : 0 < width) (hle : width ≤ 9) (h : n < 10 ^ width) :
    fraction (padded width n ++ ['Z']) = .ok (n * 10 ^ (9 - width), ['Z']) := by
  have hlength := length_padded hwidth h
  have hnumber : number 1 9 (padded width n ++ ['Z']) = .ok (n, ['Z']) := by
    rw [number_append isDigit_of_mem_padded (by omega) (by omega) (.inr (by simp)), natural_padded]
  have htaken : (padded width n ++ ['Z']).length - ['Z'].length = width := by
    simp [hlength]
  refine bind_eq_ok.mpr ⟨_, hnumber, ?_⟩
  simp only [htaken]
  rfl

theorem fraction?_padded (hwidth : 0 < width) (hle : width ≤ 9) (h : n < 10 ^ width) :
    fraction? ('.' :: padded width n ++ ['Z']) = .ok (some (n * 10 ^ (9 - width)), ['Z']) := by
  rw [List.cons_append, fraction?, fraction_padded hwidth hle h]
  rfl

/-- No digit of a fraction that is not written counts. -/
theorem fraction?_fractionText {nano : ℕ} (h : nano < 1000000000) :
    ∃ found, fraction? (fractionText nano ++ ['Z']) = .ok (found, ['Z']) ∧
      found.getD 0 = nano := by
  unfold fractionText
  split_ifs with hzero hmilli hmicro
  · exact ⟨none, rfl, hzero.symm⟩
  · refine ⟨_, fraction?_padded (by decide) (by decide) (by omega), ?_⟩
    rw [Option.getD_some]
    omega
  · refine ⟨_, fraction?_padded (by decide) (by decide) (by omega), ?_⟩
    rw [Option.getD_some]
    omega
  · refine ⟨_, fraction?_padded (by decide) (by decide) (by omega), ?_⟩
    rw [Option.getD_some]
    omega

/-- A time of day in range, with second 60 as a leap second. -/
structure Reading.IsTime (reading : Reading) : Prop where
  hour : reading.hour ≤ 23
  minute : reading.minute ≤ 59
  second : reading.second ≤ 60
  nano : reading.nano < 1000000000

/-- The strict notation of a reading, in universal time. -/
def Reading.chars (reading : Reading) : List Char :=
  yearText reading.year ++ '-' :: (padded 2 reading.month ++ '-' :: (padded 2 reading.day ++
    'T' :: (padded 2 reading.hour ++ ':' :: (padded 2 reading.minute ++
    ':' :: (padded 2 reading.second ++ (fractionText reading.nano ++ ['Z']))))))

/-- Whether a year is written without a sign. -/
def IsPlainYear (year : ℤ) : Prop := 0 ≤ year ∧ year ≤ 9999

instance (year : ℤ) : Decidable (IsPlainYear year) := inferInstanceAs (Decidable (_ ∧ _))

variable {moment : Moment}

/-- A reading is read from its strict notation part by part, and then the calendar is asked. -/
theorem readStrict_chars_of_resolve {reading : Reading} (hyear : IsPlainYear reading.year)
    (hmonth : 1 ≤ reading.month ∧ reading.month ≤ 12) (hday : 1 ≤ reading.day ∧ reading.day ≤ 31)
    (htime : reading.IsTime) (h : resolve reading 0 = .ok moment) :
    readStrict reading.chars = .ok moment := by
  obtain ⟨year, month, day, hour, minute, second, nano⟩ := reading
  obtain ⟨hhour, hminute, hsecond, hnano⟩ := htime
  obtain ⟨hnonneg, hle⟩ := hyear
  obtain ⟨n, rfl⟩ := Int.eq_ofNat_of_zero_le hnonneg
  obtain ⟨found, hfound, rfl⟩ := fraction?_fractionText hnano
  have hyearText : yearText n = padded 4 n := if_pos ⟨hnonneg, hle⟩
  have hn : n < 10 ^ 4 := by
    dsimp only at hle
    omega
  rw [Reading.chars, hyearText]
  -- Each line reads a number and the mark behind it.
  refine bind_eq_ok.mpr ⟨_, number_padded (by decide) hn, bind_eq_ok.mpr ⟨_, rfl, ?_⟩⟩
  refine bind_eq_ok.mpr ⟨_, bounded_padded hmonth (by decide), bind_eq_ok.mpr ⟨_, rfl, ?_⟩⟩
  refine bind_eq_ok.mpr ⟨_, bounded_padded hday (by decide), bind_eq_ok.mpr ⟨_, rfl, ?_⟩⟩
  refine bind_eq_ok.mpr ⟨_, bounded_padded ⟨Nat.zero_le _, hhour⟩ (by decide),
    bind_eq_ok.mpr ⟨_, rfl, ?_⟩⟩
  refine bind_eq_ok.mpr ⟨_, bounded_padded ⟨Nat.zero_le _, hminute⟩ (by decide),
    bind_eq_ok.mpr ⟨_, rfl, ?_⟩⟩
  refine bind_eq_ok.mpr ⟨_, bounded_padded ⟨Nat.zero_le _, hsecond⟩ (by decide), ?_⟩
  exact bind_eq_ok.mpr ⟨_, hfound, bind_eq_ok.mpr ⟨_, rfl, h⟩⟩

/-! ## The parts of an instant -/

/-- An instant of a day in range. A leap second is the last second of its minute. -/
structure IsValid (moment : Moment) : Prop where
  days : CivilDate.firstDay ≤ moment.days ∧ moment.days ≤ CivilDate.lastDay
  second : moment.second < 86400
  nano : moment.nano < 1000000000 ∨ moment.second % 60 = 59 ∧ moment.nano < 2000000000

/-- An instant as it is written. -/
def parts (moment : Moment) : Reading :=
  let date := CivilDate.ofDays moment.days
  let leap := 1000000000 ≤ moment.nano
  ⟨date.year, date.month, date.day, moment.second / 3600, moment.second / 60 % 60,
    moment.second % 60 + if leap then 1 else 0,
    if leap then moment.nano - 1000000000 else moment.nano⟩

theorem chars_parts (moment : Moment) : moment.parts.chars = moment.chars := by
  simp only [Reading.chars, parts, chars, List.append_assoc, List.cons_append]

theorem isTime_parts (h : moment.IsValid) : moment.parts.IsTime := by
  have hsecond := h.second
  have hnano := h.nano
  unfold parts
  constructor <;> dsimp only
  · omega
  · omega
  · split <;> omega
  · split <;> omega

theorem ofLocal?_zero (h : moment.IsValid) :
    ofLocal? moment.days moment.second moment.nano 0 = some moment := by
  have hsecond := h.second
  have hdays : moment.days + ((moment.second : ℤ) - 0) / 86400 = moment.days := by omega
  have hrest : (((moment.second : ℤ) - 0) % 86400).toNat = moment.second := by omega
  simp only [ofLocal?, hdays, hrest]
  exact if_pos h.days

theorem resolve_parts (h : moment.IsValid) (hdate : (CivilDate.ofDays moment.days).IsValid) :
    resolve moment.parts 0 = .ok moment := by
  have hdays : dayNumber moment.parts.year moment.parts.month moment.parts.day =
      .ok moment.days := by
    calc dayNumber moment.parts.year moment.parts.month moment.parts.day
        = .ok (CivilDate.ofDays moment.days).toDays := if_pos hdate
      _ = .ok moment.days := by rw [CivilDate.toDays_ofDays]
  have hsplit : moment.second / 3600 * 3600 + moment.second / 60 % 60 * 60 + moment.second % 60 =
      moment.second := by omega
  have hsecond : moment.second % 60 < 60 := Nat.mod_lt _ (by decide)
  have hzone : ¬((0 : ℤ) ≤ -86400 ∨ 86400 ≤ (0 : ℤ)) := by decide
  have hnano := h.nano
  refine bind_eq_ok.mpr ⟨_, hdays, ?_⟩
  by_cases hleap : 1000000000 ≤ moment.nano
  · have hlast : moment.second % 60 = 59 := by omega
    have hrest : 1000000000 + (moment.nano - 1000000000) = moment.nano := by omega
    rw [hlast] at hsplit
    simp only [parts, if_pos hleap, hlast, if_pos, hrest, hsplit, if_neg hzone, ofLocal?_zero h]
  · simp only [parts, if_neg hleap, add_zero, if_neg hsecond.ne, hsplit, if_neg hzone,
      ofLocal?_zero h]

/-- An instant is read back from its own notation, unless its year has a sign. -/
theorem readStrict_chars (h : moment.IsValid)
    (hyear : IsPlainYear (CivilDate.ofDays moment.days).year) :
    readStrict moment.chars = .ok moment := by
  have hdate : (CivilDate.ofDays moment.days).IsValid := by
    apply CivilDate.isValid_ofDays
    unfold IsPlainYear at hyear
    omega
  have hresolve := resolve_parts h hdate
  obtain ⟨-, -, hmonth, hmonthLe, hday, hdayLe⟩ := hdate
  rw [← chars_parts]
  exact readStrict_chars_of_resolve hyear ⟨hmonth, hmonthLe⟩
    ⟨hday, hdayLe.trans (CivilDate.monthLength_le _ _)⟩ (isTime_parts h) hresolve

/-! ## Where an instant begins -/

theorem isBlank_of_isDigit {c : Char} (h : c.isDigit) : Text.isBlank c = false := by
  have hcode : 48 ≤ c.toNat ∧ c.toNat ≤ 57 := Char.isDigit_iff_toNat.mp h
  exact Text.isBlank_of_visible (by omega)

/-- A year begins with a digit if it has no sign, and never with a blank. -/
theorem exists_yearText_eq (year : ℤ) :
    ∃ c rest, yearText year = c :: rest ∧ Text.isBlank c = false ∧
      (c.isDigit ↔ IsPlainYear year) := by
  by_cases hyear : IsPlainYear year
  · have hyearText : yearText year = padded 4 year.toNat := if_pos hyear
    obtain ⟨c, rest, heq⟩ : ∃ c rest, padded 4 year.toNat = c :: rest := by
      apply List.exists_cons_of_ne_nil
      exact List.append_ne_nil_of_right_ne_nil _ Nat.toDigits_ne_nil
    have hc : c.isDigit := by
      apply isDigit_of_mem_padded
      rw [heq]
      exact List.mem_cons_self
    exact ⟨c, rest, hyearText.trans heq, isBlank_of_isDigit hc, iff_of_true hc hyear⟩
  · refine ⟨_, _, if_neg hyear, ?_, iff_of_false ?_ hyear⟩
    · split <;> rfl
    · split <;> decide

/-- The first character tells whether the year has a sign: without one it is a digit. -/
theorem exists_chars_eq (moment : Moment) :
    ∃ c rest, moment.chars = c :: rest ∧ Text.isBlank c = false ∧
      (c.isDigit ↔ IsPlainYear (CivilDate.ofDays moment.days).year) := by
  obtain ⟨c, rest, hyearText, hc⟩ := exists_yearText_eq (CivilDate.ofDays moment.days).year
  obtain ⟨others, hothers⟩ :
      ∃ others, moment.chars = yearText (CivilDate.ofDays moment.days).year ++ others := by
    simp only [chars, List.append_assoc]
    exact ⟨_, rfl⟩
  have hchars : moment.chars = c :: (rest ++ others) := by
    rw [hothers, hyearText, List.cons_append]
  exact ⟨c, rest ++ others, hchars, hc⟩

/-- Nothing is read where a digit is needed and none stands. -/
theorem number_cons_ne_ok {c : Char} {out : ℕ × List Char} (hc : c.isDigit = false)
    (hleast : 0 < least) : number least most (c :: rest) ≠ .ok out := by
  have htake : ((c :: rest).take most).takeWhile Char.isDigit = [] := by
    cases most <;> simp [hc]
  rw [number]
  simp only [htake, List.length_nil, if_pos hleast]
  split <;> simp

/-- The strict notation has no sign. -/
theorem isPlainYear_of_readStrict {again : Moment} (h : readStrict moment.chars = .ok again) :
    IsPlainYear (CivilDate.ofDays moment.days).year := by
  obtain ⟨c, rest, hchars, -, hdigit⟩ := exists_chars_eq moment
  by_contra hyear
  rw [hchars] at h
  obtain ⟨_, hnumber, -⟩ := bind_eq_ok.mp h
  exact number_cons_ne_ok (by simpa using hdigit.not.mpr hyear) (by decide) hnumber

theorem dropWhile_isBlank_cons {c : Char} (hc : Text.isBlank c = false) :
    (c :: rest).dropWhile Text.isBlank = c :: rest := by
  apply List.dropWhile_cons_of_neg
  simp [hc]

/-- An instant neither starts nor ends with a blank. -/
theorem trimChars_chars (moment : Moment) : Text.trimChars moment.chars = moment.chars := by
  obtain ⟨c, rest, hchars, hblank, -⟩ := exists_chars_eq moment
  obtain ⟨front, hend⟩ : ∃ front, moment.chars = front ++ ['Z'] := ⟨_, rfl⟩
  calc Text.trimChars moment.chars
      = Text.trimEnd moment.chars := by
        rw [Text.trimChars, hchars, dropWhile_isBlank_cons hblank]
    _ = (('Z' :: front.reverse).dropWhile Text.isBlank).reverse := by
        rw [hend, Text.trimEnd, List.reverse_append, List.reverse_singleton,
          List.singleton_append]
    _ = moment.chars := by
        rw [dropWhile_isBlank_cons (by decide), List.reverse_cons, List.reverse_reverse, hend]

end ToolSchema.Moment
