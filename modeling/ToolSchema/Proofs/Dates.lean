import ToolSchema.Coercion
import ToolSchema.Proofs.Acceptance
import ToolSchema.Proofs.Instants

/-!
# Validated dates are read again

A date comes in several notations, with zones, fractions and leap seconds, or as a number of
milliseconds. Each is read as an instant of a day in range, and a date validator gives the text of
that instant. Without coercion it then gives the text back, if its year is from 0 to 9999. The move
to universal time may lead to another year, as may a year with a sign or a number of milliseconds.
Such a year is written with a sign, and the text is refused.
-/

namespace ToolSchema

namespace Moment

open Numeral (natural)
open Outcome (bind_eq_ok)

/-! ## Instants as they are read -/

variable {least most low high n : ℕ} {cs rest : List Char} {moment : Moment}

/-- A number is the digits before what is left. -/
theorem exists_digits_of_number (h : number least most cs = .ok (n, rest)) :
    ∃ ds, cs = ds ++ rest ∧ (∀ c ∈ ds, c.isDigit) ∧ ds.length ≤ most ∧ n = natural ds := by
  let ds := (cs.take most).takeWhile Char.isDigit
  have hds : ∀ c ∈ ds, c.isDigit := fun c hc ↦ List.mem_takeWhile_imp hc
  have hprefix : ds <+: cs := (List.takeWhile_prefix _).trans (List.take_prefix _ _)
  rw [number] at h
  split_ifs at h
  obtain ⟨rfl, rfl⟩ := Prod.mk.inj (Except.ok.inj h)
  have hlength : ds.length ≤ most :=
    (List.takeWhile_prefix _).length_le.trans (List.length_take_le _ _)
  exact ⟨ds, (List.prefix_iff_eq_append.mp hprefix).symm, hds, hlength, rfl⟩

theorem mem_of_bounded (h : bounded least most low high cs = .ok (n, rest)) :
    low ≤ n ∧ n ≤ high := by
  obtain ⟨⟨n, rest⟩, -, h⟩ := bind_eq_ok.mp h
  dsimp only at h
  split_ifs at h with hn
  obtain ⟨rfl, -⟩ := Prod.mk.inj (Except.ok.inj h)
  exact hn

/-- A fraction is less than a second, however many digits are written. -/
theorem fraction_lt {nano : ℕ} (h : fraction cs = .ok (nano, rest)) : nano < 1000000000 := by
  obtain ⟨⟨n, others⟩, hnumber, h⟩ := bind_eq_ok.mp h
  obtain ⟨ds, rfl, hds, hlength, rfl⟩ := exists_digits_of_number hnumber
  obtain ⟨rfl, -⟩ := Prod.mk.inj (Except.ok.inj h)
  have htaken : (ds ++ others).length - others.length = ds.length := by simp
  calc natural ds * 10 ^ (9 - ((ds ++ others).length - others.length))
      = natural ds * 10 ^ (9 - ds.length) := by rw [htaken]
    _ < 10 ^ ds.length * 10 ^ (9 - ds.length) := by
      gcongr
      exact Numeral.natural_lt hds
    _ = 10 ^ 9 := by rw [← pow_add, Nat.add_sub_cancel' hlength]

theorem fraction?_lt {found : Option ℕ} (h : fraction? cs = .ok (found, rest)) :
    found.getD 0 < 1000000000 := by
  unfold fraction? at h
  split at h
  · obtain ⟨⟨nano, others⟩, hfraction, h⟩ := bind_eq_ok.mp h
    obtain ⟨rfl, -⟩ := Prod.mk.inj (Except.ok.inj h)
    exact fraction_lt hfraction
  · obtain ⟨rfl, -⟩ := Prod.mk.inj (Except.ok.inj h)
    decide

/-- Zones are whole minutes apart. -/
theorem dvd_of_zone {separator : List Char → Except MomentFault (List Char)} {offset : ℤ}
    (h : zone separator cs = .ok (offset, rest)) : 60 ∣ offset := by
  cases cs with
  | nil => cases h
  | cons c cs =>
    simp only [zone] at h
    split at h
    · obtain ⟨rfl, -⟩ := Prod.mk.inj (Except.ok.inj h)
      exact dvd_zero 60
    generalize (if c = '+' then some false else if c = '-' ∨ c = '−' then some true else none) =
      negative? at h
    cases negative? with
    | none => cases h
    | some negative =>
      obtain ⟨⟨h1, h2, others⟩, -, h⟩ := bind_eq_ok.mp h
      obtain ⟨others, -, h⟩ := bind_eq_ok.mp h
      obtain ⟨⟨m1, m2, others⟩, -, h⟩ := bind_eq_ok.mp h
      dsimp only at h
      split at h
      · cases h
      · obtain ⟨rfl, -⟩ := Prod.mk.inj (Except.ok.inj h)
        split <;> omega

/-- An offset of whole minutes does not move the seconds, so that a leap second stays at the end of
its minute. -/
theorem isValid_of_ofLocal? {days offset : ℤ} {second nano : ℕ} (hoffset : 60 ∣ offset)
    (hnano : nano < 1000000000 ∨ second % 60 = 59 ∧ nano < 2000000000)
    (h : ofLocal? days second nano offset = some moment) : moment.IsValid := by
  unfold ofLocal? at h
  dsimp only at h
  split_ifs at h with hdays
  obtain rfl := Option.some.inj h
  refine ⟨hdays, ?_, ?_⟩
  · dsimp only
    omega
  · dsimp only
    omega

theorem isValid_of_resolve {reading : Reading} {offset : ℤ} (htime : reading.IsTime)
    (hoffset : 60 ∣ offset) (h : resolve reading offset = .ok moment) : moment.IsValid := by
  obtain ⟨days, -, h⟩ := bind_eq_ok.mp h
  have hsecond := htime.second
  have hnano := htime.nano
  let clock : ℕ × ℕ := if reading.second = 60 then (59, 1000000000 + reading.nano)
    else (reading.second, reading.nano)
  have hleap : clock.2 < 1000000000 ∨
      (reading.hour * 3600 + reading.minute * 60 + clock.1) % 60 = 59 ∧ clock.2 < 2000000000 := by
    simp only [clock]
    split
    · right
      dsimp only
      omega
    · exact .inl hnano
  dsimp only at h
  split at h
  · cases h
  · split at h
    · rename_i hofLocal
      obtain rfl := Except.ok.inj h
      exact isValid_of_ofLocal? hoffset hleap hofLocal
    · cases h

theorem isTime_of_looseTime {blanks : Bool} {hour minute second nano : ℕ} (year : ℤ)
    (month day : ℕ) (h : looseTime blanks cs = .ok ((hour, minute, second, nano), rest)) :
    Reading.IsTime ⟨year, month, day, hour, minute, second, nano⟩ := by
  obtain ⟨⟨hour, others⟩, hhour, h⟩ := bind_eq_ok.mp h
  obtain ⟨others, -, h⟩ := bind_eq_ok.mp h
  obtain ⟨⟨minute, others⟩, hminute, h⟩ := bind_eq_ok.mp h
  obtain ⟨others, -, h⟩ := bind_eq_ok.mp h
  obtain ⟨⟨second, others⟩, hsecond, h⟩ := bind_eq_ok.mp h
  obtain ⟨⟨found, others⟩, hfraction, h⟩ := bind_eq_ok.mp h
  obtain ⟨⟨rfl, rfl, rfl, rfl⟩, -⟩ := by simpa using Except.ok.inj h
  exact ⟨(mem_of_bounded hhour).2, (mem_of_bounded hminute).2, (mem_of_bounded hsecond).2,
    fraction?_lt hfraction⟩

variable {text : List Char}

theorem isValid_of_readStrict (h : readStrict text = .ok moment) : moment.IsValid := by
  obtain ⟨⟨year, others⟩, -, h⟩ := bind_eq_ok.mp h
  obtain ⟨others, -, h⟩ := bind_eq_ok.mp h
  obtain ⟨⟨month, others⟩, -, h⟩ := bind_eq_ok.mp h
  obtain ⟨others, -, h⟩ := bind_eq_ok.mp h
  obtain ⟨⟨day, others⟩, -, h⟩ := bind_eq_ok.mp h
  cases others with
  | nil => cases h
  | cons c others =>
    dsimp only at h
    split at h
    · obtain ⟨others, -, h⟩ := bind_eq_ok.mp h
      obtain ⟨⟨hour, others⟩, hhour, h⟩ := bind_eq_ok.mp h
      obtain ⟨others, -, h⟩ := bind_eq_ok.mp h
      obtain ⟨⟨minute, others⟩, hminute, h⟩ := bind_eq_ok.mp h
      obtain ⟨others, -, h⟩ := bind_eq_ok.mp h
      obtain ⟨⟨second, others⟩, hsecond, h⟩ := bind_eq_ok.mp h
      obtain ⟨⟨found, others⟩, hfraction, h⟩ := bind_eq_ok.mp h
      obtain ⟨⟨offset, others⟩, hzone, h⟩ := bind_eq_ok.mp h
      dsimp only at h
      split_ifs at h
      exact isValid_of_resolve ⟨(mem_of_bounded hhour).2, (mem_of_bounded hminute).2,
        (mem_of_bounded hsecond).2, fraction?_lt hfraction⟩ (dvd_of_zone hzone) h
    · cases h

theorem isValid_of_readLocal (h : readLocal text = .ok moment) : moment.IsValid := by
  obtain ⟨⟨⟨year, month, day⟩, others⟩, -, h⟩ := bind_eq_ok.mp h
  obtain ⟨others, -, h⟩ := bind_eq_ok.mp h
  obtain ⟨⟨⟨hour, minute, second, nano⟩, others⟩, htime, h⟩ := bind_eq_ok.mp h
  dsimp only at h
  split_ifs at h
  exact isValid_of_resolve (isTime_of_looseTime year month day htime) (dvd_zero 60) h

theorem isValid_of_readDate (h : readDate text = .ok moment) : moment.IsValid := by
  obtain ⟨⟨⟨year, month, day⟩, others⟩, -, h⟩ := bind_eq_ok.mp h
  dsimp only at h
  split_ifs at h
  have htime : Reading.IsTime ⟨year, month, day, 0, 0, 0, 0⟩ := by
    constructor <;> simp
  exact isValid_of_resolve htime (dvd_zero 60) h

theorem isValid_of_ofMilliseconds? {ms : ℤ} (h : ofMilliseconds? ms = some moment) :
    moment.IsValid := by
  unfold ofMilliseconds? at h
  dsimp only at h
  split_ifs at h with hdays
  obtain rfl := Option.some.inj h
  refine ⟨hdays, ?_, ?_⟩
  · dsimp only
    omega
  · dsimp only
    omega

/-- Whichever notation a text is read in, the instant is valid. -/
theorem isValid_of_ofText? {coerce : Bool} {text : String} (h : ofText? coerce text = some moment) :
    moment.IsValid := by
  have hread : ∀ {found : Except MomentFault Moment},
      found.toOption = some moment → found = .ok moment := by
    intro found hfound
    cases found with
    | error fault => cases hfound
    | ok found => exact congrArg _ (Option.some.inj hfound)
  cases coerce with
  | false => exact isValid_of_readStrict (hread h)
  | true =>
    rcases Option.or_eq_some_iff.mp h with hfirst | ⟨-, hdate⟩
    · rcases Option.or_eq_some_iff.mp hfirst with hfull | ⟨-, hlocal⟩
      · exact isValid_of_readStrict (hread hfull)
      · exact isValid_of_readLocal (hread hlocal)
    · exact isValid_of_readDate (hread hdate)

end Moment

open Moment (IsPlainYear)

/-- The strict notation of an instant is read unless its year has a sign. -/
theorem Json.moment?_render {moment : Moment} (h : moment.IsValid) :
    (Json.string moment.render).moment? false =
      if IsPlainYear (CivilDate.ofDays moment.days).year then some moment else none := by
  have hread : (Json.string moment.render).moment? false =
      (Moment.readStrict moment.chars).toOption := by
    have htext : moment.render.toList = moment.chars := String.toList_ofList
    simp only [Json.moment?, Moment.ofText?, htext, Moment.trimChars_chars]
    rfl
  rw [hread]
  split_ifs with hyear
  · rw [Moment.readStrict_chars h hyear]
    rfl
  · cases hstrict : Moment.readStrict moment.chars with
    | error fault => rfl
    | ok again => exact absurd (Moment.isPlainYear_of_readStrict hstrict) hyear

/-- Numbers count milliseconds, and give valid instants as well as texts do. -/
theorem Json.isValid_of_moment? {coerce : Bool} {value : Json} {moment : Moment}
    (h : value.moment? coerce = some moment) : moment.IsValid := by
  cases value with
  | string text => exact Moment.isValid_of_ofText? h
  | number n =>
    obtain ⟨-, h⟩ := Option.ite_none_right_eq_some.mp h
    obtain ⟨ms, -, h⟩ := Option.bind_eq_some_iff.mp h
    exact Moment.isValid_of_ofMilliseconds? h
  | _ => cases h

/-! ## Validated dates -/

namespace Validator

/-- A date is checked in the text that it is rendered as, not in the one that was given. -/
theorem value?_judge_date {v : Validator} {coerce : Bool} (hkind : v.kind = .date coerce)
    (value : Json) :
    (v.judge (some value)).value? =
      ((value.moment? coerce).map fun moment ↦ .string moment.render).filter fun out ↦
        objections v.checks v.refinements out = [] := by
  rw [judge_some, Verdict.value?_conclude, hkind, judgeKind]
  cases value.moment? coerce <;> rfl

/-- What a date validator gives is the text of the instant that it has read. If the year has no
sign, the text is read as that instant again, and the same validator without coercion gives it back.
Otherwise the text is refused. -/
theorem validate_date_again {v : Validator} {coerce : Bool} (hkind : v.kind = .date coerce)
    {value out : Json} (h : v.validate value = .ok out) :
    ∃ moment : Moment, value.moment? coerce = some moment ∧ out = .string moment.render ∧
      out.moment? false =
        (if IsPlainYear (CivilDate.ofDays moment.days).year then some moment else none) ∧
      ({ v with kind := .date false }.accepts out ↔
        IsPlainYear (CivilDate.ofDays moment.days).year) ∧
      (IsPlainYear (CivilDate.ofDays moment.days).year →
        { v with kind := .date false }.validate out = .ok out) := by
  rw [validate_eq_ok_iff, value?_judge_date hkind, Option.filter_eq_some_iff] at h
  obtain ⟨hread, hobjections⟩ := h
  obtain ⟨moment, hmoment, rfl⟩ := Option.map_eq_some_iff.mp hread
  have hagain := Json.moment?_render (Json.isValid_of_moment? hmoment)
  refine ⟨moment, hmoment, rfl, hagain, ?_⟩
  rw [accepts_iff, validate_eq_ok_iff, value?_judge_date rfl, hagain]
  split_ifs with hyear
  · rw [Option.map_some, Option.filter_some, if_pos hobjections]
    exact ⟨iff_of_true rfl hyear, fun _ ↦ rfl⟩
  · exact ⟨iff_of_false (by simp) hyear, fun h ↦ absurd h hyear⟩

/-- A leap second, read in another zone and with blanks around it. -/
theorem validate_leapSecond_again :
    (date true).validate (.string " 2016-12-31t22:59:60-01:00 ") =
        .ok (.string "2016-12-31T23:59:60Z") ∧
      (date false).validate (.string "2016-12-31T23:59:60Z") =
        .ok (.string "2016-12-31T23:59:60Z") := by
  have h : (date true).validate (.string " 2016-12-31t22:59:60-01:00 ") =
      .ok (.string "2016-12-31T23:59:60Z") := by cbv
  have hread : (Json.string " 2016-12-31t22:59:60-01:00 ").moment? true =
      some ⟨17166, 86399, 1000000000⟩ := by cbv
  obtain ⟨moment, hmoment, -, -, -, hagain⟩ := validate_date_again rfl h
  obtain rfl : moment = ⟨17166, 86399, 1000000000⟩ := Option.some.inj (hmoment.symm.trans hread)
  exact ⟨h, hagain (by decide)⟩

/-- An instant of the year 9999 may be one of the year 10000 in universal time, which is written
with a sign. -/
theorem not_accepts_year_with_sign :
    (date false).validate (.string "9999-12-31T23:59:59-01:00") =
        .ok (.string "+10000-01-01T00:59:59Z") ∧
      (date false).accepts (.string "+10000-01-01T00:59:59Z") = false := by
  constructor <;> cbv

end Validator

end ToolSchema
