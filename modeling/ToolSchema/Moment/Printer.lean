import ToolSchema.Moment.Calendar

/-!
# Writing instants

An instant is written in universal time with a closing `Z`. Years from 0 to 9999 have four digits,
other years a sign and at least four. The fraction has no, three, six or nine digits, the fewest
that lose nothing.
-/

namespace ToolSchema.Moment

/-- A natural with zeros in front up to the given width. -/
def padded (width n : Nat) : List Char :=
  let ds := Nat.toDigits 10 n
  List.replicate (width - ds.length) '0' ++ ds

def yearText (year : Int) : List Char :=
  if 0 ≤ year ∧ year ≤ 9999 then padded 4 year.toNat
  else (if year < 0 then '-' else '+') :: padded 4 year.natAbs

/-- The fraction of a second, with its point. -/
def fractionText (nano : Nat) : List Char :=
  if nano = 0 then []
  else if nano % 1000000 = 0 then '.' :: padded 3 (nano / 1000000)
  else if nano % 1000 = 0 then '.' :: padded 6 (nano / 1000)
  else '.' :: padded 9 nano

def chars (moment : Moment) : List Char :=
  let date := CivilDate.ofDays moment.days
  let leap := 1000000000 ≤ moment.nano
  let second := moment.second % 60 + (if leap then 1 else 0)
  let nano := if leap then moment.nano - 1000000000 else moment.nano
  yearText date.year ++ '-' :: padded 2 date.month ++ '-' :: padded 2 date.day ++
    'T' :: padded 2 (moment.second / 3600) ++ ':' :: padded 2 (moment.second / 60 % 60) ++
    ':' :: padded 2 second ++ fractionText nano ++ ['Z']

def render (moment : Moment) : String := String.ofList moment.chars

end ToolSchema.Moment
