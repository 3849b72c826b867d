import ToolSchema.Moment.Calendar
import ToolSchema.Text.Blank

/-!
# Reading instants

Three notations are read. The strict one is a date of full width, a separator, a time of full width
with an optional fraction, and a zone. The local one has neither zone nor fixed widths and admits
blanks before numbers and signed years; a plain date is its first half. The relaxed one, for stored
time stamps, is the local one with blanks between all parts and a zone at the end. Digits past the
ninth of a fraction are dropped, and a second 60 is a leap second.
-/

namespace ToolSchema

inductive MomentFault where
  | outOfRange | impossible | invalid | tooShort | tooLong
deriving DecidableEq

namespace MomentFault

def message : MomentFault → String
  | outOfRange => "input is out of range"
  | impossible => "no possible date and time matching input"
  | invalid => "input contains invalid characters"
  | tooShort => "premature end of input"
  | tooLong => "trailing input"

end MomentFault

namespace Moment

def digitValue (c : Char) : Nat := c.toNat - '0'.toNat

def byteLength (cs : List Char) : Nat := cs.foldl (fun length c ↦ length + c.utf8Size) 0

/-- Reads at least `least` and at most `most` digits. -/
def number (least most : Nat) (cs : List Char) : Except MomentFault (Nat × List Char) :=
  let ds := (cs.take most).takeWhile Char.isDigit
  if byteLength cs < least then .error .tooShort
  else if ds.length < least then .error .invalid
  else .ok (ds.foldl (fun n c ↦ 10 * n + digitValue c) 0, cs.drop ds.length)

/-- Reads digits without an upper limit to their number. -/
def longNumber (cs : List Char) : Except MomentFault (Nat × List Char) := number 1 cs.length cs

/-- Reads one given character. -/
def sign (expected : Char) : List Char → Except MomentFault (List Char)
  | [] => .error .tooShort
  | c :: rest => if c = expected then .ok rest else .error .invalid

def bounded (least most low high : Nat) (cs : List Char) :
    Except MomentFault (Nat × List Char) := do
  let (n, rest) ← number least most cs
  if low ≤ n ∧ n ≤ high then .ok (n, rest) else .error .outOfRange

/-- Reads the digits of a fraction as nanoseconds. -/
def fraction (cs : List Char) : Except MomentFault (Nat × List Char) := do
  let (n, rest) ← number 1 9 cs
  let taken := cs.length - rest.length
  .ok (n * Nat.pow 10 (9 - taken), rest.dropWhile Char.isDigit)

def fraction? : List Char → Except MomentFault (Option Nat × List Char)
  | '.' :: rest => do
    let (nano, rest) ← fraction rest
    .ok (some nano, rest)
  | cs => .ok (none, cs)

/-- Two digits of a zone. -/
def pair (cs : List Char) : Except MomentFault (Char × Char × List Char) :=
  match cs with
  | a :: b :: rest =>
    if a.isDigit && b.isDigit then .ok (a, b, rest) else .error .invalid
  | _ => if byteLength cs < 2 then .error .tooShort else .error .invalid

/-- Reads a zone in seconds ahead of universal time; `separator` reads what stands between hours and
minutes. -/
def zone (separator : List Char → Except MomentFault (List Char)) :
    List Char → Except MomentFault (Int × List Char)
  | [] => .error .tooShort
  | c :: rest =>
    if c = 'Z' ∨ c = 'z' then .ok (0, rest)
    else
      let negative? :=
        if c = '+' then some false else if c = '-' ∨ c = '−' then some true else none
      match negative? with
      | none => .error .invalid
      | some negative => do
        let (h1, h2, rest) ← pair rest
        let rest ← separator rest
        let (m1, m2, rest) ← pair rest
        if '5' < m1 then .error .outOfRange
        else
          let seconds : Nat := (digitValue h1 * 10 + digitValue h2) * 3600 +
            (digitValue m1 * 10 + digitValue m2) * 60
          .ok (if negative then -(seconds : Int) else seconds, rest)

/-- A date and a time of day as read, before the calendar is asked. -/
structure Reading where
  year : Int
  month : Nat
  day : Nat
  hour : Nat
  minute : Nat
  second : Nat
  nano : Nat

/-- The number of the day, if the calendar has it. -/
def dayNumber (year : Int) (month day : Nat) : Except MomentFault Int :=
  let date : CivilDate := ⟨year, month, day⟩
  if date.IsValid then .ok date.toDays else .error .outOfRange

def resolve (reading : Reading) (offset : Int) : Except MomentFault Moment := do
  let days ← dayNumber reading.year reading.month reading.day
  let (second, nano) :=
    if reading.second = 60 then (59, 1000000000 + reading.nano) else (reading.second, reading.nano)
  if offset ≤ -86400 ∨ 86400 ≤ offset then .error .outOfRange
  else
    match ofLocal? days (reading.hour * 3600 + reading.minute * 60 + second) nano offset with
    | some moment => .ok moment
    | none => .error .impossible

def readStrict (text : List Char) : Except MomentFault Moment := do
  let (year, rest) ← number 4 4 text
  let rest ← sign '-' rest
  let (month, rest) ← bounded 2 2 1 12 rest
  let rest ← sign '-' rest
  let (day, rest) ← bounded 2 2 1 31 rest
  let rest ← match rest with
    | [] => .error .tooShort
    | c :: rest => if c = 'T' ∨ c = 't' ∨ c = ' ' then .ok rest else .error .invalid
  let (hour, rest) ← bounded 2 2 0 23 rest
  let rest ← sign ':' rest
  let (minute, rest) ← bounded 2 2 0 59 rest
  let rest ← sign ':' rest
  let (second, rest) ← bounded 2 2 0 60 rest
  let (nano, rest) ← fraction? rest
  let (offset, rest) ← zone (sign ':') rest
  if 86340 < offset.natAbs then .error .outOfRange
  else if !rest.isEmpty then .error .tooLong
  else resolve ⟨year, month, day, hour, minute, second, nano.getD 0⟩ offset

/-- Reads a year: four digits at most, or a sign and any number of digits. -/
def year (cs : List Char) : Except MomentFault (Int × List Char) := do
  let (n, rest) ← match cs.dropWhile Text.isBlank with
    | '-' :: rest => do
      let (n, rest) ← longNumber rest
      Except.ok (-(n : Int), rest)
    | '+' :: rest => do
      let (n, rest) ← longNumber rest
      Except.ok ((n : Int), rest)
    | rest => do
      let (n, rest) ← number 1 4 rest
      Except.ok ((n : Int), rest)
  if -0x80000000 ≤ n ∧ n < 0x80000000 then .ok (n, rest) else .error .outOfRange

/-- Reads one or two digits between bounds, after blanks. -/
def loose (low high : Nat) (cs : List Char) : Except MomentFault (Nat × List Char) :=
  bounded 1 2 low high (cs.dropWhile Text.isBlank)

/-- Drops blanks if they are allowed between the parts. -/
def gap (blanks : Bool) (cs : List Char) : List Char :=
  if blanks then cs.dropWhile Text.isBlank else cs

def looseDate (blanks : Bool) (cs : List Char) :
    Except MomentFault ((Int × Nat × Nat) × List Char) := do
  let (year, rest) ← year cs
  let rest ← sign '-' (gap blanks rest)
  let (month, rest) ← loose 1 12 rest
  let rest ← sign '-' (gap blanks rest)
  let (day, rest) ← loose 1 31 rest
  .ok ((year, month, day), rest)

def looseTime (blanks : Bool) (cs : List Char) :
    Except MomentFault ((Nat × Nat × Nat × Nat) × List Char) := do
  let (hour, rest) ← loose 0 23 cs
  let rest ← sign ':' (gap blanks rest)
  let (minute, rest) ← loose 0 59 rest
  let rest ← sign ':' (gap blanks rest)
  let (second, rest) ← loose 0 60 rest
  let (nano, rest) ← fraction? rest
  .ok ((hour, minute, second, nano.getD 0), rest)

/-- Reads the local notation as universal time. -/
def readLocal (text : List Char) : Except MomentFault Moment := do
  let ((year, month, day), rest) ← looseDate false text
  let rest ← sign 'T' rest
  let ((hour, minute, second, nano), rest) ← looseTime false rest
  if !rest.isEmpty then .error .tooLong
  else resolve ⟨year, month, day, hour, minute, second, nano⟩ 0

/-- Reads a plain date as its first instant. -/
def readDate (text : List Char) : Except MomentFault Moment := do
  let ((year, month, day), rest) ← looseDate false text
  if !rest.isEmpty then .error .tooLong else resolve ⟨year, month, day, 0, 0, 0, 0⟩ 0

def colonOrBlanks (cs : List Char) : Except MomentFault (List Char) :=
  .ok (cs.dropWhile fun c ↦ c = ':' || Text.isBlank c)

def readRelaxed (text : List Char) : Except MomentFault Moment := do
  let ((year, month, day), rest) ← looseDate true text
  let rest ← match rest with
    | [] => .error .tooShort
    | c :: rest => if c = 'T' ∨ c = 't' ∨ c = ' ' then .ok rest else .error .invalid
  let ((hour, minute, second, nano), rest) ← looseTime true rest
  let rest := rest.dropWhile Text.isBlank
  let (offset, rest) ←
    if (rest.take 3).map Char.toLower = ['u', 't', 'c'] then .ok ((0 : Int), rest.drop 3)
    else zone colonOrBlanks rest
  if !(rest.dropWhile Text.isBlank).isEmpty then .error .tooLong
  else resolve ⟨year, month, day, hour, minute, second, nano⟩ offset

end Moment

end ToolSchema
