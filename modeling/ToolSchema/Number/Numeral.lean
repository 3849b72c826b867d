import ToolSchema.Number.Shortest

/-!
# Numerals

Two ways to write a finite number: the one of JSON documents, with a point or an exponent always,
and the plain one of messages and emitted source, positional with no needless point. And one way
to read a decimal text: sign, digits with an optional point, optional exponent, or the names of the
values that are not finite.
-/

namespace ToolSchema.Numeral

def digits (n : Nat) : List Char := Nat.toDigits 10 n

def zeros (n : Nat) : List Char := List.replicate n '0'

/-- Positional notation; `point` says whether an integer keeps a zero after the point. -/
def positional (point : Bool) (d : Decimal) : List Char :=
  let ds := digits d.digits
  let whole : Int := (ds.length : Int) + d.exponent
  if 0 ≤ d.exponent then
    ds ++ zeros d.exponent.toNat ++ (if point then ['.', '0'] else [])
  else if 0 < whole then
    ds.take whole.toNat ++ '.' :: ds.drop whole.toNat
  else
    '0' :: '.' :: (zeros (-whole).toNat ++ ds)

/-- Scientific notation: one digit before the point, and an exponent that is always signed. -/
def scientific (d : Decimal) : List Char :=
  let ds := digits d.digits
  let power : Int := (ds.length : Int) - 1 + d.exponent
  let fraction := ds.drop 1
  ds.take 1 ++ (if fraction.isEmpty then [] else '.' :: fraction) ++
    'e' :: (if power < 0 then '-' else '+') :: digits power.natAbs

/-- A number of a JSON document: positional while the leading digit stands at one of the powers
`-5` to `15`, scientific beyond. A tie between two shortest decimals goes to the even one. -/
def document (x : Binary64) : String :=
  let d := Decimal.shortest .toEven x
  let power : Int := ((digits d.digits).length : Int) - 1 + d.exponent
  let body := if -5 ≤ power ∧ power ≤ 15 then positional true d else scientific d
  String.ofList (if x.negative then '-' :: body else body)

/-- A finite number in plain positional notation. A tie between two shortest decimals goes up. -/
def plainFinite (x : Binary64) : String :=
  let body := positional false (Decimal.shortest .upward x)
  String.ofList (if x.negative then '-' :: body else body)

def plain : Double → String
  | .finite x => plainFinite x
  | .infinite negative => if negative then "-inf" else "inf"
  | .nan => "NaN"

/-- The value of a run of decimal digits, most significant first. -/
def ofDigits (cs : List Char) : Nat :=
  cs.foldl (fun n c ↦ 10 * n + (c.toNat - '0'.toNat)) 0

/-- An exponent: an optional sign and at least one digit, to the end. -/
def readExponent? (cs : List Char) : Option Int :=
  let (negative, rest) := match cs with
    | '-' :: r => (true, r)
    | '+' :: r => (false, r)
    | r => (false, r)
  if rest.isEmpty || !rest.all Char.isDigit then none
  else some (if negative then -((ofDigits rest : Nat) : Int) else (ofDigits rest : Nat))

/-- Exponents past this size cannot change where a text of the given length rounds. -/
def capExponent (length : Nat) (e : Int) : Int :=
  let bound : Int := 2000 + length
  if bound < e then bound else if e < -bound then -bound else e

def readMagnitude? (negative : Bool) (cs : List Char) : Option Double :=
  let whole := cs.takeWhile Char.isDigit
  let afterWhole := cs.dropWhile Char.isDigit
  let (fraction, rest) := match afterWhole with
    | '.' :: r => (r.takeWhile Char.isDigit, r.dropWhile Char.isDigit)
    | r => ([], r)
  if whole.isEmpty && fraction.isEmpty then none
  else
    let exponent? := match rest with
      | [] => some 0
      | 'e' :: r => readExponent? r
      | 'E' :: r => readExponent? r
      | _ => none
    exponent?.map fun e ↦
      let significand := ofDigits (whole ++ fraction)
      if significand = 0 then .finite (.zero negative)
      else
        Double.ofDecimal negative significand (capExponent cs.length e - fraction.length)

/-- Reads a whole text as a number, correctly rounded. -/
def read? (text : String) : Option Double :=
  let (negative, body) := match text.toList with
    | '-' :: r => (true, r)
    | '+' :: r => (false, r)
    | r => (false, r)
  match body.map Char.toLower with
  | ['n', 'a', 'n'] => some .nan
  | ['i', 'n', 'f'] => some (.infinite negative)
  | ['i', 'n', 'f', 'i', 'n', 'i', 't', 'y'] => some (.infinite negative)
  | _ => readMagnitude? negative body

end ToolSchema.Numeral
