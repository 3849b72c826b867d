/-!
# Binary floating-point numbers

A finite number of the 64-bit binary format is a sign and the place of its magnitude among all
finite magnitudes in increasing order. The place determines the magnitude, magnitudes compare as
places do, and the successor of a magnitude is the next place. Rounding a quotient of naturals to
the nearest magnitude, a half to the even place, is exact integer arithmetic.
-/

namespace ToolSchema

/-- A finite number: `rank` counts the smaller magnitudes, of which there are `2 ^ 52` in each of
2047 binades. Zero has rank 0 under both signs. -/
structure Binary64 where
  negative : Bool
  rank : Fin (2047 * 0x10000000000000)
deriving DecidableEq

/-- A number of the format: finite, infinite, or not a number. -/
inductive Double where
  | finite (value : Binary64)
  | infinite (negative : Bool)
  | nan
deriving DecidableEq

namespace Binary64

/-- The magnitude as `m * 2 ^ e`: below rank `2 ^ 52` the spacing is the least one. -/
def dyadic (x : Binary64) : Nat × Int :=
  let binade : Nat := x.rank.val / 0x10000000000000
  if binade = 0 then (x.rank.val, -1074)
  else (0x10000000000000 + x.rank.val % 0x10000000000000, (binade : Int) - 1075)

/-- The magnitude as a quotient of naturals with positive denominator. -/
def ratio (x : Binary64) : Nat × Nat :=
  let (m, e) := x.dyadic
  (m <<< e.toNat, 1 <<< (-e).toNat)

/-- The exponent of the spacing at `num / den`, never below that of the least magnitudes. -/
def spacing (num den : Nat) : Int :=
  let estimate : Int := (num.log2 : Int) - (den.log2 : Int)
  let reaches : Bool := den <<< estimate.toNat ≤ num <<< (-estimate).toNat
  let top := if reaches then estimate else estimate - 1
  max (top - 52) (-1074)

/-- The rank nearest to `num / den`, a half going to the even rank. Ranks from `2047 * 2 ^ 52` on
lie beyond the finite numbers. -/
def nearestRank (num den : Nat) : Nat :=
  if num = 0 then 0
  else
    let unit := spacing num den
    let n := num <<< (-unit).toNat
    let d := den <<< unit.toNat
    let below := (unit + 1074).toNat * 0x10000000000000 + n / d
    let remainder := n % d
    if d < 2 * remainder then below + 1
    else if 2 * remainder < d then below
    else if below % 2 = 0 then below else below + 1

def zero (negative : Bool) : Binary64 := ⟨negative, ⟨0, by decide⟩⟩

def largest (negative : Bool) : Binary64 := ⟨negative, ⟨2047 * 0x10000000000000 - 1, by decide⟩⟩

/-- Numbers compare as their signed ranks; the two zeros are equal. -/
def key (x : Binary64) : Int :=
  if x.negative then -(x.rank.val : Int) else x.rank.val

def isIntegral (x : Binary64) : Bool :=
  let (n, d) := x.ratio
  n % d = 0

/-- The integer part, toward zero. -/
def truncate (x : Binary64) : Int :=
  let (n, d) := x.ratio
  let whole : Nat := n / d
  if x.negative then -(whole : Int) else whole

end Binary64

namespace Double

/-- The number nearest to `num / den` with the given sign; infinite beyond the finite range. -/
def ofRatio (negative : Bool) (num den : Nat) : Double :=
  let rank := Binary64.nearestRank num den
  if h : rank < 2047 * 0x10000000000000 then .finite ⟨negative, ⟨rank, h⟩⟩
  else .infinite negative

def ofDecimal (negative : Bool) (digits : Nat) (exponent : Int) : Double :=
  ofRatio negative (digits * Nat.pow 10 exponent.toNat) (Nat.pow 10 (-exponent).toNat)

def finite? : Double → Option Binary64
  | .finite x => some x
  | _ => none

/-- The nearest finite number to an infinite one is the largest of its sign. -/
def clamp : Double → Binary64
  | .finite x => x
  | .infinite negative => .largest negative
  | .nan => .zero false

/-- Strictly less; false as soon as one side is not a number. -/
def lt : Double → Double → Bool
  | .nan, _ => false
  | _, .nan => false
  | .finite x, .finite y => x.key < y.key
  | .infinite true, .infinite true => false
  | .infinite true, _ => true
  | .infinite false, _ => false
  | .finite _, .infinite negative => !negative

end Double

def Binary64.ofInt (n : Int) : Binary64 := (Double.ofRatio (n < 0) n.natAbs 1).clamp

end ToolSchema
