import ToolSchema.Number.Binary64

/-!
# Shortest decimals

The decimal written for a finite number has the fewest digits that round back to it, and is the
nearest such decimal. The search walks the grids of one, two, up to seventeen leading digits and
tries the two neighbours of the number on each grid; the exact decimal value is the last resort.
-/

namespace ToolSchema

/-- A decimal `digits * 10 ^ exponent`. -/
structure Decimal where
  digits : Nat
  exponent : Int
deriving DecidableEq

/-- Which of two equally near decimals is taken. -/
inductive Tie where
  | toEven
  | upward

namespace Decimal

/-- The number of decimal digits of a natural. -/
def width (n : Nat) : Nat := (Nat.toDigits 10 n).length

/-- The least `k` with `num / den < 10 ^ k`, for a positive quotient. -/
def magnitude (num den : Nat) : Int :=
  if den ≤ num then width (num / den)
  else
    let places := width (den / num) - 1
    if den ≤ num * Nat.pow 10 places then 1 - (places : Int) else -(places : Int)

/-- Whether the decimal rounds to the magnitude of `x`. -/
def readsBack (x : Binary64) (d : Decimal) : Bool :=
  let num := d.digits * Nat.pow 10 d.exponent.toNat
  let den := Nat.pow 10 (-d.exponent).toNat
  Binary64.nearestRank num den = x.rank.val

/-- The decimals next to the magnitude on the grid `10 ^ exponent` that round back to it, reduced
to the nearer one. -/
def onGrid? (tie : Tie) (x : Binary64) (exponent : Int) : Option Decimal :=
  let (num, den) := x.ratio
  let n := num * Nat.pow 10 (-exponent).toNat
  let d := den * Nat.pow 10 exponent.toNat
  let below := n / d
  let low : Decimal := ⟨below, exponent⟩
  let high : Decimal := ⟨below + 1, exponent⟩
  match readsBack x low, readsBack x high with
  | false, false => none
  | true, false => some low
  | false, true => some high
  | true, true =>
    match compare (2 * n) ((2 * below + 1) * d), tie with
    | .lt, _ => some low
    | .gt, _ => some high
    | .eq, .upward => some high
    | .eq, .toEven => some (if below % 2 = 0 then low else high)

def exact (x : Binary64) : Decimal :=
  let (m, e) := x.dyadic
  if 0 ≤ e then ⟨m <<< e.toNat, 0⟩ else ⟨m * Nat.pow 5 (-e).toNat, e⟩

/-- Moves trailing zeros of the digits into the exponent, at most `fuel` of them. -/
def strip : Nat → Decimal → Decimal
  | 0, d => d
  | fuel + 1, d =>
    if d.digits ≠ 0 ∧ d.digits % 10 = 0 then strip fuel ⟨d.digits / 10, d.exponent + 1⟩ else d

/-- The shortest decimal that rounds back to the magnitude of `x`, the nearest of those. -/
def shortest (tie : Tie) (x : Binary64) : Decimal :=
  if x.rank.val = 0 then ⟨0, 0⟩
  else
    let top := magnitude x.ratio.1 x.ratio.2
    let found :=
      ((List.range 17).findSome? fun (n : Nat) ↦ onGrid? tie x (top - 1 - n)).getD (exact x)
    strip (width found.digits) found

end Decimal

end ToolSchema
