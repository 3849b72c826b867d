import ToolSchema.Number.Binary64

/-!
# Significands scaled by a power of ten

A document numeral is read in two roundings: the significand, an integer below `2 ^ 64`, is rounded
first, and then multiplied or divided by the rounded power of ten. The result can differ from the
correctly rounded value in the last place. A numeral beyond the finite range has no value.
-/

namespace ToolSchema.Binary64

def mul (x y : Binary64) : Double :=
  Double.ofRatio (x.negative != y.negative) (x.ratio.1 * y.ratio.1) (x.ratio.2 * y.ratio.2)

/-- The rounded quotient of two numbers, for a divisor that is not zero. -/
def div (x y : Binary64) : Double :=
  Double.ofRatio (x.negative != y.negative) (x.ratio.1 * y.ratio.2) (x.ratio.2 * y.ratio.1)

/-- The number nearest to a power of ten, up to `10 ^ 308`. -/
def powerOfTen (n : Nat) : Binary64 := (Double.ofRatio false (Nat.pow 10 n) 1).clamp

/-- Scales by a power of ten in steps of at most `10 ^ 308`. -/
def scale? : Nat → Binary64 → Int → Option Binary64
  | 0, x, _ => some x
  | fuel + 1, x, exponent =>
    if exponent.natAbs ≤ 308 then
      let factor := powerOfTen exponent.natAbs
      (if 0 ≤ exponent then x.mul factor else x.div factor).finite?
    else if x.rank.val = 0 then some x
    else if 0 ≤ exponent then none
    else (x.div (powerOfTen 308)).finite?.bind fun y ↦ scale? fuel y (exponent + 308)

/-- `significand * 10 ^ exponent` with the given sign. Three steps down from any significand reach
zero, so five steps are enough. -/
def ofScaled? (negative : Bool) (significand : Nat) (exponent : Int) : Option Binary64 :=
  (scale? 5 (ofInt significand) exponent).map fun x ↦ ⟨negative, x.rank⟩

end ToolSchema.Binary64
