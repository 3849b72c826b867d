import ToolSchema.Number.Shortest
import Mathlib

/-!
# Rounding to the nearest number

The number nearest to a quotient of naturals depends on the value of the quotient alone, whatever
its numerator and denominator. A number is the one nearest to its own magnitude. Hence the shortest
decimal of a number rounds back to it, be it found on a grid or the exact one, and a number is known
from the value of its decimal.
-/

namespace ToolSchema

namespace Binary64

/-- The rank nearest to a magnitude, a half going to the even rank. -/
def nearest (q : ℚ) : ℕ :=
  if q = 0 then 0
  else
    let unit := max (Int.log 2 q - 52) (-1074)
    let steps := q / 2 ^ unit
    let below := (unit + 1074).toNat * 0x10000000000000 + ⌊steps⌋₊
    if 1 / 2 < Int.fract steps then below + 1
    else if Int.fract steps < 1 / 2 then below
    else if below % 2 = 0 then below else below + 1

/-! ## Quotients of naturals -/

/-- A power with an integer exponent as a quotient of powers one of which is one. -/
theorem pow_toNat_div_pow_toNat {b : ℚ} (hb : b ≠ 0) (e : ℤ) :
    b ^ e.toNat / b ^ (-e).toNat = b ^ e := by
  rw [← zpow_natCast, ← zpow_natCast, ← zpow_sub₀ hb]
  congr 1
  omega

/-- Of the two shifts one is by zero places. -/
theorem cast_shift_div_shift (num den : ℕ) (e : ℤ) :
    ((num <<< (-e).toNat : ℕ) : ℚ) / (den <<< e.toNat : ℕ) = num / den / 2 ^ e := by
  rw [Nat.shiftLeft_eq, Nat.shiftLeft_eq, ← pow_toNat_div_pow_toNat two_ne_zero]
  push_cast
  field_simp

theorem shift_le_shift_iff {num den : ℕ} (hden : 0 < den) (e : ℤ) :
    den <<< e.toNat ≤ num <<< (-e).toNat ↔ (2 : ℚ) ^ e ≤ num / den := by
  have hd : (0 : ℚ) < (den <<< e.toNat : ℕ) := by
    rw [Nat.shiftLeft_eq]
    positivity
  have he : (0 : ℚ) < 2 ^ e := by positivity
  rw [← one_le_div₀ he, ← cast_shift_div_shift, one_le_div₀ hd, Nat.cast_le]

/-- The spacing is that of 53 binary digits, but never below the least one. -/
theorem spacing_eq {num den : ℕ} (hnum : 0 < num) (hden : 0 < den) :
    spacing num den = max (Int.log 2 ((num : ℚ) / den) - 52) (-1074) := by
  have hq : (0 : ℚ) < num / den := by positivity
  have hlog : ∀ e : ℤ, (2 : ℚ) ^ e ≤ num / den ↔ e ≤ Int.log 2 ((num : ℚ) / den) := by
    intro e
    exact_mod_cast Int.zpow_le_iff_le_log (b := 2) one_lt_two hq
  have hbounds : ∀ n : ℕ, 0 < n →
      (2 : ℚ) ^ (n.log2 : ℤ) ≤ n ∧ (n : ℚ) < 2 ^ ((n.log2 : ℤ) + 1) := by
    intro n hn
    constructor
    · exact_mod_cast Nat.log2_self_le hn.ne'
    · exact_mod_cast Nat.lt_log2_self (n := n)
  obtain ⟨hnumle, hnumlt⟩ := hbounds num hnum
  obtain ⟨hdenle, hdenlt⟩ := hbounds den hden
  have hlow : (num.log2 : ℤ) - (den.log2 + 1) ≤ Int.log 2 ((num : ℚ) / den) := by
    rw [← hlog, zpow_sub₀ two_ne_zero]
    exact div_le_div₀ (by positivity) hnumle (by positivity) hdenlt.le
  have hhigh : ¬ (num.log2 : ℤ) + 1 - den.log2 ≤ Int.log 2 ((num : ℚ) / den) := by
    rw [← hlog, not_le, zpow_sub₀ two_ne_zero]
    exact div_lt_div₀ hnumlt hdenle (by positivity) (by positivity)
  rw [spacing]
  simp only [shift_le_shift_iff hden, hlog, decide_eq_true_eq]
  split <;> congr 2 <;> omega

theorem half_lt_fract_div_iff (n : ℕ) {d : ℕ} (hd : 0 < d) :
    1 / 2 < Int.fract ((n : ℚ) / d) ↔ d < 2 * (n % d) := by
  have hd' : (0 : ℚ) < d := by positivity
  rw [Int.fract_div_natCast_eq_div_natCast_mod, div_lt_div_iff₀ two_pos hd', one_mul, mul_comm]
  exact_mod_cast Iff.rfl

theorem fract_div_lt_half_iff (n : ℕ) {d : ℕ} (hd : 0 < d) :
    Int.fract ((n : ℚ) / d) < 1 / 2 ↔ 2 * (n % d) < d := by
  have hd' : (0 : ℚ) < d := by positivity
  rw [Int.fract_div_natCast_eq_div_natCast_mod, div_lt_div_iff₀ hd' two_pos, one_mul, mul_comm]
  exact_mod_cast Iff.rfl

/-- The rank nearest to a quotient depends on its value alone. -/
theorem nearestRank_eq_nearest (num : ℕ) {den : ℕ} (hden : 0 < den) :
    nearestRank num den = nearest (num / den) := by
  rcases Nat.eq_zero_or_pos num with rfl | hnum
  · simp [nearestRank, nearest]
  have hq : (num : ℚ) / den ≠ 0 := by positivity
  rw [nearestRank, nearest, if_neg hnum.ne', if_neg hq]
  dsimp only
  rw [spacing_eq hnum hden, ← cast_shift_div_shift]
  generalize max (Int.log 2 ((num : ℚ) / den) - 52) (-1074) = unit
  have hd : 0 < den <<< unit.toNat := by
    rw [Nat.shiftLeft_eq]
    positivity
  simp only [half_lt_fract_div_iff _ hd, fract_div_lt_half_iff _ hd, Nat.floor_div_eq_div]

/-! ## Magnitudes -/

def magnitude (x : Binary64) : ℚ := x.dyadic.1 * 2 ^ x.dyadic.2

/-- A whole number of the steps that are taken at its size is not rounded. -/
theorem nearest_mul_zpow {m : ℕ} {e : ℤ} (hm : 0 < m)
    (hunit : max (Int.log 2 ((m : ℚ) * 2 ^ e) - 52) (-1074) = e) :
    nearest (m * 2 ^ e) = (e + 1074).toNat * 0x10000000000000 + m := by
  have hne : (m : ℚ) * 2 ^ e ≠ 0 := by positivity
  have hsteps : (m : ℚ) * 2 ^ e / 2 ^ e = m := mul_div_cancel_right₀ _ (by positivity)
  rw [nearest, if_neg hne]
  simp only [hunit, hsteps, Nat.floor_natCast, Int.fract_natCast]
  norm_num

theorem le_log_mul_zpow_iff {m : ℕ} (hm : 0 < m) (e t : ℤ) :
    t ≤ Int.log 2 ((m : ℚ) * 2 ^ e) ↔ (2 : ℚ) ^ (t - e) ≤ m := by
  have hpos : (0 : ℚ) < m * 2 ^ e := by positivity
  have hiff := Int.zpow_le_iff_le_log (b := 2) (x := t) one_lt_two hpos
  rw [← hiff, zpow_sub₀ two_ne_zero, div_le_iff₀ (by positivity)]
  rfl

/-- A number is the one nearest to its magnitude. -/
theorem nearest_magnitude (x : Binary64) : nearest x.magnitude = x.rank.val := by
  unfold magnitude dyadic
  dsimp only
  split
  · next hsub =>
    rcases Nat.eq_zero_or_pos x.rank.val with hzero | hpos
    · simp [hzero, nearest]
    have hsmall : x.rank.val < 2 ^ 52 := by omega
    have hlt : ¬ -1022 ≤ Int.log 2 ((x.rank.val : ℚ) * 2 ^ (-1074 : ℤ)) := by
      have hexponent : (-1022 : ℤ) - -1074 = 52 := by norm_num
      rw [le_log_mul_zpow_iff hpos, not_le, hexponent]
      exact_mod_cast hsmall
    dsimp only
    rw [nearest_mul_zpow hpos (by omega)]
    norm_num
  · next hnormal =>
    have hdiv := Nat.div_add_mod x.rank.val 0x10000000000000
    have hmod : x.rank.val % 0x10000000000000 < 0x10000000000000 := Nat.mod_lt _ (by decide)
    generalize x.rank.val / 0x10000000000000 = binade at *
    generalize x.rank.val % 0x10000000000000 = fraction at *
    generalize hm : 0x10000000000000 + fraction = m
    generalize he : (binade : ℤ) - 1075 = e
    have hle : e + 52 ≤ Int.log 2 ((m : ℚ) * 2 ^ e) := by
      have hcast : 2 ^ 52 ≤ m := by omega
      rw [le_log_mul_zpow_iff (by omega), add_sub_cancel_left]
      exact_mod_cast hcast
    have hlt : ¬ e + 53 ≤ Int.log 2 ((m : ℚ) * 2 ^ e) := by
      have hcast : m < 2 ^ 53 := by omega
      rw [le_log_mul_zpow_iff (by omega), add_sub_cancel_left, not_le]
      exact_mod_cast hcast
    dsimp only
    rw [nearest_mul_zpow (by omega) (by omega)]
    omega

end Binary64

namespace Decimal

def value (d : Decimal) : ℚ := d.digits * 10 ^ d.exponent

theorem readsBack_iff {x : Binary64} {d : Decimal} :
    d.readsBack x ↔ Binary64.nearest d.value = x.rank.val := by
  have hvalue : d.value =
      (d.digits * Nat.pow 10 d.exponent.toNat : ℕ) / (Nat.pow 10 (-d.exponent).toNat : ℕ) := by
    rw [value, ← Binary64.pow_toNat_div_pow_toNat (by norm_num), ← mul_div_assoc]
    norm_cast
  have hden : 0 < Nat.pow 10 (-d.exponent).toNat := Nat.pow_pos (by decide)
  rw [readsBack, Binary64.nearestRank_eq_nearest _ hden, hvalue, decide_eq_true_eq]

/-- The exact decimal has the magnitude of the number. -/
theorem value_exact (x : Binary64) : (exact x).value = x.magnitude := by
  rw [exact, Binary64.magnitude, value]
  generalize x.dyadic = dyadic
  obtain ⟨m, e⟩ := dyadic
  rw [← Binary64.pow_toNat_div_pow_toNat two_ne_zero]
  dsimp only
  split
  · next h =>
    have hneg : (-e).toNat = 0 := by omega
    rw [hneg, Nat.shiftLeft_eq]
    push_cast
    simp
  · next h =>
    have hpos : e.toNat = 0 := by omega
    have hten : (10 : ℚ) ^ (-e).toNat = 2 ^ (-e).toNat * 5 ^ (-e).toNat := by
      rw [← mul_pow]
      norm_num
    rw [← Binary64.pow_toNat_div_pow_toNat (by norm_num), hpos, hten, Nat.pow_eq]
    push_cast
    field_simp

/-- Zeros at the end of the digits move into the exponent. -/
theorem value_strip (fuel : ℕ) (d : Decimal) : (strip fuel d).value = d.value := by
  induction fuel generalizing d with
  | zero => rfl
  | succ fuel ih =>
    rw [strip]
    split
    · next h =>
      have hdigits : (d.digits : ℚ) = (d.digits / 10 : ℕ) * 10 := by
        exact_mod_cast (Nat.div_mul_cancel (Nat.dvd_of_mod_eq_zero h.2)).symm
      rw [ih, value, value, hdigits, zpow_add_one₀ (by norm_num)]
      ring
    · rfl

theorem readsBack_of_onGrid? {tie : Tie} {x : Binary64} {exponent : ℤ} {d : Decimal}
    (h : onGrid? tie x exponent = some d) : d.readsBack x := by
  unfold onGrid? at h
  dsimp only at h
  split at h
  · cases h
  · next hlow hhigh =>
    obtain rfl := Option.some.inj h
    exact hlow
  · next hlow hhigh =>
    obtain rfl := Option.some.inj h
    exact hhigh
  · next hlow hhigh =>
    split at h
    all_goals
      obtain rfl := Option.some.inj h
      first | exact hlow | exact hhigh | split <;> assumption

/-- The shortest decimal of a number rounds back to it. -/
theorem nearest_value_shortest (tie : Tie) (x : Binary64) :
    Binary64.nearest (shortest tie x).value = x.rank.val := by
  unfold shortest
  split
  · next hzero => simp [value, Binary64.nearest, hzero]
  · dsimp only
    rw [value_strip]
    cases hfound : (List.range 17).findSome? _ with
    | none => rw [Option.getD_none, value_exact, Binary64.nearest_magnitude]
    | some d =>
      obtain ⟨n, -, hgrid⟩ := List.exists_of_findSome?_eq_some hfound
      exact readsBack_iff.mp (readsBack_of_onGrid? hgrid)

end Decimal

end ToolSchema
