import ToolSchema.Json.Printer
import ToolSchema.Proofs.Rounding
import Mathlib

/-!
# Numerals determine numbers

A numeral has a value: its digits as one natural, scaled down by the digits behind the point and by
the exponent. However a decimal is written, the value of the numeral is that of the decimal. Since
the shortest decimal rounds back to its number, a finite number is known from its sign and numeral,
in plain notation as in documents, where integers are written without point and exponent.
-/

namespace ToolSchema.Numeral

/-! ## Digits -/

theorem isDigit_of_mem_digits {n : ℕ} : ∀ c ∈ digits n, c.isDigit := by
  intro c hc
  exact Nat.isDigit_of_mem_toDigits (by decide) (by decide) hc

theorem isDigit_of_mem_zeros {n : ℕ} : ∀ c ∈ zeros n, c.isDigit := by
  intro c hc
  rw [List.eq_of_mem_replicate hc]
  rfl

/-- The value of a run of digits. -/
def natural (cs : List Char) : ℕ := Nat.ofDigitChars 10 cs 0

@[simp]
theorem natural_digits (n : ℕ) : natural (digits n) = n := Nat.ofDigitChars_ten_toDigits

/-- Digits count by how many stand behind them. -/
theorem natural_append (front back : List Char) :
    natural (front ++ back) = 10 ^ back.length * natural front + natural back := by
  rw [natural, Nat.ofDigitChars_append, Nat.ofDigitChars_eq_ofDigitChars_zero]
  rfl

@[simp]
theorem natural_zeros (n : ℕ) : natural (zeros n) = 0 := by
  rw [natural, zeros, Nat.ofDigitChars_replicate_zero, mul_zero]

theorem natural_lt {ds : List Char} (h : ∀ c ∈ ds, c.isDigit) : natural ds < 10 ^ ds.length := by
  induction ds using List.reverseRecOn with
  | nil => decide
  | append_singleton front c ih =>
    rw [List.forall_mem_append, List.forall_mem_singleton] at h
    have hfront := ih h.1
    have hc : natural [c] ≤ 9 := by
      have hcode : 48 ≤ c.toNat ∧ c.toNat ≤ 57 := Char.isDigit_iff_toNat.mp h.2
      have hvalue : natural [c] = c.toNat - 48 := by simp [natural, Nat.ofDigitChars]
      omega
    rw [natural_append, List.length_append, List.length_singleton, pow_succ]
    omega

/-! ## Values -/

/-- The value of digits with an optional point. -/
def significand (cs : List Char) : ℚ :=
  natural (cs.filter Char.isDigit) / 10 ^ (cs.dropWhile (· ≠ '.')).tail.length

/-- The value of an exponent with its mark and sign; none is zero. -/
def power : List Char → ℤ
  | 'e' :: '-' :: ds => -natural ds
  | 'e' :: _ :: ds => natural ds
  | _ => 0

/-- The value of a numeral without a sign. -/
def value (cs : List Char) : ℚ :=
  significand (cs.takeWhile (· ≠ 'e')) * 10 ^ power (cs.dropWhile (· ≠ 'e'))

theorem ne_of_isDigit {c mark : Char} (hc : c.isDigit) (hmark : mark.isDigit = false) :
    c ≠ mark := by
  rintro rfl
  rw [hmark] at hc
  cases hc

theorem takeWhile_ne_append {mark : Char} (front back : List Char) (hfront : mark ∉ front) :
    (front ++ mark :: back).takeWhile (· ≠ mark) = front := by
  rw [List.takeWhile_append_of_pos]
  · simp
  · intro c hc
    simpa using fun heq : c = mark ↦ hfront (heq ▸ hc)

theorem dropWhile_ne_append {mark : Char} (front back : List Char) (hfront : mark ∉ front) :
    (front ++ mark :: back).dropWhile (· ≠ mark) = mark :: back := by
  rw [List.dropWhile_append_of_pos]
  · simp
  · intro c hc
    simpa using fun heq : c = mark ↦ hfront (heq ▸ hc)

theorem notMem_of_isDigit {ds : List Char} {mark : Char} (h : ∀ c ∈ ds, c.isDigit)
    (hmark : mark.isDigit = false) : mark ∉ ds :=
  fun hmem ↦ ne_of_isDigit (h mark hmem) hmark rfl

theorem significand_of_isDigit {ds : List Char} (h : ∀ c ∈ ds, c.isDigit) :
    significand ds = natural ds := by
  have hdrop : ds.dropWhile (· ≠ '.') = [] := by
    rw [List.dropWhile_eq_nil_iff]
    intro c hc
    have hne : c ≠ '.' := ne_of_isDigit (h c hc) rfl
    simpa using hne
  rw [significand, List.filter_eq_self.mpr h, hdrop]
  simp

theorem significand_point {front back : List Char} (hfront : ∀ c ∈ front, c.isDigit)
    (hback : ∀ c ∈ back, c.isDigit) :
    significand (front ++ '.' :: back) = natural (front ++ back) / 10 ^ back.length := by
  rw [significand, dropWhile_ne_append _ _ (notMem_of_isDigit hfront rfl), List.filter_append,
    List.filter_eq_self.mpr hfront, List.filter_cons_of_neg (by decide),
    List.filter_eq_self.mpr hback, List.tail_cons]

/-- A numeral without an exponent has the value of its significand. -/
theorem value_of_notMem {cs : List Char} (h : 'e' ∉ cs) : value cs = significand cs := by
  have htake : cs.takeWhile (· ≠ 'e') = cs := by
    rw [List.takeWhile_eq_self_iff]
    intro c hc
    simpa using fun heq : c = 'e' ↦ h (heq ▸ hc)
  have hdrop : cs.dropWhile (· ≠ 'e') = [] := by
    rw [List.dropWhile_eq_nil_iff]
    intro c hc
    simpa using fun heq : c = 'e' ↦ h (heq ▸ hc)
  have hpower : power [] = 0 := rfl
  rw [value, htake, hdrop, hpower, zpow_zero, mul_one]

/-! ## Positional notation -/

theorem value_eq_mul {d : Decimal} {n : ℕ} (h : d.exponent = n) : d.value = 10 ^ n * d.digits := by
  rw [Decimal.value, h, zpow_natCast, mul_comm]

theorem value_eq_div {d : Decimal} {n : ℕ} (h : d.exponent = -n) :
    d.value = d.digits / 10 ^ n := by
  rw [Decimal.value, h, zpow_neg, zpow_natCast, div_eq_mul_inv]

/-- A decimal without places behind the point is its digits and zeros. -/
theorem exists_positional_eq_of_nonneg {d : Decimal} (h : 0 ≤ d.exponent) :
    ∃ front, (∀ c ∈ front, c.isDigit) ∧ front ≠ [] ∧ d.value = natural front ∧
      ∀ point, positional point d = front ++ if point then ['.', '0'] else [] := by
  obtain ⟨n, hn⟩ := Int.eq_ofNat_of_zero_le h
  refine ⟨digits d.digits ++ zeros n, ?_, ?_, ?_, fun point ↦ ?_⟩
  · exact List.forall_mem_append.mpr ⟨isDigit_of_mem_digits, isDigit_of_mem_zeros⟩
  · exact List.append_ne_nil_of_left_ne_nil Nat.toDigits_ne_nil _
  · rw [value_eq_mul hn, natural_append, natural_zeros, natural_digits, zeros,
      List.length_replicate]
    push_cast
    rw [add_zero]
  · simp [positional, hn]

/-- A decimal with places behind the point has a digit before it. -/
theorem exists_positional_eq_of_neg {d : Decimal} (h : d.exponent < 0) :
    ∃ front back, (∀ c ∈ front, c.isDigit) ∧ (∀ c ∈ back, c.isDigit) ∧ front ≠ [] ∧
      d.value = natural (front ++ back) / 10 ^ back.length ∧
      ∀ point, positional point d = front ++ '.' :: back := by
  have hdigits : ∀ c ∈ digits d.digits, c.isDigit := isDigit_of_mem_digits
  have hlength : 0 < (digits d.digits).length := Nat.length_toDigits_pos
  by_cases hwhole : 0 < ((digits d.digits).length : ℤ) + d.exponent
  · obtain ⟨m, hm⟩ : ∃ m : ℕ, ((digits d.digits).length : ℤ) + d.exponent = m :=
      Int.eq_ofNat_of_zero_le hwhole.le
    have hexponent : d.exponent = -((digits d.digits).length - m : ℕ) := by omega
    have hpositional : ∀ point, positional point d =
        (digits d.digits).take m ++ '.' :: (digits d.digits).drop m := by
      intro point
      simp only [positional, if_neg h.not_ge, if_pos (hm ▸ hwhole), hm, Int.toNat_natCast]
    refine ⟨_, _, fun c hc ↦ hdigits c (List.mem_of_mem_take hc),
      fun c hc ↦ hdigits c (List.mem_of_mem_drop hc), ?_, ?_, hpositional⟩
    · rw [← List.length_pos_iff, List.length_take]
      omega
    · rw [List.take_append_drop, natural_digits, List.length_drop, value_eq_div hexponent]
  · obtain ⟨k, hk⟩ : ∃ k : ℕ, -((digits d.digits).length + d.exponent) = (k : ℤ) :=
      ⟨_, (Int.toNat_of_nonneg (by omega)).symm⟩
    have hback : (zeros k ++ digits d.digits).length = k + (digits d.digits).length := by
      rw [List.length_append, zeros, List.length_replicate]
    have hnatural : natural ['0'] = 0 := natural_zeros 1
    refine ⟨['0'], zeros k ++ digits d.digits, isDigit_of_mem_zeros (n := 1),
      List.forall_mem_append.mpr ⟨isDigit_of_mem_zeros, hdigits⟩, by simp, ?_, fun point ↦ ?_⟩
    · rw [natural_append, natural_append, hnatural, natural_zeros, natural_digits, hback,
        value_eq_div (n := k + (digits d.digits).length) (by push_cast; omega)]
      simp
    · simp only [positional, if_neg h.not_ge, if_neg hwhole, hk, Int.toNat_natCast]
      rfl

/-- Positional notation is digits, with a point behind the first of them where it is asked for or
needed. -/
theorem exists_positional_eq (point : Bool) (d : Decimal) :
    ∃ front back, (∀ c ∈ front, c.isDigit) ∧ (∀ c ∈ back, c.isDigit) ∧ front ≠ [] ∧
      d.value = natural (front ++ back) / 10 ^ back.length ∧
      (positional point d = front ++ '.' :: back ∨
        point = false ∧ back = [] ∧ positional point d = front) := by
  rcases le_or_gt 0 d.exponent with h | h
  · obtain ⟨front, hfront, hne, hvalue, heq⟩ := exists_positional_eq_of_nonneg h
    have hnatural : natural ['0'] = 0 := natural_zeros 1
    cases point with
    | true =>
      refine ⟨front, ['0'], hfront, isDigit_of_mem_zeros (n := 1), hne, ?_, .inl (heq true)⟩
      rw [hvalue, natural_append, hnatural]
      norm_num
    | false =>
      refine ⟨front, [], hfront, List.forall_mem_nil _, hne, ?_, .inr ⟨rfl, rfl, ?_⟩⟩
      · simp [hvalue]
      · rw [heq false]
        exact List.append_nil front
  · obtain ⟨front, back, hfront, hback, hne, hvalue, heq⟩ := exists_positional_eq_of_neg h
    exact ⟨front, back, hfront, hback, hne, hvalue, .inl (heq point)⟩

/-- Positional notation has the value of the decimal, wherever the point is. -/
theorem value_positional (point : Bool) (d : Decimal) : value (positional point d) = d.value := by
  obtain ⟨front, back, hfront, hback, -, hvalue, heq | ⟨-, rfl, heq⟩⟩ :=
    exists_positional_eq point d
  · have hmark : 'e' ∉ front ++ '.' :: back := by
      simpa using ⟨notMem_of_isDigit hfront rfl, notMem_of_isDigit hback rfl⟩
    rw [heq, value_of_notMem hmark, significand_point hfront hback, hvalue]
  · rw [heq, value_of_notMem (notMem_of_isDigit hfront rfl), significand_of_isDigit hfront, hvalue]
    simp

/-! ## Scientific notation -/

/-- Scientific notation is a digit, perhaps with a point and further digits, and an exponent. -/
theorem exists_scientific_eq (d : Decimal) :
    ∃ first back, first.isDigit ∧ (∀ c ∈ back, c.isDigit) ∧
      digits d.digits = first :: back ∧
      scientific d = first :: (if back.isEmpty then [] else '.' :: back) ++
        'e' :: (if (back.length : ℤ) + d.exponent < 0 then '-' else '+') ::
          digits ((back.length : ℤ) + d.exponent).natAbs := by
  have hdigits : ∀ c ∈ digits d.digits, c.isDigit := isDigit_of_mem_digits
  cases hd : digits d.digits with
  | nil => exact absurd hd Nat.toDigits_ne_nil
  | cons first back =>
    rw [hd, List.forall_mem_cons] at hdigits
    refine ⟨first, back, hdigits.1, hdigits.2, rfl, ?_⟩
    have hpower : ((first :: back).length : ℤ) - 1 + d.exponent = back.length + d.exponent := by
      simp
    rw [scientific, hd]
    simp only [hpower, List.drop_one, List.tail_cons, List.take_one]
    rfl

/-- Scientific notation has the value of the decimal. -/
theorem value_scientific (d : Decimal) : value (scientific d) = d.value := by
  obtain ⟨first, back, hfirst, hback, hdigits, heq⟩ := exists_scientific_eq d
  let mantissa := first :: if back.isEmpty then [] else '.' :: back
  have hmark : 'e' ∉ mantissa := by
    have hfirst' : 'e' ≠ first := (ne_of_isDigit hfirst rfl).symm
    have hback' : 'e' ∉ back := notMem_of_isDigit hback rfl
    cases back <;> simp_all [mantissa]
  have hsignificand : significand mantissa = d.digits / 10 ^ back.length := by
    have hnatural : natural (first :: back) = d.digits := by rw [← hdigits, natural_digits]
    have hfront : ∀ c ∈ [first], c.isDigit := by simpa using hfirst
    cases back with
    | nil =>
      have hmantissa : mantissa = [first] := rfl
      rw [hmantissa, significand_of_isDigit hfront, hnatural, List.length_nil, pow_zero, div_one]
    | cons second rest =>
      have hmantissa : mantissa = [first] ++ '.' :: second :: rest := rfl
      rw [hmantissa, significand_point hfront hback, List.singleton_append, hnatural]
  have hpower : ∀ z : ℤ, power ('e' :: (if z < 0 then '-' else '+') :: digits z.natAbs) = z := by
    intro z
    split
    · rw [power, natural_digits]
      omega
    · have hplus : power ('e' :: '+' :: digits z.natAbs) = natural (digits z.natAbs) := rfl
      rw [hplus, natural_digits]
      omega
  have heq' : scientific d = mantissa ++ 'e' :: _ := heq
  rw [heq', value, takeWhile_ne_append _ _ hmark, dropWhile_ne_append _ _ hmark, hsignificand,
    hpower, Decimal.value, zpow_add₀ (by norm_num), zpow_natCast]
  field_simp

/-! ## Signed numerals -/

/-- A numeral for a decimal determines the decimal's value and starts with a digit. -/
structure Writes (body : Decimal → List Char) : Prop where
  value_eq : ∀ d, value (body d) = d.value
  head : ∀ d, ∃ c rest, body d = c :: rest ∧ c.isDigit

theorem writes_positional (point : Bool) : Writes (positional point) := by
  refine ⟨value_positional point, fun d ↦ ?_⟩
  obtain ⟨front, back, hfront, -, hne, -, heq⟩ := exists_positional_eq point d
  obtain ⟨c, rest, rfl⟩ := List.exists_cons_of_ne_nil hne
  have hc := hfront c List.mem_cons_self
  rcases heq with heq | ⟨-, -, heq⟩
  · exact ⟨c, rest ++ '.' :: back, heq, hc⟩
  · exact ⟨c, rest, heq, hc⟩

theorem writes_scientific : Writes scientific := by
  refine ⟨value_scientific, fun d ↦ ?_⟩
  obtain ⟨first, back, hfirst, -, -, heq⟩ := exists_scientific_eq d
  exact ⟨first, _, heq, hfirst⟩

theorem Writes.ite {front back : Decimal → List Char} (hfront : Writes front)
    (hback : Writes back) (p : Decimal → Prop) [DecidablePred p] :
    Writes fun d ↦ if p d then front d else back d := by
  constructor
  · intro d
    split
    · exact hfront.value_eq d
    · exact hback.value_eq d
  · intro d
    split
    · exact hfront.head d
    · exact hback.head d

/-- The sign and the shortest decimal of a number, however it is written, determine the number. -/
theorem Writes.eq_of_signed_eq {body : Decimal → List Char} (h : Writes body) (tie : Tie)
    {x y : Binary64}
    (heq : (if x.negative then '-' :: body (.shortest tie x) else body (.shortest tie x)) =
      if y.negative then '-' :: body (.shortest tie y) else body (.shortest tie y)) : x = y := by
  have hsign : ∀ d rest, body d ≠ '-' :: rest := by
    intro d rest hbody
    obtain ⟨c, others, hhead, hc⟩ := h.head d
    obtain ⟨rfl, -⟩ := List.cons.inj (hbody.symm.trans hhead)
    cases hc
  have hrank : body (.shortest tie x) = body (.shortest tie y) → x.rank = y.rank := by
    intro hbody
    have hvalue : (Decimal.shortest tie x).value = (Decimal.shortest tie y).value := by
      rw [← h.value_eq, hbody, h.value_eq]
    apply Fin.ext
    rw [← Decimal.nearest_value_shortest tie x, hvalue, Decimal.nearest_value_shortest]
  obtain ⟨negative, rank⟩ := x
  obtain ⟨negative', rank'⟩ := y
  cases negative <;> cases negative'
  · exact congrArg (Binary64.mk false) (hrank heq)
  · exact absurd heq (hsign _ _)
  · exact absurd heq.symm (hsign _ _)
  · exact congrArg (Binary64.mk true) (hrank (List.cons.inj heq).2)

/-- Numbers are told apart by their plain notation, as each shortest decimal rounds back to its
number. -/
theorem plainFinite_injective : Function.Injective plainFinite := by
  intro x y h
  exact (writes_positional false).eq_of_signed_eq .upward (String.ofList_injective h)

theorem writes_document :
    Writes fun d ↦
      if -5 ≤ ((digits d.digits).length : ℤ) - 1 + d.exponent ∧
          ((digits d.digits).length : ℤ) - 1 + d.exponent ≤ 15
      then positional true d else scientific d :=
  (writes_positional true).ite writes_scientific _

theorem document_injective : Function.Injective document := by
  intro x y h
  exact writes_document.eq_of_signed_eq .toEven (String.ofList_injective h)

/-! ## The characters of numerals -/

/-- Whether a character may stand in a numeral. -/
def isMark (c : Char) : Bool := c.isDigit || c = '-' || c = '+' || c = '.' || c = 'e'

theorem isMark_of_isDigit {cs : List Char} (h : ∀ c ∈ cs, c.isDigit) : ∀ c ∈ cs, isMark c := by
  intro c hc
  simp [isMark, h c hc]

theorem isMark_of_mem_positional {point : Bool} {d : Decimal} :
    ∀ c ∈ positional point d, isMark c := by
  obtain ⟨front, back, hfront, hback, -, -, heq⟩ := exists_positional_eq point d
  have hpoint : isMark '.' := by decide
  rcases heq with heq | ⟨-, -, heq⟩
  · rw [heq, List.forall_mem_append, List.forall_mem_cons]
    exact ⟨isMark_of_isDigit hfront, hpoint, isMark_of_isDigit hback⟩
  · rw [heq]
    exact isMark_of_isDigit hfront

theorem isMark_of_mem_scientific {d : Decimal} : ∀ c ∈ scientific d, isMark c := by
  obtain ⟨first, back, hfirst, hback, -, heq⟩ := exists_scientific_eq d
  have hfirst' : isMark first := by simp [isMark, hfirst]
  have hpoint : isMark '.' := by decide
  have hback' := isMark_of_isDigit hback
  have hexponent : ∀ z : ℤ, ∀ c ∈ 'e' :: (if z < 0 then '-' else '+') :: digits z.natAbs,
      isMark c := by
    intro z
    rw [List.forall_mem_cons, List.forall_mem_cons]
    exact ⟨by decide, by split <;> decide, isMark_of_isDigit isDigit_of_mem_digits⟩
  rw [heq, List.forall_mem_append, List.forall_mem_cons]
  refine ⟨⟨hfirst', ?_⟩, hexponent _⟩
  split
  · exact List.forall_mem_nil _
  · exact List.forall_mem_cons.mpr ⟨hpoint, hback'⟩

theorem isMark_of_mem_signed {negative : Bool} {body : List Char} (h : ∀ c ∈ body, isMark c) :
    ∀ c ∈ (String.ofList (if negative then '-' :: body else body)).toList, isMark c := by
  rw [String.toList_ofList]
  have hminus : isMark '-' := by decide
  cases negative
  · exact h
  · exact List.forall_mem_cons.mpr ⟨hminus, h⟩

theorem isMark_of_mem_plainFinite {x : Binary64} : ∀ c ∈ (plainFinite x).toList, isMark c :=
  isMark_of_mem_signed isMark_of_mem_positional

theorem isMark_of_mem_document {x : Binary64} : ∀ c ∈ (document x).toList, isMark c := by
  apply isMark_of_mem_signed
  split
  · exact isMark_of_mem_positional
  · exact isMark_of_mem_scientific

/-- A number of a document is never written as an integer. -/
theorem exists_mem_document (x : Binary64) : ∃ c ∈ (document x).toList, c = '.' ∨ c = 'e' := by
  have hsigned : ∀ (negative : Bool) (body : List Char), (∃ c ∈ body, c = '.' ∨ c = 'e') →
      ∃ c ∈ (String.ofList (if negative then '-' :: body else body)).toList, c = '.' ∨ c = 'e' := by
    rintro negative body ⟨c, hc, hmark⟩
    refine ⟨c, ?_, hmark⟩
    rw [String.toList_ofList]
    cases negative
    · exact hc
    · exact List.mem_cons_of_mem _ hc
  apply hsigned
  split
  · obtain ⟨front, back, -, -, -, -, heq | ⟨hpoint, -, -⟩⟩ :=
      exists_positional_eq true (Decimal.shortest .toEven x)
    · exact ⟨'.', by simp [heq], .inl rfl⟩
    · cases hpoint
  · obtain ⟨first, back, -, -, -, heq⟩ := exists_scientific_eq (Decimal.shortest .toEven x)
    exact ⟨'e', by simp [heq], .inr rfl⟩

/-- The names of what is not finite are no numerals. -/
theorem plain_ne_plainFinite {x : Double} (hx : x.finite? = none) (y : Binary64) :
    plain x ≠ plainFinite y := by
  have hletter : 'n' ∈ (plain x).toList ∨ 'N' ∈ (plain x).toList := by
    cases x with
    | finite x => cases hx
    | infinite negative => cases negative <;> simp [plain]
    | nan => simp [plain]
  intro heq
  rw [heq] at hletter
  rcases hletter with hn | hn
  · exact absurd (isMark_of_mem_plainFinite _ hn) (by decide)
  · exact absurd (isMark_of_mem_plainFinite _ hn) (by decide)

/-- Numbers in plain notation are told apart, also those that are not finite. -/
theorem plain_injective : Function.Injective plain := by
  intro x y h
  cases x with
  | finite x =>
    cases y with
    | finite y => rw [plainFinite_injective h]
    | _ => exact absurd h.symm (plain_ne_plainFinite rfl x)
  | infinite negative =>
    cases y with
    | finite y => exact absurd h (plain_ne_plainFinite rfl y)
    | infinite negative' => cases negative <;> cases negative' <;> simp_all [plain]
    | nan => cases negative <;> simp [plain] at h
  | nan =>
    cases y with
    | finite y => exact absurd h (plain_ne_plainFinite rfl y)
    | infinite negative => cases negative <;> simp [plain] at h
    | nan => rfl

theorem closing_notMem_plain (x : Double) : ')' ∉ (plain x).toList := by
  cases x with
  | finite x => exact fun hmem ↦ absurd (isMark_of_mem_plainFinite _ hmem) (by decide)
  | infinite negative => cases negative <;> simp [plain]
  | nan => simp [plain]

end ToolSchema.Numeral

namespace ToolSchema.Json

open Numeral

/-! ## Numbers of documents -/

theorem toList_toString_natCast (n : ℕ) : (toString (n : ℤ)).toList = digits n := by
  have hrepr : toString (n : ℤ) = toString n := rfl
  rw [hrepr, Nat.toString_eq_ofList_toDigits, String.toList_ofList]
  rfl

/-- An integer is written with digits behind an optional sign. -/
theorem exists_toString_eq (n : ℤ) :
    ∃ ds, ds ≠ [] ∧ (∀ c ∈ ds, c.isDigit) ∧
      ((toString n).toList = ds ∨ (toString n).toList = '-' :: ds) := by
  cases n with
  | ofNat n =>
    exact ⟨digits n, Nat.toDigits_ne_nil, isDigit_of_mem_digits, .inl (toList_toString_natCast n)⟩
  | negSucc n =>
    refine ⟨digits (n + 1), Nat.toDigits_ne_nil, isDigit_of_mem_digits, .inr ?_⟩
    have hrepr : toString (Int.negSucc n) = "-" ++ toString ((n + 1 : ℕ) : ℤ) := rfl
    rw [hrepr, String.toList_append, toList_toString_natCast]
    rfl

theorem isMark_of_mem_numeral {n : Number} : ∀ c ∈ (numeral n).toList, isMark c := by
  cases n with
  | float x => exact isMark_of_mem_document
  | integer n exact' =>
    obtain ⟨ds, -, hds, heq | heq⟩ := exists_toString_eq n
    · rw [numeral, heq]
      exact isMark_of_isDigit hds
    · have hminus : isMark '-' := by decide
      rw [numeral, heq, List.forall_mem_cons]
      exact ⟨hminus, isMark_of_isDigit hds⟩

/-- Integers are told apart from binary numbers as well, which have a point or an exponent. -/
theorem numeral_injective : Function.Injective numeral := by
  have hapart : ∀ n x, toString (n : ℤ) ≠ document x := by
    intro n x heq
    obtain ⟨c, hc, hmark⟩ := exists_mem_document x
    rw [← heq] at hc
    obtain ⟨ds, -, hds, htext⟩ := exists_toString_eq n
    have hother : c.isDigit ∨ c = '-' := by
      rcases htext with htext | htext
      · exact .inl (hds c (htext ▸ hc))
      · rw [htext, List.mem_cons] at hc
        exact hc.symm.imp_left (hds c)
    rcases hmark with rfl | rfl <;> simp at hother
  intro x y h
  cases x with
  | integer n hn =>
    cases y with
    | integer m hm =>
      obtain rfl : n = m := Int.repr_injective h
      rfl
    | float y => exact absurd h (hapart n y)
  | float x =>
    cases y with
    | integer m hm => exact absurd h.symm (hapart m x)
    | float y => rw [document_injective h]

/-- A number starts with a digit or a sign. -/
theorem exists_numeral_eq (n : Number) :
    ∃ c rest, (numeral n).toList = c :: rest ∧ (c.isDigit ∨ c = '-') := by
  cases n with
  | float x =>
    obtain ⟨c, rest, hhead, hc⟩ := writes_document.head (.shortest .toEven x)
    cases hx : x.negative with
    | true => exact ⟨'-', _, by rw [numeral, document, hx, String.toList_ofList]; rfl, .inr rfl⟩
    | false =>
      refine ⟨c, rest, ?_, .inl hc⟩
      rw [← hhead, numeral, document, hx, String.toList_ofList]
      rfl
  | integer n hn =>
    obtain ⟨ds, hne, hds, htext | htext⟩ := exists_toString_eq n
    · obtain ⟨c, rest, rfl⟩ := List.exists_cons_of_ne_nil hne
      exact ⟨c, rest, htext, .inl (hds c List.mem_cons_self)⟩
    · exact ⟨'-', ds, htext, .inr rfl⟩

end ToolSchema.Json
