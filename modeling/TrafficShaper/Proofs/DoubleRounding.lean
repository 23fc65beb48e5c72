import TrafficShaper.Proofs.Rounding
import TrafficShaper.Json.Scan
import Mathlib

/-! # Rounding to doubles, forwards

`Proofs.Rounding` says which ratios round to a given 32-bit value. Reading a JSON number goes the
other way: a significand and a power of ten become doubles, their quotient is rounded, and the
double is narrowed to 32 bits. This module bounds what each of those steps produces.

A ratio in the range of the normal doubles rounds to a significand of 53 bits within half a unit
of it, hence within `1 / (2^53 - 1)` of the ratio, relatively. A value that is already a multiple
of the unit is kept exactly: so are a natural below `2^52` and the powers of ten up to `10^22`.
The quotient of two doubles is their exact quotient rounded once, and narrowing rounds the
double's exact value once.

* `roundHalfEven_near`: rounding half to even moves by at most a half;
* `Binary64.ofRatio_near`, `Binary64.ofRatio_rel`: the double nearest to a ratio;
* `Binary64.ofNat_exact`, `pow10_exact`, `pow10_rel`: the operands of a JSON quotient;
* `Binary64.div_eq_ofRatio`, `Binary64.toBinary32_eq_ofRatio`: a quotient and a narrowing, each
  one rounding of an exact ratio.
-/

namespace TrafficShaper.Binary

/-! ## Round half to even -/

/-- **Round half to even moves by at most a half.** -/
theorem roundHalfEven_near {n d : ℕ} (hd : 0 < d) :
    |(roundHalfEven n d : ℚ) - n / d| ≤ 1 / 2 := by
  have hdq : (0 : ℚ) < d := by exact_mod_cast hd
  have hn : (n : ℚ) = d * (n / d : ℕ) + (n % d : ℕ) := by exact_mod_cast (Nat.div_add_mod n d).symm
  have hr : ((n % d : ℕ) : ℚ) / d < 1 := by
    rw [div_lt_one hdq]
    exact_mod_cast Nat.mod_lt n hd
  have hr0 : 0 ≤ ((n % d : ℕ) : ℚ) / d := by positivity
  unfold roundHalfEven
  simp only
  rw [hn, add_div, mul_div_cancel_left₀ _ hdq.ne']
  split
  · -- rounded up: the remainder is at least half of `d`
    next h =>
    have h2 : (d : ℚ) ≤ 2 * (n % d : ℕ) := by exact_mod_cast (by omega : d ≤ 2 * (n % d))
    have hhalf : 1 / 2 ≤ ((n % d : ℕ) : ℚ) / d := by
      rw [le_div_iff₀ hdq]
      linarith
    rw [abs_le]
    push_cast
    constructor <;> linarith
  · -- rounded down: the remainder is at most half of `d`
    next h =>
    have h2 : (2 * (n % d : ℕ) : ℚ) ≤ d := by exact_mod_cast (by omega : 2 * (n % d) ≤ d)
    have hhalf : ((n % d : ℕ) : ℚ) / d ≤ 1 / 2 := by
      rw [div_le_iff₀ hdq]
      linarith
    rw [abs_le]
    constructor <;> linarith

theorem eq_of_near_multiple {m k : ℤ} {e : ℤ}
    (h : |(m : ℚ) * 2 ^ e - k * 2 ^ e| ≤ 2 ^ e / 2) : m = k := by
  have h2e : (0 : ℚ) < 2 ^ e := by positivity
  have hmk : |((m - k : ℤ) : ℚ)| ≤ 1 / 2 := by
    rw [← sub_mul, abs_mul, abs_of_pos h2e] at h
    push_cast
    nlinarith
  have hint : |m - k| < 1 := by
    have : |((m - k : ℤ) : ℚ)| < 1 := by linarith
    exact_mod_cast this
  rw [abs_lt] at hint
  omega

/-! ## The 64-bit format -/

@[simp] theorem double_hidden : double.hidden = 4503599627370496 := rfl
@[simp] theorem double_fractionBits : double.fractionBits = 52 := rfl
@[simp] theorem double_minExp : double.minExp = -1074 := rfl
@[simp] theorem double_maxExp : double.maxExp = 971 := by decide
@[simp] theorem double_signWeight : double.signWeight = 9223372036854775808 := rfl
@[simp] theorem double_exponentBits : double.exponentBits = 11 := rfl
@[simp] theorem double_topField : double.topField = 2047 := rfl

theorem double_encode_normal {m : ℕ} {e : ℤ} (hm : 4503599627370496 ≤ m) (he : -1074 ≤ e)
    (he' : e ≤ 971) :
    double.encode false m e = (e + 1075).toNat * 4503599627370496 + (m - 4503599627370496) := by
  have hnorm : ¬ m < 4503599627370496 := by omega
  have hfield : (e - -1074 + 1).toNat = (e + 1075).toNat := by omega
  simp only [Format.encode, double_maxExp, double_hidden, double_minExp, hfield, hnorm,
    Bool.false_eq_true, if_false, zero_add]
  rw [if_neg (by omega)]

theorem double_decode_normal {k r : ℕ} (hk1 : 1 ≤ k) (hk2 : k ≤ 2046)
    (hr : r < 4503599627370496) :
    double.decode (k * 4503599627370496 + r) =
      .finite false (4503599627370496 + r) (-1074 + ((k - 1 : ℕ) : ℤ)) := by
  have hfrac : (k * 4503599627370496 + r) % 4503599627370496 = r := by omega
  have hfield : (k * 4503599627370496 + r) / 4503599627370496 % Nat.pow 2 11 = k := by
    rw [natPow_eq]
    omega
  have hsign : (k * 4503599627370496 + r) / 9223372036854775808 % 2 = 0 := by omega
  simp only [Format.decode, double_hidden, double_signWeight, double_minExp, double_exponentBits,
    double_topField, hfrac, hfield, hsign]
  rw [if_neg (by omega), if_neg (by omega), show ((0 : ℕ) == 1) = false from rfl]

theorem double_decode_encode {m : ℕ} {e : ℤ} (hm : 4503599627370496 ≤ m)
    (hm' : m < 9007199254740992) (he : -1074 ≤ e) (he' : e ≤ 971) :
    (⟨(double.encode false m e).toUInt64⟩ : Binary64).decode = .finite false m e := by
  have hbits : (double.encode false m e).toUInt64.toNat =
      (e + 1075).toNat * 4503599627370496 + (m - 4503599627370496) := by
    rw [double_encode_normal hm he he']
    exact UInt64.toNat_ofNat_of_lt' (show _ < 18446744073709551616 by omega)
  show double.decode (double.encode false m e).toUInt64.toNat = _
  rw [hbits, double_decode_normal (by omega) (by omega) (by omega), Value.finite.injEq]
  exact ⟨rfl, by omega, by omega⟩

/-! ## Rounding a ratio -/

theorem scaledRound_near (num : ℕ) {den : ℕ} (hden : 0 < den) (e : ℤ) :
    |(roundHalfEven (scaleDown num den e).1 (scaleDown num den e).2 : ℚ) * 2 ^ e - num / den| ≤
      2 ^ e / 2 := by
  obtain ⟨hd, hscaled⟩ := scaleDown_spec num den e hden
  have hnear := roundHalfEven_near (n := (scaleDown num den e).1) hd
  rw [hscaled] at hnear
  have h2e : (0 : ℚ) < 2 ^ e := by positivity
  have hfactor : (roundHalfEven (scaleDown num den e).1 (scaleDown num den e).2 : ℚ) * 2 ^ e -
      num / den = 2 ^ e * (roundHalfEven (scaleDown num den e).1 (scaleDown num den e).2 -
        num / den / 2 ^ e) := by
    field_simp
  rw [hfactor, abs_mul, abs_of_pos h2e]
  linarith [mul_le_mul_of_nonneg_left hnear h2e.le]

theorem double_exponentFor_normal {num den : ℕ} (hnum : 0 < num) (hden : 0 < den)
    (hlo : (2 : ℚ) ^ (-1022 : ℤ) ≤ num / den) (hhi : (num : ℚ) / den < 2 ^ (1023 : ℤ)) :
    -1074 ≤ double.exponentFor num den ∧ double.exponentFor num den ≤ 970 ∧
      (4503599627370496 : ℚ) * 2 ^ double.exponentFor num den ≤ num / den ∧
      (num : ℚ) / den < 9007199254740992 * 2 ^ double.exponentFor num den := by
  obtain ⟨hmin, hlt, hge⟩ := double.exponentFor_spec hnum hden
  set e := double.exponentFor num den
  rw [double_hidden] at hlt hge
  rw [double_minExp] at hmin hge
  have hge' : (4503599627370496 : ℚ) * 2 ^ e ≤ num / den := by
    rcases hge with h | h
    · rw [h]
      calc (4503599627370496 : ℚ) * 2 ^ (-1074 : ℤ) = 2 ^ (52 : ℤ) * 2 ^ (-1074 : ℤ) := by
            norm_num
        _ = 2 ^ (-1022 : ℤ) := by rw [← zpow_add₀ (by norm_num)]; norm_num
        _ ≤ num / den := hlo
    · exact_mod_cast h
  have hemax : e ≤ 970 := by
    by_contra hbig
    have h1 : (2 : ℚ) ^ (1023 : ℤ) ≤ 4503599627370496 * 2 ^ e := by
      rw [show (4503599627370496 : ℚ) = 2 ^ (52 : ℤ) by norm_num, ← zpow_add₀ (by norm_num)]
      exact zpow_le_zpow_right₀ (by norm_num) (by omega)
    exact absurd (hhi.trans_le (h1.trans hge')) (lt_irrefl _)
  push_cast at hlt
  exact ⟨hmin, hemax, hge', by linarith⟩

/-- **The double nearest to a ratio** in the range of the normal doubles has a significand of 53
bits, within half a unit of the ratio. -/
theorem Binary64.ofRatio_near {num den : ℕ} (hnum : 0 < num) (hden : 0 < den)
    (hlo : (2 : ℚ) ^ (-1022 : ℤ) ≤ num / den) (hhi : (num : ℚ) / den < 2 ^ (1023 : ℤ)) :
    ∃ m e, (Binary64.ofRatio false num den).decode = .finite false m e ∧
      2 ^ 52 ≤ m ∧ m < 2 ^ 53 ∧ -1074 ≤ e ∧ |(m : ℚ) * 2 ^ e - num / den| ≤ 2 ^ e / 2 := by
  obtain ⟨hmin, hemax, hge, hlt⟩ := double_exponentFor_normal hnum hden hlo hhi
  have herr := scaledRound_near num hden (double.exponentFor num den)
  unfold Binary64.ofRatio
  rw [Format.round_of_pos double false hnum, double_hidden]
  set e := double.exponentFor num den
  set r := roundHalfEven (scaleDown num den e).1 (scaleDown num den e).2
  have h2e : (0 : ℚ) < 2 ^ e := by positivity
  -- the rounded significand has 53 bits, or is `2^53` and carries
  obtain ⟨hrlo, hrhi⟩ := abs_le.1 herr
  have hr_lo : 4503599627370496 ≤ r := by
    have h' : (4503599627370495 : ℚ) < r := by nlinarith
    have h'' : 4503599627370495 < r := by exact_mod_cast h'
    omega
  have hr_hi : r ≤ 9007199254740992 := by
    have h' : (r : ℚ) < 9007199254740993 := by nlinarith
    have h'' : r < 9007199254740993 := by exact_mod_cast h'
    omega
  by_cases hcarry : r = 2 * 4503599627370496
  · -- the significand carries to `2^53`: the least significand at the next exponent
    rw [if_pos hcarry]
    refine ⟨4503599627370496, e + 1, double_decode_encode (by norm_num) (by norm_num) (by omega)
      (by omega), by norm_num, by norm_num, by omega, ?_⟩
    have hval : ((4503599627370496 : ℕ) : ℚ) * 2 ^ (e + 1) = r * 2 ^ e := by
      rw [hcarry, zpow_add_one₀ (by norm_num)]
      push_cast
      ring
    rw [hval, zpow_add_one₀ (by norm_num)]
    linarith
  · rw [if_neg hcarry]
    exact ⟨r, e, double_decode_encode hr_lo (by omega) hmin (by omega), hr_lo, by omega, hmin,
      herr⟩

/-- **The double nearest to a ratio is within `1 / (2^53 - 1)` of it**, relatively. -/
theorem Binary64.ofRatio_rel {num den : ℕ} (hnum : 0 < num) (hden : 0 < den)
    (hlo : (2 : ℚ) ^ (-1022 : ℤ) ≤ num / den) (hhi : (num : ℚ) / den < 2 ^ (1023 : ℤ)) :
    ∃ m e, (Binary64.ofRatio false num den).decode = .finite false m e ∧ 0 < m ∧
      |(m : ℚ) * 2 ^ e - num / den| ≤ num / den / (2 ^ 53 - 1) := by
  obtain ⟨m, e, hdec, hm, -, -, herr⟩ := Binary64.ofRatio_near hnum hden hlo hhi
  refine ⟨m, e, hdec, by omega, ?_⟩
  have h2e : (0 : ℚ) < 2 ^ e := by positivity
  have hmq : (4503599627370496 : ℚ) ≤ m := by exact_mod_cast hm
  have hunit : (2 : ℚ) ^ e * (2 ^ 53 - 1) ≤ 2 * (num / den) := by
    have := (abs_le.1 herr).2
    nlinarith
  rw [le_div_iff₀ (by norm_num)]
  nlinarith

/-! ## The operands of a quotient -/

theorem least_normal_le_one : (2 : ℚ) ^ (-1022 : ℤ) ≤ 1 :=
  zpow_le_one_of_nonpos₀ (by norm_num) (by norm_num)

theorem pow10_le_two_pow {n : ℕ} (hn : n ≤ 300) : (10 : ℚ) ^ n ≤ 2 ^ (1000 : ℤ) :=
  calc (10 : ℚ) ^ n ≤ 10 ^ 300 := pow_le_pow_right₀ (by norm_num) hn
    _ = (10 ^ 3) ^ 100 := by rw [← pow_mul]
    _ ≤ (2 ^ 10) ^ 100 := by gcongr; norm_num
    _ = 2 ^ ((1000 : ℕ) : ℤ) := by rw [zpow_natCast, ← pow_mul]

theorem pow10_lt_top {n : ℕ} (hn : n ≤ 300) : (10 : ℚ) ^ n < 2 ^ (1023 : ℤ) :=
  (pow10_le_two_pow hn).trans_lt (zpow_lt_zpow_right₀ (by norm_num) (by norm_num))

/-- **A natural below `2^52` is a double exactly.** -/
theorem Binary64.ofNat_exact {d : ℕ} (hd : 0 < d) (hd' : d < 2 ^ 52) :
    ∃ m e, (Binary64.ofNat d).decode = .finite false m e ∧ (m : ℚ) * 2 ^ e = d := by
  have hdq : (1 : ℚ) ≤ d := by exact_mod_cast hd
  have hdq' : (d : ℚ) < 2 ^ 52 := by exact_mod_cast hd'
  obtain ⟨m, e, hdec, hm, -, -, herr⟩ := @Binary64.ofRatio_near d 1 hd one_pos
    (by rw [Nat.cast_one, div_one]; exact least_normal_le_one.trans hdq)
    (by
      rw [Nat.cast_one, div_one]
      refine hdq'.trans ?_
      rw [← zpow_natCast]
      exact zpow_lt_zpow_right₀ (by norm_num) (by norm_num))
  rw [Nat.cast_one, div_one] at herr
  refine ⟨m, e, hdec, ?_⟩
  have hmq : (4503599627370496 : ℚ) ≤ m := by exact_mod_cast hm
  have he : e ≤ 0 := by
    by_contra hpos
    have h2 : (2 : ℚ) ≤ 2 ^ e := by
      calc (2 : ℚ) = 2 ^ (1 : ℤ) := by norm_num
        _ ≤ 2 ^ e := zpow_le_zpow_right₀ (by norm_num) (by omega)
    have := (abs_le.1 herr).2
    nlinarith
  have hmul : (d : ℚ) = ((d * 2 ^ (-e).toNat : ℕ) : ℤ) * 2 ^ e := by
    push_cast
    rw [mul_assoc, ← zpow_natCast, ← zpow_add₀ (by norm_num), Int.toNat_of_nonneg (by omega),
      neg_add_cancel, zpow_zero, mul_one]
  have hk := eq_of_near_multiple (m := m) (k := (d * 2 ^ (-e).toNat : ℕ)) (e := e)
    (by rw [← hmul]; exact_mod_cast herr)
  rw [hmul, ← hk]
  push_cast
  rfl

theorem pow10_in_range {n : ℕ} (hn : n ≤ 300) :
    (2 : ℚ) ^ (-1022 : ℤ) ≤ ((10 ^ n : ℕ) : ℚ) / (1 : ℕ) ∧
      ((10 ^ n : ℕ) : ℚ) / (1 : ℕ) < 2 ^ (1023 : ℤ) := by
  rw [Nat.cast_one, div_one, Nat.cast_pow, Nat.cast_ofNat]
  exact ⟨least_normal_le_one.trans (one_le_pow₀ (by norm_num)), pow10_lt_top hn⟩

/-- **The double powers of ten up to `10^300`** are within `1 / (2^53 - 1)` of the power. -/
theorem pow10_rel {n : ℕ} (hn : n ≤ 300) :
    ∃ m e, (Json.pow10 n).decode = .finite false m e ∧ 0 < m ∧
      |(m : ℚ) * 2 ^ e - 10 ^ n| ≤ 10 ^ n / (2 ^ 53 - 1) := by
  obtain ⟨hlo, hhi⟩ := pow10_in_range hn
  obtain ⟨m, e, hdec, hm, herr⟩ :=
    @Binary64.ofRatio_rel (10 ^ n) 1 (by positivity) one_pos hlo hhi
  push_cast at herr
  rw [div_one] at herr
  exact ⟨m, e, hdec, hm, herr⟩

/-- **The double powers of ten up to `10^22` are exact**: `5^22` still fits in 53 bits. -/
theorem pow10_exact {n : ℕ} (hn : n ≤ 22) :
    ∃ m e, (Json.pow10 n).decode = .finite false m e ∧ (m : ℚ) * 2 ^ e = 10 ^ n := by
  obtain ⟨hlo, hhi⟩ := pow10_in_range (n := n) (by omega)
  obtain ⟨m, e, hdec, hm, -, -, herr⟩ :=
    @Binary64.ofRatio_near (10 ^ n) 1 (by positivity) one_pos hlo hhi
  push_cast at herr
  rw [div_one] at herr
  refine ⟨m, e, hdec, ?_⟩
  have hmq : (4503599627370496 : ℚ) ≤ m := by exact_mod_cast hm
  have h5 : (5 : ℚ) ^ n ≤ 5 ^ 22 := pow_le_pow_right₀ (by norm_num) hn
  have h10 : (10 : ℚ) ^ n = 5 ^ n * 2 ^ (n : ℤ) := by
    rw [zpow_natCast, ← mul_pow]
    norm_num
  have he : e ≤ n := by
    by_contra hbig
    have h2 : (2 : ℚ) * 2 ^ (n : ℤ) ≤ 2 ^ e := by
      rw [← zpow_one_add₀ (by norm_num)]
      exact zpow_le_zpow_right₀ (by norm_num) (by omega)
    have h2n : (0 : ℚ) < 2 ^ (n : ℤ) := by positivity
    have := (abs_le.1 herr).2
    nlinarith
  have hmul : (10 : ℚ) ^ n = ((5 ^ n * 2 ^ (n - e).toNat : ℕ) : ℤ) * 2 ^ e := by
    push_cast
    rw [h10, mul_assoc, ← zpow_natCast (2 : ℚ) (n - e).toNat, ← zpow_add₀ (by norm_num),
      Int.toNat_of_nonneg (by omega), sub_add_cancel]
  have hk := eq_of_near_multiple (m := m) (k := (5 ^ n * 2 ^ (n - e).toNat : ℕ)) (e := e)
    (by rw [← hmul]; exact_mod_cast herr)
  rw [hmul, ← hk]
  push_cast
  rfl

/-! ## A quotient and a narrowing -/

/-- **The quotient of two finite doubles** is their exact quotient, rounded. -/
theorem Binary64.div_eq_ofRatio {a b : Binary64} {sa sb : Bool} {m₁ m₂ : ℕ} {e₁ e₂ : ℤ}
    (ha : a.decode = .finite sa m₁ e₁) (hb : b.decode = .finite sb m₂ e₂) (hm₂ : 0 < m₂) :
    ∃ num den, 0 < den ∧ a.div b = Binary64.ofRatio false num den ∧
      (num : ℚ) / den = m₁ * 2 ^ e₁ / (m₂ * 2 ^ e₂) := by
  have h2 : (2 : ℚ) ≠ 0 := by norm_num
  unfold Binary64.div
  rw [ha, hb]
  simp only
  split
  · next h =>
    refine ⟨m₁ * Nat.pow 2 (e₁ - e₂).toNat, m₂, hm₂, rfl, ?_⟩
    push_cast [natPow_eq]
    rw [← zpow_natCast, Int.toNat_of_nonneg h, zpow_sub₀ h2]
    field_simp
  · next h =>
    refine ⟨m₁, m₂ * Nat.pow 2 (e₂ - e₁).toNat, by simp only [natPow_eq]; positivity, rfl, ?_⟩
    push_cast [natPow_eq]
    rw [← zpow_natCast, Int.toNat_of_nonneg (by omega), zpow_sub₀ h2]
    field_simp

theorem ratioOf_spec (m : ℕ) (e : ℤ) :
    0 < (ratioOf m e).2 ∧ ((ratioOf m e).1 : ℚ) / (ratioOf m e).2 = m * 2 ^ e := by
  unfold ratioOf
  split
  · next h =>
    refine ⟨one_pos, ?_⟩
    push_cast [natPow_eq]
    rw [div_one, ← zpow_natCast, Int.toNat_of_nonneg h]
  · next h =>
    refine ⟨by simp only [natPow_eq]; positivity, ?_⟩
    push_cast [natPow_eq]
    rw [← zpow_natCast, Int.toNat_of_nonneg (by omega), zpow_neg, div_eq_mul_inv, inv_inv]

/-- **Narrowing a finite double** rounds its exact value once. -/
theorem Binary64.toBinary32_eq_ofRatio {f : Binary64} {s : Bool} {m : ℕ} {e : ℤ}
    (hf : f.decode = .finite s m e) :
    f.toBinary32 = Binary32.ofRatio s (ratioOf m e).1 (ratioOf m e).2 := by
  unfold Binary64.toBinary32
  rw [hf]

end TrafficShaper.Binary
