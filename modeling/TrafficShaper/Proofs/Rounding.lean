import TrafficShaper.DecimalText.Read
import Mathlib

/-! # Rounding to a binary format, exactly

`Format.round` turns an exact ratio `num / den` into the bits of the nearest value of a format.
This module says what it computes, on the rationals: the exponent it picks leaves the scaled
significand in `[2^(p-1), 2^p)` (or below, at the subnormal exponent), the significand is the
scaled ratio rounded half to even, and so every ratio inside the rounding interval of a 32-bit
value `m · 2^e` is rounded to exactly that value.

The rounding interval is the one `Format.boundaries` gives: the midpoints towards the two
neighbours, included when `m` is even, with the lower one a quarter unit below `m` where the
exponent steps down below a power of two.

* `cmpScaled_lt_iff` and its two siblings: the exact comparison of `a · 10^i` with `b · 2^j`;
* `roundHalfEven_eq`: rounding half to even, in the rationals;
* `Format.exponentFor_spec`, `Format.exponentFor_eq`: the exponent of a ratio;
* `Format.Rounds`: the rounding interval as a set of rationals;
* `Binary32.ofRatio_eq_of_rounds`: every ratio in the rounding interval of a 32-bit value rounds
  to that value.
-/

namespace TrafficShaper.Binary

@[simp] theorem natPow_eq (a b : ℕ) : Nat.pow a b = a ^ b := rfl

theorem zpow_mul_pow_toNat_neg {x : ℚ} (hx : x ≠ 0) (i : ℤ) :
    x ^ i * x ^ (-i).toNat = x ^ i.toNat := by
  have h : x ^ i = x ^ i.toNat / x ^ (-i).toNat := by
    rw [← zpow_natCast, ← zpow_natCast, ← zpow_sub₀ hx, Int.toNat_sub_toNat_neg]
  rw [h, div_mul_cancel₀ _ (pow_ne_zero _ hx)]

end TrafficShaper.Binary

namespace TrafficShaper.DecimalText

open TrafficShaper.Binary

/-! ## Exact comparisons -/

section Compare

variable (a b : ℕ) (i j : ℤ)

theorem cmpScaled_sides :
    ((a * Nat.pow 10 i.toNat * Nat.pow 2 (-j).toNat : ℕ) : ℚ) =
        (a * 10 ^ i) * (10 ^ (-i).toNat * 2 ^ (-j).toNat) ∧
      ((b * Nat.pow 2 j.toNat * Nat.pow 10 (-i).toNat : ℕ) : ℚ) =
        (b * 2 ^ j) * (10 ^ (-i).toNat * 2 ^ (-j).toNat) := by
  have h10 := zpow_mul_pow_toNat_neg (by norm_num : (10 : ℚ) ≠ 0) i
  have h2 := zpow_mul_pow_toNat_neg (by norm_num : (2 : ℚ) ≠ 0) j
  constructor
  · push_cast [natPow_eq]
    rw [← h10]
    ring
  · push_cast [natPow_eq]
    rw [← h2]
    ring

theorem scale_pos : (0 : ℚ) < 10 ^ (-i).toNat * 2 ^ (-j).toNat := by positivity

theorem cmpScaled_lt_iff : cmpScaled a i b j = .lt ↔ (a : ℚ) * 10 ^ i < b * 2 ^ j := by
  obtain ⟨ha, hb⟩ := cmpScaled_sides a b i j
  unfold cmpScaled
  rw [Nat.compare_eq_lt, ← @Nat.cast_lt ℚ _ _ _ _ _, ha, hb]
  exact mul_lt_mul_iff_of_pos_right (scale_pos i j)

theorem cmpScaled_eq_iff : cmpScaled a i b j = .eq ↔ (a : ℚ) * 10 ^ i = b * 2 ^ j := by
  obtain ⟨ha, hb⟩ := cmpScaled_sides a b i j
  unfold cmpScaled
  rw [Nat.compare_eq_eq, ← @Nat.cast_inj ℚ _ _, ha, hb]
  exact mul_left_inj' (scale_pos i j).ne'

theorem cmpScaled_gt_iff : cmpScaled a i b j = .gt ↔ (b : ℚ) * 2 ^ j < a * 10 ^ i := by
  obtain ⟨ha, hb⟩ := cmpScaled_sides a b i j
  unfold cmpScaled
  rw [Nat.compare_eq_gt, ← @Nat.cast_lt ℚ _ _ _ _ _, ha, hb]
  exact mul_lt_mul_iff_of_pos_right (scale_pos i j)

end Compare

end TrafficShaper.DecimalText

namespace TrafficShaper.Binary

/-! ## Round half to even -/

theorem roundHalfEven_eq_of_near {n d m : ℕ} (hd : 0 < d) (hlo : 2 * m * d ≤ 2 * n + d)
    (hhi : 2 * n ≤ 2 * m * d + d)
    (heven : (2 * m * d = 2 * n + d ∨ 2 * n = 2 * m * d + d) → m % 2 = 0) :
    roundHalfEven n d = m := by
  have hdiv := Nat.div_add_mod n d
  have hmod := Nat.mod_lt n hd
  have hmd : 2 * m * d = 2 * (d * m) := by ring
  -- the quotient is `m` or `m - 1`
  have hq : n / d ≤ m := by
    by_contra hq
    have h1 : d * (m + 1) ≤ d * (n / d) := Nat.mul_le_mul_left d (by omega)
    have h2 : d * (m + 1) = d * m + d := by ring
    omega
  have hq' : m ≤ n / d + 1 := by
    by_contra hq'
    have h1 : d * (n / d + 2) ≤ d * m := Nat.mul_le_mul_left d (by omega)
    have h2 : d * (n / d + 2) = d * (n / d) + 2 * d := by ring
    omega
  unfold roundHalfEven
  simp only
  rcases Nat.eq_or_lt_of_le hq with hq | hq
  · -- quotient `m`: the remainder is at most half, exactly half only for an even `m`
    rw [hq] at hdiv
    rw [if_neg, hq]
    rintro (h | ⟨h, hodd⟩)
    · omega
    · have := heven (Or.inr (by omega))
      omega
  · -- quotient `m - 1`: the remainder is at least half, exactly half only for an even `m`
    have hm : n / d + 1 = m := by omega
    have hqd : 2 * (n / d + 1) * d = 2 * (d * (n / d)) + 2 * d := by ring
    rw [← hm] at hlo heven
    rw [if_pos, hm]
    rcases Nat.lt_or_ge d (2 * (n % d)) with h | h
    · exact Or.inl h
    · have := heven (Or.inl (by omega))
      exact Or.inr ⟨by omega, by omega⟩

/-- **Round half to even** gives `m` for every `n / d` within half of `m`, the exact halves
included only when `m` is even. -/
theorem roundHalfEven_eq {n d m : ℕ} (hd : 0 < d)
    (hlo : (m : ℚ) - 1 / 2 ≤ n / d) (hhi : (n : ℚ) / d ≤ m + 1 / 2)
    (heven : ((n : ℚ) / d = m - 1 / 2 ∨ (n : ℚ) / d = m + 1 / 2) → m % 2 = 0) :
    roundHalfEven n d = m := by
  have hdq : (0 : ℚ) < d := by exact_mod_cast hd
  refine roundHalfEven_eq_of_near hd ?_ ?_ ?_
  · have := (le_div_iff₀ hdq).1 hlo
    exact_mod_cast (by linarith : (2 * m * d : ℚ) ≤ 2 * n + d)
  · have := (div_le_iff₀ hdq).1 hhi
    exact_mod_cast (by linarith : (2 * n : ℚ) ≤ 2 * m * d + d)
  · rintro (h | h)
    · have h' : (2 * m * d : ℚ) = 2 * n + d := by exact_mod_cast h
      exact heven (.inl (by field_simp; linarith))
    · have h' : (2 * n : ℚ) = 2 * m * d + d := by exact_mod_cast h
      exact heven (.inr (by field_simp; linarith))

/-! ## Scaling by a power of two -/

theorem scaleDown_spec (num den : ℕ) (e : ℤ) (hden : 0 < den) :
    0 < (scaleDown num den e).2 ∧
      ((scaleDown num den e).1 : ℚ) / (scaleDown num den e).2 = num / den / 2 ^ e := by
  unfold scaleDown
  split
  · next he =>
    refine ⟨by simp only [natPow_eq]; positivity, ?_⟩
    have : (2 : ℚ) ^ e = 2 ^ e.toNat := by
      rw [← zpow_natCast, Int.toNat_of_nonneg he]
    push_cast [natPow_eq]
    rw [this, div_div]
  · next he =>
    refine ⟨hden, ?_⟩
    have : (2 : ℚ) ^ e = ((2 : ℚ) ^ (-e).toNat)⁻¹ := by
      rw [← zpow_natCast, Int.toNat_of_nonneg (by omega), zpow_neg, inv_inv]
    push_cast [natPow_eq]
    rw [this, div_inv_eq_mul]
    ring

/-! ## The exponent of a ratio -/

theorem log2_bounds {n : ℕ} (hn : 0 < n) :
    (2 : ℚ) ^ (Nat.log2 n : ℤ) ≤ n ∧ (n : ℚ) < 2 ^ ((Nat.log2 n : ℤ) + 1) := by
  have hlo : 2 ^ Nat.log2 n ≤ n := Nat.log2_self_le (by omega)
  have hhi : n < 2 ^ (Nat.log2 n + 1) := Nat.lt_log2_self
  constructor
  · rw [zpow_natCast]
    exact_mod_cast hlo
  · rw [← Nat.cast_one, ← Nat.cast_add, zpow_natCast]
    exact_mod_cast hhi

theorem ratio_bounds {num den : ℕ} (hnum : 0 < num) (hden : 0 < den) :
    let l : ℤ := (Nat.log2 num : ℤ) - Nat.log2 den
    (2 : ℚ) ^ (l - 1) < num / den ∧ (num : ℚ) / den < 2 ^ (l + 1) := by
  intro l
  obtain ⟨hn1, hn2⟩ := log2_bounds hnum
  obtain ⟨hd1, hd2⟩ := log2_bounds hden
  have hdq : (0 : ℚ) < den := by exact_mod_cast hden
  have h2 : ∀ a b : ℤ, (2 : ℚ) ^ (a - b) = 2 ^ a / 2 ^ b := fun a b =>
    zpow_sub₀ (by norm_num) a b
  constructor
  · have hA : (2 : ℚ) ^ (l - 1) = 2 ^ (Nat.log2 num : ℤ) / 2 ^ ((Nat.log2 den : ℤ) + 1) := by
      rw [← h2]
      congr 1
      omega
    rw [hA, lt_div_iff₀ hdq, div_mul_eq_mul_div, div_lt_iff₀ (by positivity)]
    calc (2 : ℚ) ^ (Nat.log2 num : ℤ) * den < 2 ^ (Nat.log2 num : ℤ) * 2 ^ ((Nat.log2 den : ℤ) + 1) :=
          mul_lt_mul_of_pos_left hd2 (by positivity)
      _ ≤ num * 2 ^ ((Nat.log2 den : ℤ) + 1) := mul_le_mul_of_nonneg_right hn1 (by positivity)
  · have hB : (2 : ℚ) ^ (l + 1) = 2 ^ ((Nat.log2 num : ℤ) + 1) / 2 ^ (Nat.log2 den : ℤ) := by
      rw [← h2]
      congr 1
      omega
    rw [hB, div_lt_iff₀ hdq, div_mul_eq_mul_div, lt_div_iff₀ (by positivity)]
    calc (num : ℚ) * 2 ^ (Nat.log2 den : ℤ) ≤ num * den :=
          mul_le_mul_of_nonneg_left hd1 (by positivity)
      _ < 2 ^ ((Nat.log2 num : ℤ) + 1) * den := mul_lt_mul_of_pos_right hn2 hdq

theorem Format.hidden_cast (f : Format) : (f.hidden : ℚ) = 2 ^ (f.fractionBits : ℤ) := by
  rw [Format.hidden, natPow_eq, zpow_natCast]
  push_cast
  rfl

/-- **The candidate exponent** of a ratio, before the subnormal floor: the estimate from the bit
lengths, or one below it when the ratio falls short of `2^(p-1)` units there. -/
def Format.candidateExp (f : Format) (num den : ℕ) : ℤ :=
  let e : ℤ := (Nat.log2 num : ℤ) - Nat.log2 den - f.fractionBits
  if (scaleDown num den e).1 / (scaleDown num den e).2 < f.hidden then e - 1 else e

theorem Format.exponentFor_eq_max (f : Format) (num den : ℕ) :
    f.exponentFor num den = max (f.candidateExp num den) f.minExp := rfl

theorem Format.candidateExp_bounds (f : Format) {num den : ℕ} (hnum : 0 < num) (hden : 0 < den) :
    (f.hidden : ℚ) * 2 ^ f.candidateExp num den ≤ num / den ∧
      (num : ℚ) / den < 2 * f.hidden * 2 ^ f.candidateExp num den := by
  obtain ⟨hv1, hv2⟩ := ratio_bounds hnum hden
  set l : ℤ := (Nat.log2 num : ℤ) - Nat.log2 den
  set v : ℚ := (num : ℚ) / den
  set e : ℤ := l - f.fractionBits
  obtain ⟨hd, hy⟩ := scaleDown_spec num den e hden
  have h2e : (0 : ℚ) < 2 ^ e := by positivity
  have hH : (f.hidden : ℚ) * 2 ^ e = 2 ^ l := by
    rw [Format.hidden_cast, ← zpow_add₀ (by norm_num)]
    congr 1
    omega
  have hlow : (2 : ℚ) ^ (l - 1) = f.hidden * 2 ^ e / 2 := by
    rw [hH, zpow_sub_one₀ (by norm_num)]
    ring
  have hhigh : (2 : ℚ) ^ (l + 1) = 2 * (f.hidden * 2 ^ e) := by
    rw [hH, zpow_add_one₀ (by norm_num)]
    ring
  have hhalf : (2 : ℚ) ^ (e - 1) = 2 ^ e / 2 := zpow_sub_one₀ (by norm_num) e
  have htest : (scaleDown num den e).1 / (scaleDown num den e).2 < f.hidden ↔
      v < f.hidden * 2 ^ e := by
    rw [Nat.div_lt_iff_lt_mul hd, ← @Nat.cast_lt ℚ _ _ _ _ _, Nat.cast_mul,
      ← div_lt_iff₀ (by exact_mod_cast hd), hy, div_lt_iff₀ h2e]
  have hcand : f.candidateExp num den =
      if (scaleDown num den e).1 / (scaleDown num den e).2 < f.hidden then e - 1 else e := rfl
  rw [hcand]
  split
  · next h =>
    rw [hhalf]
    have := htest.1 h
    constructor <;> linarith
  · next h =>
    have := mt htest.2 h
    constructor <;> linarith

/-- **The exponent of a ratio**: at the exponent chosen, the ratio is below `2^p` units, and it is
at least `2^(p-1)` units unless the exponent is the least one. -/
theorem Format.exponentFor_spec (f : Format) {num den : ℕ} (hnum : 0 < num) (hden : 0 < den) :
    f.minExp ≤ f.exponentFor num den ∧
      (num : ℚ) / den < 2 * f.hidden * 2 ^ f.exponentFor num den ∧
      (f.exponentFor num den = f.minExp ∨
        (f.hidden : ℚ) * 2 ^ f.exponentFor num den ≤ num / den) := by
  obtain ⟨hlo, hhi⟩ := f.candidateExp_bounds hnum hden
  rw [Format.exponentFor_eq_max]
  rcases le_total f.minExp (f.candidateExp num den) with h | h
  · rw [max_eq_left h]
    exact ⟨h, hhi, Or.inr hlo⟩
  · -- the floor wins
    rw [max_eq_right h]
    refine ⟨le_refl _, ?_, Or.inl rfl⟩
    calc (num : ℚ) / den < 2 * f.hidden * 2 ^ f.candidateExp num den := hhi
      _ ≤ 2 * f.hidden * 2 ^ f.minExp := by
        gcongr
        norm_num

/-- **The exponent is determined**: the one exponent at or above the least at which the ratio is
below `2^p` units and, away from the least, at least `2^(p-1)` units. -/
theorem Format.exponentFor_eq (f : Format) {num den : ℕ} (hnum : 0 < num) (hden : 0 < den)
    {e : ℤ} (hmin : f.minExp ≤ e) (hlt : (num : ℚ) / den < 2 * f.hidden * 2 ^ e)
    (hge : e = f.minExp ∨ (f.hidden : ℚ) * 2 ^ e ≤ num / den) :
    f.exponentFor num den = e := by
  obtain ⟨hmin', hlt', hge'⟩ := f.exponentFor_spec hnum hden
  set r := f.exponentFor num den
  have hH : (0 : ℚ) < f.hidden := by
    rw [Format.hidden_cast]
    positivity
  have hstep : ∀ a b : ℤ, a < b → 2 * (f.hidden : ℚ) * 2 ^ a ≤ f.hidden * 2 ^ b := by
    intro a b hab
    have : (2 : ℚ) ^ (a + 1) ≤ 2 ^ b := zpow_le_zpow_right₀ (by norm_num) (by omega)
    rw [zpow_add_one₀ (by norm_num)] at this
    linarith [mul_le_mul_of_nonneg_left this hH.le]
  rcases lt_trichotomy r e with h | h | h
  · rcases hge with rfl | hge
    · omega
    · linarith [hstep r e h]
  · exact h
  · rcases hge' with h' | hge'
    · omega
    · linarith [hstep e r h]

/-! ## The rounding interval -/

/-- **The rounding interval of `m · 2^e`**, as a set of rationals: strictly between the two
boundaries that `Format.boundaries` gives in units of `2^(e-2)`, or on one of them when the
boundaries read back themselves. -/
def Format.Rounds (f : Format) (m : ℕ) (e : ℤ) (v : ℚ) : Prop :=
  ((f.boundaries m e).1 * (2 : ℚ) ^ (e - 2) < v ∨
      ((f.boundaries m e).2.2 = true ∧ v = (f.boundaries m e).1 * (2 : ℚ) ^ (e - 2))) ∧
    (v < (f.boundaries m e).2.1 * (2 : ℚ) ^ (e - 2) ∨
      ((f.boundaries m e).2.2 = true ∧ v = (f.boundaries m e).2.1 * (2 : ℚ) ^ (e - 2)))

section Rounds

variable {f : Format} {m : ℕ} {e : ℤ} {v : ℚ}

theorem quarter_zpow (e : ℤ) : (2 : ℚ) ^ (e - 2) = 2 ^ e / 4 := by
  rw [zpow_sub₀ (by norm_num)]
  norm_num

theorem Format.Rounds.bounds (h : f.Rounds m e v) (hm : 0 < m) :
    ((m : ℚ) - 1 / 2) * 2 ^ e ≤ v ∧ v ≤ ((m : ℚ) + 1 / 2) * 2 ^ e ∧
      ((v = ((m : ℚ) - 1 / 2) * 2 ^ e ∨ v = ((m : ℚ) + 1 / 2) * 2 ^ e) → m % 2 = 0) := by
  obtain ⟨hlo, hhi⟩ := h
  have h2e : (0 : ℚ) < 2 ^ e := by positivity
  have hq := quarter_zpow e
  have hm1 : (1 : ℚ) ≤ m := by exact_mod_cast hm
  simp only [Format.boundaries, beq_iff_eq] at hlo hhi
  have hlow : ((m : ℚ) - 1 / 2) * 2 ^ e ≤
      ((if m = f.hidden ∧ f.minExp < e then 4 * m - 1 else 4 * m - 2 : ℕ) : ℚ) * 2 ^ (e - 2) := by
    split <;> push_cast [Nat.cast_sub (by omega : 1 ≤ 4 * m), Nat.cast_sub (by omega : 2 ≤ 4 * m)] <;>
      rw [hq] <;> linarith
  have hupper : ((4 * m + 2 : ℕ) : ℚ) * 2 ^ (e - 2) = ((m : ℚ) + 1 / 2) * 2 ^ e := by
    push_cast
    rw [hq]
    ring
  rw [hupper] at hhi
  refine ⟨?_, ?_, ?_⟩
  · rcases hlo with hlo | ⟨-, hlo⟩ <;> linarith
  · rcases hhi with hhi | ⟨-, hhi⟩ <;> linarith
  · rintro (hv | hv)
    · -- exactly on the lower boundary: it is the plain one, and it must be closed
      split at hlo
      · next hn =>
        push_cast [Nat.cast_sub (by omega : 1 ≤ 4 * m)] at hlo
        rw [hq] at hlo
        rcases hlo with hlo | ⟨-, hlo⟩ <;> linarith
      · push_cast [Nat.cast_sub (by omega : 2 ≤ 4 * m)] at hlo
        rw [hq] at hlo
        rcases hlo with hlo | ⟨hc, -⟩
        · linarith
        · exact hc
    · rcases hhi with hhi | ⟨hc, -⟩
      · linarith
      · exact hc

theorem Format.Rounds.narrow (h : f.Rounds m e v) (hm : m = f.hidden) (he : f.minExp < e) :
    ((m : ℚ) - 1 / 4) * 2 ^ e ≤ v := by
  obtain ⟨hlo, -⟩ := h
  have hm1 : 1 ≤ m := by
    rw [hm, Format.hidden, natPow_eq]
    exact Nat.one_le_two_pow
  simp only [Format.boundaries, hm, he, and_self, if_true] at hlo
  rw [← hm] at hlo
  push_cast [Nat.cast_sub (by omega : 1 ≤ 4 * m)] at hlo
  rw [quarter_zpow] at hlo
  rcases hlo with hlo | ⟨-, hlo⟩ <;> linarith [(by positivity : (0 : ℚ) < 2 ^ e)]

end Rounds

/-! ## The 32-bit format -/

@[simp] theorem single_hidden : single.hidden = 8388608 := rfl
@[simp] theorem single_fractionBits : single.fractionBits = 23 := rfl
@[simp] theorem single_minExp : single.minExp = -149 := rfl
@[simp] theorem single_maxExp : single.maxExp = 104 := by decide
@[simp] theorem single_signWeight : single.signWeight = 2147483648 := rfl
@[simp] theorem single_topField : single.topField = 255 := rfl

theorem Binary32.decode_eq (x : Binary32) : x.decode =
    if x.bits.toNat / 8388608 % 256 = 0 then
      .finite (x.bits.toNat / 2147483648 % 2 == 1) (x.bits.toNat % 8388608) (-149)
    else if x.bits.toNat / 8388608 % 256 = 255 then
      (if x.bits.toNat % 8388608 = 0 then .infinite (x.bits.toNat / 2147483648 % 2 == 1) else .nan)
    else .finite (x.bits.toNat / 2147483648 % 2 == 1) (8388608 + x.bits.toNat % 8388608)
      (-149 + ((x.bits.toNat / 8388608 % 256 - 1 : ℕ) : ℤ)) := rfl

theorem Binary32.decode_finite {x : Binary32} {s : Bool} {m : ℕ} {e : ℤ}
    (h : x.decode = .finite s m e) :
    m < 2 * single.hidden ∧ single.minExp ≤ e ∧ e ≤ single.maxExp ∧
      (m < single.hidden → e = single.minExp) ∧ single.encode s m e = x.bits.toNat := by
  have hb : x.bits.toNat < 4294967296 := x.bits.toNat_lt
  rw [Binary32.decode_eq] at h
  simp only [Format.encode, single_maxExp, single_minExp, single_hidden, single_signWeight]
  by_cases h0 : x.bits.toNat / 8388608 % 256 = 0
  · -- a zero or a subnormal: the field is zero
    rw [if_pos h0] at h
    injection h with hs hm he
    subst hs hm he
    refine ⟨by omega, le_refl _, by omega, fun _ => rfl, ?_⟩
    have hfin : ¬ ((104 : ℤ) < -149) := by omega
    have hsub : x.bits.toNat % 8388608 < 8388608 := Nat.mod_lt _ (by norm_num)
    simp only [hfin, hsub, ↓reduceIte]
    split <;> rename_i hs <;> simp only [beq_iff_eq] at hs <;> omega
  · rw [if_neg h0] at h
    by_cases htop : x.bits.toNat / 8388608 % 256 = 255
    · rw [if_pos htop] at h
      split at h <;> cases h
    rw [if_neg htop] at h
    injection h with hs hm he
    subst hs hm he
    refine ⟨by omega, by omega, by omega, fun h => by omega, ?_⟩
    have hfin : ¬ (104 < -149 + ((x.bits.toNat / 8388608 % 256 - 1 : ℕ) : ℤ)) := by omega
    have hnorm : ¬ (8388608 + x.bits.toNat % 8388608 < 8388608) := by omega
    simp only [hfin, hnorm, ↓reduceIte]
    split <;> rename_i hs <;> simp only [beq_iff_eq] at hs <;> omega

theorem Format.round_of_pos (f : Format) (s : Bool) {num den : ℕ} (hnum : 0 < num) :
    f.round s num den =
      if roundHalfEven (scaleDown num den (f.exponentFor num den)).1
          (scaleDown num den (f.exponentFor num den)).2 = 2 * f.hidden
      then f.encode s f.hidden (f.exponentFor num den + 1)
      else f.encode s (roundHalfEven (scaleDown num den (f.exponentFor num den)).1
          (scaleDown num den (f.exponentFor num den)).2) (f.exponentFor num den) := by
  unfold Format.round
  rw [if_neg (by omega)]

section OfRatio

variable {s : Bool} {m : ℕ} {e : ℤ} {num den : ℕ}

theorem single_round_narrow (hnum : 0 < num) (hden : 0 < den)
    (hr : single.Rounds 8388608 e (num / den)) (he : -149 < e)
    (hv : (num : ℚ) / den < 8388608 * 2 ^ e) :
    single.round s num den = single.encode s 8388608 e := by
  obtain ⟨-, hhi, -⟩ := hr.bounds (by norm_num)
  have h2e : (0 : ℚ) < 2 ^ e := by positivity
  have hn := hr.narrow (by simp) (by simpa using he)
  have hhalf : (2 : ℚ) ^ (e - 1) = 2 ^ e / 2 := zpow_sub_one₀ (by norm_num) e
  have hexp : single.exponentFor num den = e - 1 := by
    refine single.exponentFor_eq hnum hden (by simp; omega) ?_ (Or.inr ?_) <;>
      simp only [single_hidden, hhalf] <;> push_cast <;> linarith
  have hq : roundHalfEven (scaleDown num den (e - 1)).1 (scaleDown num den (e - 1)).2 =
      2 * 8388608 := by
    refine roundHalfEven_eq (scaleDown_spec num den _ hden).1 ?_ ?_ ?_ <;>
      rw [(scaleDown_spec num den _ hden).2, hhalf, div_div_eq_mul_div] <;> push_cast
    · rw [le_div_iff₀ h2e]; linarith
    · rw [div_le_iff₀ h2e]; linarith
    · intro _; norm_num
  rw [Format.round_of_pos single s hnum, hexp, hq, if_pos (by simp), sub_add_cancel]
  rfl

theorem single_round_plain {x : Binary32} (hx : x.decode = .finite s m e) (hm : 0 < m)
    (hnum : 0 < num) (hden : 0 < den) (hr : single.Rounds m e (num / den))
    (hplain : ¬(m = 8388608 ∧ -149 < e ∧ (num : ℚ) / den < 8388608 * 2 ^ e)) :
    single.round s num den = single.encode s m e := by
  obtain ⟨hm2, hmin, -, hsub, -⟩ := Binary32.decode_finite hx
  obtain ⟨hlo, hhi, htie⟩ := hr.bounds hm
  simp only [single_hidden, single_minExp] at hm2 hmin hsub
  set v : ℚ := (num : ℚ) / den
  have h2e : (0 : ℚ) < 2 ^ e := by positivity
  have hmq : (m : ℚ) + 1 / 2 < 2 * 8388608 := by
    have : (m : ℚ) + 1 ≤ 2 * 8388608 := by exact_mod_cast hm2
    linarith
  have hexp : single.exponentFor num den = e := by
    refine single.exponentFor_eq hnum hden (by simpa using hmin) ?_ ?_
    · simp only [single_hidden]
      push_cast
      linarith [mul_lt_mul_of_pos_right hmq h2e]
    · -- at least `2^23` units, unless `e` is the least exponent
      simp only [single_hidden, single_minExp]
      rcases Nat.lt_or_ge m 8388608 with hlt | hge
      · exact Or.inl (hsub hlt)
      rcases Nat.eq_or_lt_of_le hge with heq | hgt
      · subst heq
        by_cases he : -149 < e
        · right
          push_cast
          by_contra hv
          exact hplain ⟨rfl, he, by linarith⟩
        · left
          omega
      · right
        have : (8388608 : ℚ) + 1 ≤ m := by exact_mod_cast hgt
        push_cast
        linarith [mul_le_mul_of_nonneg_right this h2e.le]
  have hq : roundHalfEven (scaleDown num den e).1 (scaleDown num den e).2 = m := by
    refine roundHalfEven_eq (scaleDown_spec num den _ hden).1 ?_ ?_ ?_ <;>
      rw [(scaleDown_spec num den _ hden).2]
    · rw [le_div_iff₀ h2e]; exact hlo
    · rw [div_le_iff₀ h2e]; exact hhi
    · intro ht
      apply htie
      rcases ht with ht | ht
      · left; rw [div_eq_iff h2e.ne'] at ht; exact ht
      · right; rw [div_eq_iff h2e.ne'] at ht; exact ht
  rw [Format.round_of_pos single s hnum, hexp, hq, if_neg (by simp; omega)]

/-- **Rounding is exact on the rounding interval**: every positive ratio that lies in the
rounding interval of a nonzero finite 32-bit value rounds to that value, with its sign. -/
theorem Binary32.ofRatio_eq_of_rounds {x : Binary32} (hx : x.decode = .finite s m e) (hm : 0 < m)
    (hnum : 0 < num) (hden : 0 < den) (hr : single.Rounds m e (num / den)) :
    Binary32.ofRatio s num den = x := by
  obtain ⟨-, -, -, -, henc⟩ := Binary32.decode_finite hx
  have hencode : single.round s num den = single.encode s m e := by
    by_cases hnarrow : m = 8388608 ∧ -149 < e ∧ (num : ℚ) / den < 8388608 * 2 ^ e
    · obtain ⟨rfl, he, hv⟩ := hnarrow
      exact single_round_narrow hnum hden hr he hv
    · exact single_round_plain hx hm hnum hden hr hnarrow
  have hbits : (single.round s num den).toUInt32 = x.bits := by
    rw [hencode, henc, Nat.toUInt32_eq, UInt32.ofNat_toNat]
  simp only [Binary32.ofRatio, hbits]

end OfRatio

end TrafficShaper.Binary
