import TrafficShaper.Proofs.Rounding

/-! # The shortest digits read back

`Format.shortest` searches the decimal grids of one, two, three … significant digits for the
value's neighbours on each grid, and stops at the first grid where a neighbour lies in the
rounding interval; on the last grid it takes the nearer neighbour whatever happens. This module
proves that what it returns always reads back: a neighbour it picks on a hit lies in the interval
by the test, and on the last grid, which for 32-bit values is ten digits, the step is so small
against a unit of the value that the nearer neighbour lies within a quarter unit of it.

The argument needs the search to start from a leading exponent that does not overshoot the
value's by more than one. The estimate from the bit length, corrected by exact comparisons, is
such an exponent over the whole 32-bit range: a table over the bit lengths checks the estimate.

* `Format.readsBack_iff`: the test of a decimal is the rounding interval;
* `Format.searchGrids_rounds`: the search returns a decimal that reads back, once its last grid
  is fine enough;
* `Decimal.normalize_value`: stripping trailing zeros keeps the value;
* `leadingExponent_le`: the leading exponent overshoots by at most one;
* `single_shortest_rounds`: the shortest digits of every nonzero finite 32-bit value read back.
-/

namespace TrafficShaper.DecimalText

open TrafficShaper.Binary

/-- **The value of a decimal**, `digits · 10^exponent`. -/
def Decimal.value (x : Decimal) : ℚ := x.digits * 10 ^ x.exponent

@[simp] theorem Decimal.value_mk (d : ℕ) (k : ℤ) : (⟨d, k⟩ : Decimal).value = d * 10 ^ k := rfl

/-! ## The grid around a value -/

theorem gridFloor_spec (m : ℕ) (e t : ℤ) :
    (gridFloor m e t : ℚ) * 10 ^ t ≤ m * 2 ^ e ∧ (m : ℚ) * 2 ^ e < (gridFloor m e t + 1) * 10 ^ t := by
  set N := m * Nat.pow 2 e.toNat * Nat.pow 10 (-t).toNat
  set D := Nat.pow 2 (-e).toNat * Nat.pow 10 t.toNat
  have hD : 0 < D := by simp only [D, natPow_eq]; positivity
  set c : ℚ := 2 ^ (-e).toNat * 10 ^ (-t).toNat
  have hc : 0 < c := by positivity
  have h2 := zpow_mul_pow_toNat_neg (by norm_num : (2 : ℚ) ≠ 0) e
  have h10 := zpow_mul_pow_toNat_neg (by norm_num : (10 : ℚ) ≠ 0) t
  have hN : (N : ℚ) = m * 2 ^ e * c := by
    simp only [N, c, natPow_eq]
    push_cast
    rw [← h2]
    ring
  have hDq : (D : ℚ) = 10 ^ t * c := by
    simp only [D, c, natPow_eq]
    push_cast
    rw [← h10]
    ring
  have hlo : N / D * D ≤ N := Nat.div_mul_le_self N D
  have hhi : N < N / D * D + D := Nat.lt_div_mul_add hD
  have hlo' : ((N / D : ℕ) : ℚ) * D ≤ N := by exact_mod_cast hlo
  have hhi' : (N : ℚ) < (N / D : ℕ) * D + D := by exact_mod_cast hhi
  rw [hN, hDq] at hlo' hhi'
  constructor
  · show ((N / D : ℕ) : ℚ) * 10 ^ t ≤ m * 2 ^ e
    nlinarith
  · show (m : ℚ) * 2 ^ e < ((N / D : ℕ) + 1) * 10 ^ t
    nlinarith

theorem nearer_eq_or (tie : Tie) (m : ℕ) (e : ℤ) (d : ℕ) (t : ℤ) :
    nearer tie m e d t = d ∨ nearer tie m e d t = d + 1 := by
  unfold nearer
  split
  · exact Or.inl rfl
  · exact Or.inr rfl
  · split
    · exact Or.inr rfl
    · split
      · exact Or.inl rfl
      · exact Or.inr rfl

theorem nearer_near (tie : Tie) {m : ℕ} {e : ℤ} {d : ℕ} {t : ℤ}
    (hlo : (d : ℚ) * 10 ^ t ≤ m * 2 ^ e) (hhi : (m : ℚ) * 2 ^ e < (d + 1) * 10 ^ t) :
    |(nearer tie m e d t : ℚ) * 10 ^ t - m * 2 ^ e| ≤ 10 ^ t / 2 := by
  have hstep : (0 : ℚ) < 10 ^ t := by positivity
  rcases hc : cmpScaled (2 * d + 1) t (2 * m) e with _ | _ | _
  · -- the midpoint is below the value: the upper neighbour
    have := (cmpScaled_lt_iff _ _ _ _).1 hc
    push_cast at this
    simp only [nearer, hc]
    push_cast
    rw [abs_le]
    constructor <;> nlinarith
  · -- the value is the midpoint: either neighbour is half a step away
    have := (cmpScaled_eq_iff _ _ _ _).1 hc
    push_cast at this
    rcases nearer_eq_or tie m e d t with h | h <;> rw [h] <;> push_cast <;> rw [abs_le] <;>
      constructor <;> nlinarith
  · -- the midpoint is above the value: the lower neighbour
    have := (cmpScaled_gt_iff _ _ _ _).1 hc
    push_cast at this
    simp only [nearer, hc]
    rw [abs_le]
    constructor <;> nlinarith

end TrafficShaper.DecimalText

namespace TrafficShaper.Binary

open TrafficShaper.DecimalText

/-! ## Reading back -/

/-- **The test of a decimal is the rounding interval.** -/
theorem Format.readsBack_iff (f : Format) (m : ℕ) (e : ℤ) (d : ℕ) (k : ℤ) :
    f.readsBack m e d k = true ↔ f.Rounds m e (d * 10 ^ k) := by
  rcases hb : f.boundaries m e with ⟨lo, hi, closed⟩
  simp only [Format.readsBack, Format.Rounds, hb, Bool.and_eq_true, Bool.or_eq_true, beq_iff_eq,
    cmpScaled_gt_iff, cmpScaled_eq_iff, cmpScaled_lt_iff]

theorem Format.rounds_of_near {f : Format} {m : ℕ} (hm : 0 < m) {e : ℤ} {v : ℚ}
    (hv : |v - m * 2 ^ e| < 2 ^ (e - 2)) : f.Rounds m e v := by
  rw [abs_lt] at hv
  have hq := quarter_zpow e
  have hm1 : (1 : ℚ) ≤ m := by exact_mod_cast hm
  have h2e : (0 : ℚ) < 2 ^ e := by positivity
  simp only [Format.Rounds, Format.boundaries]
  refine ⟨Or.inl ?_, Or.inl ?_⟩
  · split <;> push_cast [Nat.cast_sub (by omega : 1 ≤ 4 * m), Nat.cast_sub (by omega : 2 ≤ 4 * m)] <;>
      rw [hq] at hv ⊢ <;> nlinarith
  · push_cast
    rw [hq] at hv ⊢
    nlinarith

/-- **The search returns a decimal that reads back**, provided its last grid has a step below
half a unit: a hit reads back by its test, and the nearer neighbour on the last grid is within a
quarter unit. -/
theorem Format.searchGrids_rounds (f : Format) (tie : Tie) {m : ℕ} (hm : 0 < m) (e bigE : ℤ) :
    ∀ (fuel n : ℕ), (10 : ℚ) ^ (bigE - ((n + fuel : ℕ) : ℤ) + 1) < 2 ^ (e - 1) →
      f.Rounds m e (f.searchGrids tie m e bigE n fuel).value := by
  intro fuel
  induction fuel with
  | zero =>
    intro n hfine
    obtain ⟨hlo, hhi⟩ := gridFloor_spec m e (bigE - n + 1)
    have hnear := nearer_near tie hlo hhi
    apply Format.rounds_of_near hm
    simp only [Format.searchGrids, Decimal.value_mk]
    have hhalf : (2 : ℚ) ^ (e - 2) = 2 ^ (e - 1) / 2 := by
      rw [show e - 2 = e - 1 - 1 by ring, zpow_sub_one₀ (by norm_num), div_eq_mul_inv]
    simp only [Nat.add_zero] at hfine
    rw [hhalf]
    linarith
  | succ fuel ih =>
    intro n hfine
    simp only [Format.searchGrids]
    split
    · next hboth =>
      simp only [Bool.and_eq_true] at hboth
      simp only [Decimal.value_mk]
      rcases nearer_eq_or tie m e (gridFloor m e (bigE - n + 1)) (bigE - n + 1) with h | h <;>
        rw [h] <;> push_cast
      · exact (f.readsBack_iff m e _ _).1 hboth.1
      · exact_mod_cast (f.readsBack_iff m e _ _).1 hboth.2
    · split
      · next hlow => exact (f.readsBack_iff m e _ _).1 hlow
      · split
        · next hhigh => exact_mod_cast (f.readsBack_iff m e _ _).1 hhigh
        · exact ih (n + 1) (by rw [show n + 1 + fuel = n + (fuel + 1) by omega]; exact hfine)

end TrafficShaper.Binary

namespace TrafficShaper.DecimalText

open TrafficShaper.Binary

/-! ## Stripping trailing zeros -/

theorem Decimal.normalize_go (fuel d : ℕ) (k : ℤ) :
    (Decimal.normalize.go fuel d k).value = d * 10 ^ k ∧
      (0 < d → 0 < (Decimal.normalize.go fuel d k).digits) := by
  induction fuel generalizing d k with
  | zero => exact ⟨rfl, id⟩
  | succ fuel ih =>
    simp only [Decimal.normalize.go]
    split
    · next h =>
      obtain ⟨hv, hp⟩ := ih (d / 10) (k + 1)
      refine ⟨?_, fun hd => hp (by omega)⟩
      rw [hv, zpow_add_one₀ (by norm_num)]
      have : (d : ℚ) = (d / 10 : ℕ) * 10 := by exact_mod_cast (Nat.div_mul_cancel (by omega)).symm
      rw [this]
      ring
    · exact ⟨rfl, id⟩

/-- **Stripping trailing zeros keeps the value**, and a nonzero decimal nonzero. -/
theorem Decimal.normalize_value (x : Decimal) :
    x.normalize.value = x.value ∧ (0 < x.digits → 0 < x.normalize.digits) := by
  unfold Decimal.normalize
  split
  · next h =>
    refine ⟨?_, fun hd => by omega⟩
    simp [Decimal.value, h]
  · exact Decimal.normalize_go _ _ _

/-! ## The leading exponent -/

/-- Whether the estimate of the leading exponent from a bit length `bits` is at most three above
the exponent of `2^bits`: `10^(estimate - 3) ≤ 2^bits`. -/
def estimateWithin (bits : ℤ) : Bool := cmpScaled 1 ((bits * 30103).fdiv 100000 - 3) 1 bits != .gt

theorem estimateWithin_single : ∀ i : Fin 277, estimateWithin ((i : ℤ) - 149) = true := by
  decide +kernel

theorem downStep_le {m : ℕ} {e : ℤ} {j : ℤ} (hj : 0 ≤ j) {k : ℤ}
    (h : (10 : ℚ) ^ (k - (j + 1)) ≤ m * 2 ^ e) :
    (10 : ℚ) ^ ((if (cmpScaled 1 k m e == .gt) = true then k - 1 else k) - j) ≤ m * 2 ^ e := by
  split
  · rwa [show k - 1 - j = k - (j + 1) by ring]
  · next hdown =>
    have : ¬ (m : ℚ) * 2 ^ e < ((1 : ℕ) : ℚ) * 10 ^ k := by
      rw [← cmpScaled_gt_iff]
      simpa using hdown
    push_cast at this
    calc (10 : ℚ) ^ (k - j) ≤ 10 ^ k := zpow_le_zpow_right₀ (by norm_num) (by omega)
      _ ≤ m * 2 ^ e := by linarith

theorem upStep_le {m : ℕ} {e : ℤ} {k : ℤ} (h : (10 : ℚ) ^ (k - 1) ≤ m * 2 ^ e) :
    (10 : ℚ) ^ ((if (cmpScaled 1 (k + 1) m e != .gt) = true then k + 1 else k) - 1) ≤
      m * 2 ^ e := by
  split
  · next hup =>
    have : ¬ (m : ℚ) * 2 ^ e < ((1 : ℕ) : ℚ) * 10 ^ (k + 1) := by
      rw [← cmpScaled_gt_iff]
      simpa using hup
    push_cast at this
    calc (10 : ℚ) ^ (k + 1 - 1) ≤ 10 ^ (k + 1) := zpow_le_zpow_right₀ (by norm_num) (by omega)
      _ ≤ m * 2 ^ e := by linarith
  · exact h

/-- **The leading exponent overshoots by at most one**: `10^(E-1) ≤ m · 2^e`, over the whole
32-bit range. The two corrections downwards start from an estimate at most three too large, and
the corrections upwards only move to exponents that do not overshoot. -/
theorem leadingExponent_le {m : ℕ} {e : ℤ} (hm : 0 < m) (hm' : m < 2 ^ 24) (he : -149 ≤ e)
    (he' : e ≤ 104) : (10 : ℚ) ^ (leadingExponent m e - 1) ≤ m * 2 ^ e := by
  set bits : ℤ := (Nat.log2 m : ℤ) + e
  have hlog : Nat.log2 m < 24 := (Nat.log2_lt (by omega)).2 hm'
  have h0 : (10 : ℚ) ^ ((bits * 30103).fdiv 100000 - (2 + 1)) ≤ m * 2 ^ e := by
    have htab := estimateWithin_single ⟨(bits + 149).toNat, by omega⟩
    have hbits : (((⟨(bits + 149).toNat, by omega⟩ : Fin 277) : ℕ) : ℤ) - 149 = bits := by
      simp only
      omega
    rw [hbits] at htab
    have hest : ¬ ((1 : ℕ) : ℚ) * 2 ^ bits < ((1 : ℕ) : ℚ) * 10 ^ ((bits * 30103).fdiv 100000 - 3) := by
      rw [← cmpScaled_gt_iff]
      simpa [estimateWithin] using htab
    have hpow : (2 : ℚ) ^ bits ≤ m * 2 ^ e := by
      rw [zpow_add₀ two_ne_zero, zpow_natCast]
      gcongr
      exact_mod_cast Nat.log2_self_le (by omega)
    push_cast at hest
    rw [show (2 : ℤ) + 1 = 3 by norm_num]
    linarith
  unfold leadingExponent
  simp only
  apply upStep_le
  apply upStep_le
  apply downStep_le (by norm_num : (0 : ℤ) ≤ 1)
  rw [show (1 : ℤ) + 1 = 2 by norm_num]
  exact downStep_le (by norm_num) h0

/-! ## The shortest digits of a 32-bit value -/

theorem single_maxDigits : single.maxDigits = 9 := by
  have h8 : (Nat.toDigits 10 (2 ^ 24)).length ≤ 8 :=
    (Nat.length_toDigits_le_iff (by norm_num) (by norm_num)).2 (by norm_num)
  have h7 : ¬ (Nat.toDigits 10 (2 ^ 24)).length ≤ 7 := by
    rw [Nat.length_toDigits_le_iff (by norm_num) (by norm_num)]
    norm_num
  show digitCount (Nat.pow 2 24) + 1 = 9
  simp only [digitCount, natPow_eq]
  omega

/-- **The shortest digits of every nonzero finite 32-bit value read back**, whatever the tie
policy: the search ends on the grid of ten digits at the latest, whose step is below `2^25 / 10^8`
of a unit. -/
theorem single_shortest_rounds (tie : Tie) {m : ℕ} {e : ℤ} (hm : 0 < m) (hm' : m < 2 ^ 24)
    (he : -149 ≤ e) (he' : e ≤ 104) :
    single.Rounds m e (single.shortest tie m e).value ∧ 0 < (single.shortest tie m e).digits := by
  have hshort : single.shortest tie m e =
      (single.searchGrids tie m e (leadingExponent m e) 1 single.maxDigits).normalize := rfl
  have hlead := leadingExponent_le hm hm' he he'
  generalize leadingExponent m e = bigE at hshort hlead
  have hfine : (10 : ℚ) ^ (bigE - ((1 + single.maxDigits : ℕ) : ℤ) + 1) < 2 ^ (e - 1) := by
    have hsplit : (10 : ℚ) ^ (bigE - ((1 + single.maxDigits : ℕ) : ℤ) + 1) =
        10 ^ (bigE - 1) / 10 ^ 8 := by
      rw [single_maxDigits, show bigE - ((1 + 9 : ℕ) : ℤ) + 1 = bigE - 1 - (8 : ℕ) by push_cast; ring,
        zpow_sub₀ (by norm_num), zpow_natCast]
    have hhalf : (2 : ℚ) ^ (e - 1) = 2 ^ e / 2 := by
      rw [zpow_sub_one₀ (by norm_num), div_eq_mul_inv]
    have hm24 : (m : ℚ) < 2 ^ 24 := by exact_mod_cast hm'
    have h2e : (0 : ℚ) < 2 ^ e := by positivity
    rw [hsplit, hhalf, div_lt_div_iff₀ (by norm_num) (by norm_num)]
    -- `2^25 < 10^8`: the grid step is below a quarter of the unit
    calc (10 : ℚ) ^ (bigE - 1) * 2 ≤ m * 2 ^ e * 2 := by linarith
      _ < 2 ^ 24 * 2 ^ e * 2 := by gcongr
      _ < 2 ^ e * 10 ^ 8 := by linarith
  have hr := single.searchGrids_rounds tie hm e bigE single.maxDigits 1 hfine
  obtain ⟨hv, hpos⟩ := Decimal.normalize_value (single.searchGrids tie m e bigE 1 single.maxDigits)
  rw [hshort, hv]
  refine ⟨hr, hpos ?_⟩
  obtain ⟨hlo, -, -⟩ := hr.bounds hm
  have hm1 : (1 : ℚ) ≤ m := by exact_mod_cast hm
  have hval : 0 < (single.searchGrids tie m e bigE 1 single.maxDigits).value := by
    have : (0 : ℚ) < ((m : ℚ) - 1 / 2) * 2 ^ e := by
      apply mul_pos (by linarith)
      positivity
    linarith
  rw [Decimal.value] at hval
  by_contra h0
  simp only [not_lt, nonpos_iff_eq_zero] at h0
  rw [h0] at hval
  simp at hval

end TrafficShaper.DecimalText
