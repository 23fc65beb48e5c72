import TrafficShaper.Proofs.Shortest
import Mathlib

/-! # Where the shortest digits lie

The shortest digits of a 32-bit value come from the first decimal grid, of at most ten digits,
on which one of the value's two neighbours reads back. This module says where that leaves them:
the result is one of the two neighbours on its grid, so within one step of the value; its grid is
one of the ten the search tries from the leading exponent down, and the leading exponent is at
most four below the value's, so the value has fewer than thirteen digits above the grid; and
stripping trailing zeros only raises the exponent and lowers the digits.

* `Format.searchGrids_neighbour`, `Format.searchGrids_exponent`: the result of the search;
* `leadingExponent_upper`: the value is below `10^(E + 4)`;
* `single_shortest_grid`: the shortest digits of a 32-bit value, as a neighbour on their grid.
-/

namespace TrafficShaper.DecimalText

open TrafficShaper.Binary

/-! ## Stripping trailing zeros -/

theorem Decimal.normalize_go_le (fuel d : ℕ) (k : ℤ) :
    k ≤ (Decimal.normalize.go fuel d k).exponent ∧ (Decimal.normalize.go fuel d k).digits ≤ d := by
  induction fuel generalizing d k with
  | zero => exact ⟨le_refl _, le_refl _⟩
  | succ fuel ih =>
    simp only [Decimal.normalize.go]
    split
    · obtain ⟨hk, hd⟩ := ih (d / 10) (k + 1)
      exact ⟨by omega, hd.trans (Nat.div_le_self d 10)⟩
    · exact ⟨le_refl _, le_refl _⟩

theorem Decimal.normalize_le (x : Decimal) (hx : 0 < x.digits) :
    x.exponent ≤ x.normalize.exponent ∧ x.normalize.digits ≤ x.digits := by
  unfold Decimal.normalize
  rw [if_neg (by omega)]
  exact Decimal.normalize_go_le _ _ _

/-! ## The leading exponent, from above -/

/-- Whether the estimate of the leading exponent from a bit length `bits` is at most two below the
exponent of `2^(bits + 1)`: `2^(bits + 1) < 10^(estimate + 2)`. -/
def estimateAbove (bits : ℤ) : Bool :=
  cmpScaled 1 ((bits * 30103).fdiv 100000 + 2) 1 (bits + 1) == .gt

theorem estimateAbove_single : ∀ i : Fin 277, estimateAbove ((i : ℤ) - 149) = true := by
  decide +kernel

theorem leadingExponent_ge (m : ℕ) (e : ℤ) :
    (((Nat.log2 m : ℤ) + e) * 30103).fdiv 100000 - 2 ≤ leadingExponent m e := by
  unfold leadingExponent
  simp only
  split_ifs <;> omega

/-- **The leading exponent is at most four too small**: `m · 2^e < 10^(E + 4)`. The corrections
downwards take at most two from the estimate, which is at most two below the exponent of the
value's next power of two. -/
theorem leadingExponent_upper {m : ℕ} {e : ℤ} (hm : 0 < m) (hm' : m < 2 ^ 24) (he : -149 ≤ e)
    (he' : e ≤ 104) : (m : ℚ) * 2 ^ e < 10 ^ (leadingExponent m e + 4) := by
  set bits : ℤ := (Nat.log2 m : ℤ) + e
  set guess : ℤ := (bits * 30103).fdiv 100000
  have hlog : Nat.log2 m < 24 := (Nat.log2_lt (by omega)).2 hm'
  have hge : guess - 2 ≤ leadingExponent m e := leadingExponent_ge m e
  have htab := estimateAbove_single ⟨(bits + 149).toNat, by omega⟩
  have hbits : (((⟨(bits + 149).toNat, by omega⟩ : Fin 277) : ℕ) : ℤ) - 149 = bits := by
    simp only
    omega
  rw [hbits] at htab
  have hest : ((1 : ℕ) : ℚ) * 2 ^ (bits + 1) < ((1 : ℕ) : ℚ) * 10 ^ (guess + 2) := by
    rw [← cmpScaled_gt_iff]
    simpa [estimateAbove] using htab
  simp only [Nat.cast_one, one_mul] at hest
  have hpow : (m : ℚ) * 2 ^ e < 2 ^ (bits + 1) := by
    rw [show bits + 1 = ((Nat.log2 m + 1 : ℕ) : ℤ) + e by push_cast; ring, zpow_add₀ two_ne_zero,
      zpow_natCast]
    gcongr
    exact_mod_cast Nat.lt_log2_self
  calc (m : ℚ) * 2 ^ e < 2 ^ (bits + 1) := hpow
    _ < 10 ^ (guess + 2) := hest
    _ ≤ 10 ^ (leadingExponent m e + 4) := zpow_le_zpow_right₀ (by norm_num) (by omega)

end TrafficShaper.DecimalText

namespace TrafficShaper.Binary

open TrafficShaper.DecimalText

/-! ## The result of the search -/

/-- **The search returns a grid neighbour**: its digits are the value's grid floor on its own
grid, or one above. -/
theorem Format.searchGrids_neighbour (f : Format) (tie : Tie) (m : ℕ) (e bigE : ℤ) :
    ∀ fuel n, (f.searchGrids tie m e bigE n fuel).digits =
        gridFloor m e (f.searchGrids tie m e bigE n fuel).exponent ∨
      (f.searchGrids tie m e bigE n fuel).digits =
        gridFloor m e (f.searchGrids tie m e bigE n fuel).exponent + 1 := by
  intro fuel
  induction fuel with
  | zero => intro n; exact nearer_eq_or tie m e _ _
  | succ fuel ih =>
    intro n
    simp only [Format.searchGrids]
    split
    · exact nearer_eq_or tie m e _ _
    · split
      · exact Or.inl rfl
      · split
        · exact Or.inr rfl
        · exact ih (n + 1)

/-- **The search stays on the grids it tries**: the `n`-th to the `(n + fuel)`-th below the
leading exponent. -/
theorem Format.searchGrids_exponent (f : Format) (tie : Tie) (m : ℕ) (e bigE : ℤ) :
    ∀ fuel n, ∃ j ≤ fuel,
      (f.searchGrids tie m e bigE n fuel).exponent = bigE - ((n + j : ℕ) : ℤ) + 1 := by
  intro fuel
  induction fuel with
  | zero => intro n; exact ⟨0, le_refl _, rfl⟩
  | succ fuel ih =>
    intro n
    simp only [Format.searchGrids]
    split
    · exact ⟨0, by omega, rfl⟩
    · split
      · exact ⟨0, by omega, rfl⟩
      · split
        · exact ⟨0, by omega, rfl⟩
        · obtain ⟨j, hj, hexp⟩ := ih (n + 1)
          exact ⟨j + 1, by omega, by rw [hexp]; push_cast; ring⟩

/-- **The shortest digits of a 32-bit value, on their grid**: they are the digits `d` of a
neighbour of the value on a grid of step `10^t`, trailing zeros stripped, and the value has fewer
than thirteen digits above that grid. -/
theorem single_shortest_grid {m : ℕ} {e : ℤ} (hm : 0 < m) (hm' : m < 2 ^ 24) (he : -149 ≤ e)
    (he' : e ≤ 104) (tie : Tie) :
    ∃ d t, single.shortest tie m e = (⟨d, t⟩ : Decimal).normalize ∧
      |(d : ℚ) * 10 ^ t - m * 2 ^ e| ≤ 10 ^ t ∧ (m : ℚ) * 2 ^ e < 10 ^ (t + 13) := by
  have hshort : single.shortest tie m e =
      (single.searchGrids tie m e (leadingExponent m e) 1 single.maxDigits).normalize := rfl
  have hnb := single.searchGrids_neighbour tie m e (leadingExponent m e) single.maxDigits 1
  obtain ⟨j, hj, hexp⟩ :=
    single.searchGrids_exponent tie m e (leadingExponent m e) single.maxDigits 1
  have hup := leadingExponent_upper hm hm' he he'
  rw [single_maxDigits] at hj
  generalize single.searchGrids tie m e (leadingExponent m e) 1 single.maxDigits = r
    at hshort hnb hexp
  obtain ⟨d, t⟩ := r
  refine ⟨d, t, hshort, ?_, ?_⟩
  · -- a neighbour is within one step
    obtain ⟨hlo, hhi⟩ := gridFloor_spec m e t
    have h10 : (0 : ℚ) < 10 ^ t := by positivity
    rw [abs_le]
    rcases hnb with h | h <;> simp only at h <;> rw [h] <;> push_cast <;> constructor <;> nlinarith
  · -- the grid is at most nine below the leading exponent
    simp only at hexp
    calc (m : ℚ) * 2 ^ e < 10 ^ (leadingExponent m e + 4) := hup
      _ ≤ 10 ^ (t + 13) := zpow_le_zpow_right₀ (by norm_num) (by rw [hexp]; omega)

end TrafficShaper.Binary
