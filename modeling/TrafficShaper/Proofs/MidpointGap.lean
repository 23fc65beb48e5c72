import Mathlib

/-! # How near a decimal comes to a binary midpoint

A decimal `d / 10^n` rounds to 32 bits the same way through a double as directly, unless it lies
within about `2^-52` of a rounding midpoint `(2M + 1) · 2^(E-1)`, relatively. For one binade `E`
and one decimal exponent `n` that is a question about the lattice of pairs `(d, M)`: whether the
linear form `d · a - M · 2B`, with `a = 2^(1-E)` and `B = 10^n`, comes within `T` of `B` for some
`d` in a range `[L, R]`.

The question is settled without trying every `d`. Two lattice vectors `u`, `w`, given by their
`d`-parts and their forms `lu ≥ 0` and `-lw ≤ 0`, with `dw · lu + du · lw = 2B` and the forms those
of the `d`-parts modulo `2B`, are a basis of the lattice, as two consecutive convergents of the
continued fraction of `a / 2B` are. In that basis every pair with `d` in range and form near `B`
has both coordinates in a small box, computed from the bounds, which is checked point by point. A
point of the box that is near is handed to a fallback test.

* `Frame`, `Frame.Valid`: a basis adapted to the form; `Frame.coords`: the coordinates of a pair;
* `Frame.boxClear`, `Frame.boxClear_sound`: the box, and what its check proves;
* `Strip`, `Strip.check`, `Strip.gap`: one binade and one exponent, and the margin they keep.
-/

namespace TrafficShaper.Binary

/-! ## Frames -/

/-- **A frame of the lattice** of `d ↦ d · a` modulo `m`: two vectors given by their `d`-parts
and their forms, `lu ≥ 0` for `u` and `-lw ≤ 0` for `w`. -/
structure Frame where
  du : ℕ
  lu : ℕ
  dw : ℕ
  lw : ℕ
  deriving DecidableEq, Repr

/-- **A frame is a basis** of the lattice when its determinant is `m` and each form is that of its
`d`-part, modulo `m`. -/
def Frame.Valid (fr : Frame) (a m : ℕ) : Prop :=
  fr.dw * fr.lu + fr.du * fr.lw = m ∧ fr.du * a % m = fr.lu % m ∧ (fr.dw * a + fr.lw) % m = 0

instance (fr : Frame) (a m : ℕ) : Decidable (fr.Valid a m) :=
  inferInstanceAs (Decidable (_ ∧ _ ∧ _))

/-- The first frame: `u = (0, -1)` with form `m`, and `w = (1, ·)` with the form `a` less the next
multiple of `m`. -/
def Frame.start (a m : ℕ) : Frame := ⟨0, m, 1, (m - a % m) % m⟩

/-- One step of Euclid's algorithm on the two forms, each reduced by the other as often as it
stays of its sign. -/
def Frame.next (fr : Frame) : Frame :=
  let k := fr.lu / fr.lw
  let du := fr.du + k * fr.dw
  let lu := fr.lu - k * fr.lw
  let k' := fr.lw / lu
  ⟨du, lu, fr.dw + k' * du, fr.lw - k' * lu⟩

/-- The frame to check with: Euclid's steps while the `d`-part of `u` stays within `R`. Any frame
will do for soundness; this one keeps the box small. -/
def Frame.settle (R : ℕ) : ℕ → Frame → Frame
  | 0, fr => fr
  | fuel + 1, fr =>
    if fr.lw = 0 ∨ fr.lu = 0 ∨ R < fr.next.du then fr else Frame.settle R fuel fr.next

/-- **The coordinates of a pair** `(d, M)` in a valid frame: integers `α`, `β` with
`(d, form) = α · u + β · w`, each known times `m`. -/
theorem Frame.coords {fr : Frame} {a m : ℕ} (hv : fr.Valid a m) (hm : 0 < m) (d : ℕ) (M : ℤ) :
    ∃ α β : ℤ, α * m = fr.dw * ((d * a : ℕ) - M * m) + d * fr.lw ∧
      β * m = d * fr.lu - fr.du * ((d * a : ℕ) - M * m) ∧
      (d : ℤ) = α * fr.du + β * fr.dw ∧ ((d * a : ℕ) - M * m : ℤ) = α * fr.lu - β * fr.lw := by
  obtain ⟨hdet, hu, hw⟩ := hv
  set l : ℤ := (d * a : ℕ) - M * m
  have hdet' : (fr.dw : ℤ) * fr.lu + fr.du * fr.lw = m := by exact_mod_cast hdet
  -- both numerators are multiples of `m`, by the congruences of the forms
  have hwm : (m : ℤ) ∣ (fr.dw * a + fr.lw : ℕ) := by exact_mod_cast Nat.dvd_of_mod_eq_zero hw
  have hum : (m : ℤ) ∣ (fr.lu : ℤ) - (fr.du * a : ℕ) := (Nat.modEq_iff_dvd.1 hu)
  have hα : (m : ℤ) ∣ fr.dw * l + d * fr.lw := by
    have : (fr.dw * l + d * fr.lw : ℤ) = d * (fr.dw * a + fr.lw : ℕ) - fr.dw * M * m := by
      simp only [l]
      push_cast
      ring
    rw [this]
    exact dvd_sub (dvd_mul_of_dvd_right hwm _) (dvd_mul_left _ _)
  have hβ : (m : ℤ) ∣ d * fr.lu - fr.du * l := by
    have : (d * fr.lu - fr.du * l : ℤ) = d * ((fr.lu : ℤ) - (fr.du * a : ℕ)) + fr.du * M * m := by
      simp only [l]
      push_cast
      ring
    rw [this]
    exact dvd_add (dvd_mul_of_dvd_right hum _) (dvd_mul_left _ _)
  obtain ⟨α, hα'⟩ := hα
  obtain ⟨β, hβ'⟩ := hβ
  have hm' : (m : ℤ) ≠ 0 := by exact_mod_cast hm.ne'
  refine ⟨α, β, by rw [hα']; ring, by rw [hβ']; ring, ?_, ?_⟩
  · apply mul_right_cancel₀ hm'
    linear_combination (fr.du : ℤ) * hα' + (fr.dw : ℤ) * hβ' - (d : ℤ) * hdet'
  · apply mul_right_cancel₀ hm'
    linear_combination (fr.lu : ℤ) * hα' - (fr.lw : ℤ) * hβ' - l * hdet'

/-! ## The box -/

/-- The least integer whose multiple of `m` is at least `x`. -/
def ceilDiv (x : ℤ) (m : ℕ) : ℤ := -((-x) / m)

theorem ceilDiv_le {x α : ℤ} {m : ℕ} (hm : 0 < m) (h : x ≤ α * m) : ceilDiv x m ≤ α := by
  have hm' : (0 : ℤ) < m := by exact_mod_cast hm
  have : -α ≤ (-x) / m := Int.le_ediv_of_mul_le hm' (by linarith)
  unfold ceilDiv
  omega

theorem le_floorDiv {x α : ℤ} {m : ℕ} (hm : 0 < m) (h : α * m ≤ x) : α ≤ x / m :=
  Int.le_ediv_of_mul_le (by exact_mod_cast hm) h

/-- The check of one box: every pair whose coordinates lie in the box is either out of range, or
has its form at least `T` from `B`, or passes the fallback test `ok`. The box is the one the bounds
`L ≤ d ≤ R` and `|form - B| < T` give each coordinate. -/
def Frame.boxClear (fr : Frame) (m B L R T : ℕ) (ok : ℕ → Bool) : Bool :=
  let αlo := ceilDiv ((fr.dw : ℤ) * ((B : ℤ) + 1 - T) + L * fr.lw) m
  let αhi := ((fr.dw : ℤ) * ((B : ℤ) + T - 1) + R * fr.lw) / m
  let βlo := ceilDiv ((L : ℤ) * fr.lu - fr.du * ((B : ℤ) + T - 1)) m
  let βhi := ((R : ℤ) * fr.lu - fr.du * ((B : ℤ) + 1 - T)) / m
  (List.range (αhi + 1 - αlo).toNat).all fun i =>
    (List.range (βhi + 1 - βlo).toNat).all fun j =>
      let d : ℤ := (αlo + i) * fr.du + (βlo + j) * fr.dw
      let l : ℤ := (αlo + i) * fr.lu - (βlo + j) * fr.lw
      !(decide ((L : ℤ) ≤ d ∧ d ≤ R ∧ |l - B| < T)) || ok d.toNat

theorem exists_offset {lo hi x : ℤ} (hlo : lo ≤ x) (hhi : x ≤ hi) :
    ∃ i ∈ List.range (hi + 1 - lo).toNat, x = lo + (i : ℕ) :=
  ⟨(x - lo).toNat, List.mem_range.2 (by omega), by omega⟩

/-- **What a clear box proves**: every `d` in range whose form comes within `T` of `B` passes the
fallback test. -/
theorem Frame.boxClear_sound {fr : Frame} {a m B L R T : ℕ} {ok : ℕ → Bool}
    (hv : fr.Valid a m) (hm : 0 < m) (h : fr.boxClear m B L R T ok = true)
    {d : ℕ} (hL : L ≤ d) (hR : d ≤ R) (M : ℤ)
    (hnear : |((d * a : ℕ) - M * m : ℤ) - B| < T) : ok d = true := by
  obtain ⟨α, β, hα, hβ, hd, hl⟩ := Frame.coords hv hm d M
  set l : ℤ := (d * a : ℕ) - M * m
  have hlo : (B : ℤ) + 1 - T ≤ l := by rw [abs_lt] at hnear; omega
  have hhi : l ≤ (B : ℤ) + T - 1 := by rw [abs_lt] at hnear; omega
  have hLq : (L : ℤ) ≤ d := by exact_mod_cast hL
  have hRq : (d : ℤ) ≤ R := by exact_mod_cast hR
  have hdw : (0 : ℤ) ≤ fr.dw := by positivity
  have hdu : (0 : ℤ) ≤ fr.du := by positivity
  have hlw : (0 : ℤ) ≤ fr.lw := by positivity
  have hlu : (0 : ℤ) ≤ fr.lu := by positivity
  have hα1 : (fr.dw : ℤ) * ((B : ℤ) + 1 - T) + L * fr.lw ≤ α * m := by
    rw [hα]
    linarith [mul_le_mul_of_nonneg_left hlo hdw, mul_le_mul_of_nonneg_right hLq hlw]
  have hα2 : α * m ≤ (fr.dw : ℤ) * ((B : ℤ) + T - 1) + R * fr.lw := by
    rw [hα]
    linarith [mul_le_mul_of_nonneg_left hhi hdw, mul_le_mul_of_nonneg_right hRq hlw]
  have hβ1 : (L : ℤ) * fr.lu - fr.du * ((B : ℤ) + T - 1) ≤ β * m := by
    rw [hβ]
    linarith [mul_le_mul_of_nonneg_left hhi hdu, mul_le_mul_of_nonneg_right hLq hlu]
  have hβ2 : β * m ≤ (R : ℤ) * fr.lu - fr.du * ((B : ℤ) + 1 - T) := by
    rw [hβ]
    linarith [mul_le_mul_of_nonneg_left hlo hdu, mul_le_mul_of_nonneg_right hRq hlu]
  obtain ⟨i, hi, rfl⟩ := exists_offset (ceilDiv_le hm hα1) (le_floorDiv hm hα2)
  obtain ⟨j, hj, rfl⟩ := exists_offset (ceilDiv_le hm hβ1) (le_floorDiv hm hβ2)
  unfold Frame.boxClear at h
  simp only [List.all_eq_true] at h
  have hpt := h i hi j hj
  rw [← hd, ← hl] at hpt
  have hnear' : decide ((L : ℤ) ≤ d ∧ (d : ℤ) ≤ R ∧ |l - B| < T) = true :=
    decide_eq_true ⟨hLq, hRq, hnear⟩
  rw [hnear', Bool.not_true, Bool.false_or, Int.toNat_natCast] at hpt
  exact hpt

/-! ## Strips -/

/-- **One binade and one decimal exponent**: the form's `a = 2^(1-E)` and `B = 10^n`, the range
`[L, R]` of `d`, and the margin `2^-k` to keep, relative to `d · a`. -/
structure Strip where
  a : ℕ
  B : ℕ
  L : ℕ
  R : ℕ
  k : ℕ
  deriving DecidableEq, Repr

/-- The nearness the box looks for: above `R · a / 2^k`, the margin holds for every `d ≤ R`. -/
def Strip.T (s : Strip) : ℕ := s.R * s.a / 2 ^ s.k + 1

/-- The frame of a strip. -/
def Strip.frame (s : Strip) : Frame := (Frame.start s.a (2 * s.B)).settle s.R 64

/-- **The check of a strip**: its frame is a basis, and its box is clear. -/
def Strip.check (s : Strip) (ok : ℕ → Bool) : Bool :=
  decide (0 < s.B) && decide (s.frame.Valid s.a (2 * s.B)) &&
    s.frame.boxClear (2 * s.B) s.B s.L s.R s.T ok

/-- **The margin of a checked strip**: every `d` in range either passes the fallback test, or
stays more than `d · a / 2^k` away from every odd multiple of `B`. -/
theorem Strip.gap {s : Strip} {ok : ℕ → Bool} (h : s.check ok = true) {d : ℕ} (hL : s.L ≤ d)
    (hR : d ≤ s.R) (M : ℤ) :
    ok d = true ∨ ((d * s.a : ℕ) : ℤ) < |((d * s.a : ℕ) : ℤ) - (2 * M + 1) * s.B| * 2 ^ s.k := by
  simp only [Strip.check, Bool.and_eq_true, decide_eq_true_eq] at h
  obtain ⟨⟨hB, hv⟩, hbox⟩ := h
  have hm : 0 < 2 * s.B := by omega
  have hform : ((d * s.a : ℕ) : ℤ) - (2 * M + 1) * s.B =
      (((d * s.a : ℕ) : ℤ) - M * ((2 * s.B : ℕ) : ℤ)) - s.B := by
    push_cast
    ring
  by_cases hnear : |(((d * s.a : ℕ) : ℤ) - M * ((2 * s.B : ℕ) : ℤ)) - s.B| < s.T
  · exact Or.inl (Frame.boxClear_sound hv hm hbox hL hR M hnear)
  · -- far from `B`: at least `T`, and `T · 2^k` exceeds `R · a`
    right
    rw [hform]
    have hT : (s.R * s.a : ℕ) < s.T * 2 ^ s.k := by
      unfold Strip.T
      rw [add_mul, one_mul]
      exact Nat.lt_div_mul_add (Nat.two_pow_pos s.k)
    have hdR : d * s.a ≤ s.R * s.a := Nat.mul_le_mul_right _ hR
    have hTq : ((s.R * s.a : ℕ) : ℤ) < (s.T : ℤ) * 2 ^ s.k := by exact_mod_cast hT
    have hdRq : ((d * s.a : ℕ) : ℤ) ≤ ((s.R * s.a : ℕ) : ℤ) := by exact_mod_cast hdR
    have hfar : (s.T : ℤ) ≤ |(((d * s.a : ℕ) : ℤ) - M * ((2 * s.B : ℕ) : ℤ)) - s.B| :=
      not_lt.1 hnear
    have h2k : (0 : ℤ) < 2 ^ s.k := by positivity
    linarith [mul_le_mul_of_nonneg_right hfar h2k.le]

end TrafficShaper.Binary
