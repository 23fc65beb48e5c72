import TrafficShaper.Proofs.MidpointGap
import TrafficShaper.Proofs.ShortestGrid
import TrafficShaper.Proofs.DoubleRounding
import Mathlib

/-! # Shortest digits read through a double

A chance is written with its shortest 32-bit digits and read back as a double, which is then
narrowed to 32 bits: two roundings where the digits were chosen for one. This module proves that
for every 32-bit value in `(0, 1]` the two roundings still land on the value.

The digits `d · 10^-n` are read as the quotient of two doubles, `d` and `10^n`, rounded: within
`2^-52` of the decimal, relatively, when `10^n` is exact (`n ≤ 22`), and within `2^-51` beyond. The
narrowing then goes wrong only if the decimal lies that close to a boundary of the value's
rounding interval. Two cases:

* **fine grids**, where the step `10^-n` is below a quarter unit of the value by a margin: the
  decimal is a grid neighbour of the value, so the double is within a quarter unit of it, inside
  the interval whatever its shape;
* **coarse grids**: the boundaries are odd multiples of a half unit, `(2M + 1) · 2^(E-1)`, and for
  each binade `E` and each `n` the strip of `d` that can occur is checked by `Strip.check`, with
  the exact reading evaluated for the few `d` that come near.

* `scaledDouble`, `Decimal.throughDouble`: a decimal read as its JSON digits are;
* `scaledDouble_near`: the error of the double quotient;
* `strips_checked`: the table of strips, checked by the kernel;
* `Binary32.throughDouble_shortest`: the shortest digits of every value in `(0, 1]` read back
  through a double.
-/

namespace TrafficShaper.Binary

/-! ## The double quotient -/

/-- **The double that a significand and a count of fraction digits are read as**: both made
doubles, and their quotient rounded once. -/
def scaledDouble (sig n : ℕ) : Binary64 := (Binary64.ofNat sig).div (Json.pow10 n)

/-- The relative precision, in bits, of the double quotient by `10^n`: the power is exact up to
`10^22`. -/
def quotientBits (n : ℕ) : ℕ := if n ≤ 22 then 52 else 51

theorem quotientBits_ge (n : ℕ) : 51 ≤ quotientBits n := by
  unfold quotientBits
  split <;> omega

theorem div_pow_quotientBits_le {q : ℚ} (hq : 0 ≤ q) (n : ℕ) :
    q / 2 ^ quotientBits n ≤ q / 2 ^ 51 :=
  div_le_div_of_nonneg_left hq (by positivity) (pow_le_pow_right₀ (by norm_num) (quotientBits_ge n))

/-- The relative error of the double power `10^n`: none up to `10^22`, at most `1 / (2^53 - 1)`
beyond. -/
def pow10Err (n : ℕ) : ℚ := if n ≤ 22 then 0 else 1 / (2 ^ 53 - 1)

theorem pow10Err_bounds (n : ℕ) : 0 ≤ pow10Err n ∧ pow10Err n ≤ 1 / 2 := by
  unfold pow10Err
  split <;> norm_num

theorem pow10_value {n : ℕ} (hn : n ≤ 300) :
    ∃ m e, (Json.pow10 n).decode = .finite false m e ∧ 0 < m ∧
      |(m : ℚ) * 2 ^ e - 10 ^ n| ≤ pow10Err n * 10 ^ n := by
  obtain ⟨m, e, hdec, hm, herr⟩ := pow10_rel hn
  refine ⟨m, e, hdec, hm, ?_⟩
  unfold pow10Err
  split
  · next h22 =>
    obtain ⟨m', e', hdec', hexact⟩ := pow10_exact h22
    rw [hdec] at hdec'
    injection hdec' with _ hm' he'
    rw [hm', he', hexact, sub_self, abs_zero, zero_mul]
  · exact herr.trans_eq (by ring)

theorem quotient_near {sig P p r ε : ℚ} (hP : 0 < P) (hr : 0 < r) (hrp : r * p = sig)
    (hp : |p - P| ≤ ε * P) : |r - sig / P| ≤ ε * r := by
  have hdiff : r - sig / P = r * (P - p) / P := by
    rw [← hrp]
    field_simp
  rw [hdiff, abs_div, abs_mul, abs_of_pos hr, abs_of_pos hP, abs_sub_comm, div_le_iff₀ hP]
  nlinarith [abs_nonneg (p - P)]

theorem quotient_normal {sig n : ℕ} {p : ℚ} (hsig : 0 < sig) (hsig' : sig < 2 ^ 52)
    (hn : n ≤ 300) (hlo : (10 : ℚ) ^ n / 2 ≤ p) (hhi : p ≤ 2 * 10 ^ n) :
    (2 : ℚ) ^ (-1022 : ℤ) ≤ sig / p ∧ (sig : ℚ) / p < 2 ^ (1023 : ℤ) := by
  have hP1 : (1 : ℚ) ≤ 10 ^ n := one_le_pow₀ (by norm_num)
  have hpos : 0 < p := by linarith
  have hsigq : (1 : ℚ) ≤ sig := by exact_mod_cast hsig
  have hsigq' : (sig : ℚ) < 2 ^ 52 := by exact_mod_cast hsig'
  constructor
  · -- the divisor is at most `2^1001`
    have htop : p ≤ 2 ^ (1001 : ℤ) := by
      calc p ≤ 2 * 10 ^ n := hhi
        _ ≤ 2 * 2 ^ (1000 : ℤ) := by gcongr; exact pow10_le_two_pow hn
        _ = 2 ^ (1001 : ℤ) := by rw [← zpow_one_add₀ two_ne_zero]; norm_num
    have hscale : (2 : ℚ) ^ (-1022 : ℤ) * 2 ^ (1001 : ℤ) ≤ 1 := by
      rw [← zpow_add₀ two_ne_zero]
      exact zpow_le_one_of_nonpos₀ (by norm_num) (by norm_num)
    rw [le_div_iff₀ hpos]
    linarith [mul_le_mul_of_nonneg_left htop (by positivity : (0 : ℚ) ≤ 2 ^ (-1022 : ℤ))]
  · -- the divisor is at least a half
    have h53 : (2 : ℚ) ^ 53 ≤ 2 ^ (1023 : ℤ) := by
      rw [← zpow_natCast]
      exact zpow_le_zpow_right₀ (by norm_num) (by norm_num)
    have h52 : (2 : ℚ) ^ 52 ≤ 2 ^ (1023 : ℤ) * p :=
      calc (2 : ℚ) ^ 52 = 2 ^ 53 * (1 / 2) := by norm_num
        _ ≤ 2 ^ (1023 : ℤ) * p := mul_le_mul h53 (by linarith) (by norm_num) (by positivity)
    rw [div_lt_iff₀ hpos]
    exact hsigq'.trans_le h52

theorem rel_errors_add {x r q : ℚ} {n : ℕ} (hr : 0 < r) (hround : |x - r| ≤ r / (2 ^ 53 - 1))
    (hpow : |r - q| ≤ pow10Err n * r) : |x - q| < q / 2 ^ quotientBits n := by
  obtain ⟨h1, h2⟩ := abs_le.1 hround
  obtain ⟨h3, h4⟩ := abs_le.1 hpow
  rw [abs_lt]
  unfold quotientBits
  unfold pow10Err at h3 h4
  by_cases h22 : n ≤ 22
  · -- the power is exact: one rounding
    rw [if_pos h22] at h3 h4 ⊢
    constructor <;> linarith
  · -- two roundings of `2^-53` each
    rw [if_neg h22] at h3 h4 ⊢
    constructor <;> linarith

/-- **The double quotient of a significand below `2^52` by `10^n`, `n ≤ 300`**, is within
`2^-k` of `sig / 10^n`, relatively, with `k` the bits of `quotientBits`. -/
theorem scaledDouble_near {sig n : ℕ} (hsig : 0 < sig) (hsig' : sig < 2 ^ 52) (hn : n ≤ 300) :
    ∃ m e, (scaledDouble sig n).decode = .finite false m e ∧ 0 < m ∧
      |(m : ℚ) * 2 ^ e - sig / 10 ^ n| < sig / 10 ^ n / 2 ^ quotientBits n := by
  obtain ⟨m₁, e₁, h₁, hv₁⟩ := Binary64.ofNat_exact hsig hsig'
  obtain ⟨m₂, e₂, h₂, hm₂, hp⟩ := pow10_value hn
  obtain ⟨num, den, hden, hdiv, hratio⟩ := Binary64.div_eq_ofRatio h₁ h₂ hm₂
  set p : ℚ := m₂ * 2 ^ e₂
  set P : ℚ := 10 ^ n
  have hP : 0 < P := by positivity
  obtain ⟨hε0, hε⟩ := pow10Err_bounds n
  have hεP : pow10Err n * P ≤ P / 2 := by nlinarith
  have hp_lo : P / 2 ≤ p := by linarith [(abs_le.1 hp).1]
  have hp_hi : p ≤ 2 * P := by linarith [(abs_le.1 hp).2]
  have hpos : 0 < p := by linarith
  have hr : (num : ℚ) / den = sig / p := by rw [hratio, hv₁]
  obtain ⟨hlo, hhi⟩ := quotient_normal hsig hsig' hn hp_lo hp_hi
  rw [← hr] at hlo hhi
  have hrpos : (0 : ℚ) < num / den := by rw [hr]; positivity
  have hnum : 0 < num := by
    exact_mod_cast (div_pos_iff_of_pos_right (by exact_mod_cast hden)).1 hrpos
  obtain ⟨m, e, hdec, hm, herr⟩ := Binary64.ofRatio_rel hnum hden hlo hhi
  refine ⟨m, e, by rw [scaledDouble, hdiv]; exact hdec, hm, ?_⟩
  have hrp : (num : ℚ) / den * p = sig := by rw [hr]; field_simp
  exact rel_errors_add hrpos herr (quotient_near hP hrpos hrp hp)

end TrafficShaper.Binary

namespace TrafficShaper.DecimalText

open TrafficShaper.Binary

/-! ## The digits of a decimal in JSON text -/

/-- **The significand and the count of fraction digits** of a decimal's JSON text, for decimals
written positionally: the digits and their fraction, or, for an integer, the digits with its
zeros and the `.0` that follows. -/
def Decimal.textParts (x : Decimal) : ℕ × ℕ :=
  if x.exponent < 0 then (x.digits, (-x.exponent).toNat)
  else (x.digits * 10 ^ (x.exponent.toNat + 1), 1)

/-- **A decimal read through a double**: its JSON digits read as a double quotient, then narrowed
to 32 bits. -/
def Decimal.throughDouble (x : Decimal) : Binary32 :=
  (scaledDouble x.textParts.1 x.textParts.2).toBinary32

theorem Decimal.textParts_value (x : Decimal) :
    (x.textParts.1 : ℚ) / 10 ^ x.textParts.2 = x.value := by
  unfold Decimal.textParts Decimal.value
  split
  · next h =>
    simp only
    rw [← zpow_natCast, Int.toNat_of_nonneg (by omega), zpow_neg, div_eq_mul_inv, inv_inv]
  · next h =>
    push_cast
    rw [pow_succ, ← zpow_natCast, Int.toNat_of_nonneg (by omega)]
    field_simp

theorem Decimal.textParts_snd_le (x : Decimal) : x.textParts.2 ≤ max 1 (-x.exponent).toNat := by
  unfold Decimal.textParts
  split <;> omega

theorem Decimal.textParts_pos {x : Decimal} (hx : 0 < x.digits) : 0 < x.textParts.1 := by
  unfold Decimal.textParts
  split <;> positivity

theorem Decimal.throughDouble_near {x : Decimal} (hx : 0 < x.digits) (hsig : x.textParts.1 < 2 ^ 52)
    (hn : x.textParts.2 ≤ 300) :
    ∃ num den, 0 < num ∧ 0 < den ∧ x.throughDouble = Binary32.ofRatio false num den ∧
      |(num : ℚ) / den - x.value| < x.value / 2 ^ quotientBits x.textParts.2 := by
  obtain ⟨m, e, hdec, hm, herr⟩ := scaledDouble_near (textParts_pos hx) hsig hn
  obtain ⟨hden, hval⟩ := ratioOf_spec m e
  refine ⟨_, _, ?_, hden, Binary64.toBinary32_eq_ofRatio hdec, ?_⟩
  · have : (0 : ℚ) < (ratioOf m e).1 / (ratioOf m e).2 := by rw [hval]; positivity
    exact_mod_cast (div_pos_iff_of_pos_right (by exact_mod_cast hden)).1 this
  · rw [hval, ← x.textParts_value]
    exact herr

end TrafficShaper.DecimalText

namespace TrafficShaper.Binary

open TrafficShaper.DecimalText

/-! ## The strips of the coarse grids -/

/-- **The strip of binade `E` and exponent `n`**: the `d` for which `d · 10^-n` lies between the
least boundary in the binade, `(2^24 - 1) · 2^(E-1)` (any positive `d` in the least binade), and
`2^(E+24)`; the margin is that of the quotient by `10^n`. -/
def Strip.of (E : ℤ) (n : ℕ) : Strip :=
  let a := 2 ^ (1 - E).toNat
  let B := 10 ^ n
  ⟨a, B, if E = -149 then 1 else ((2 ^ 24 - 1) * B + a - 1) / a, (2 ^ 25 * B - 1) / a,
    quotientBits n⟩

/-- Whether the grid `10^-n` is coarse in binade `E`: not below a quarter unit `2^(E-2)` by the
factor `1 - 2^-24`. -/
def coarse (E : ℤ) (n : ℕ) : Bool := (2 ^ 24 - 1) * 10 ^ n < 2 ^ (26 - E).toNat

/-- **The fallback test of a decimal `d · 10^-n` near a boundary**: it is more than a step away
from the value it rounds to, so that no search returns it, or it reads back through a double. -/
def readsBackAt (n d : ℕ) : Bool :=
  let x := Binary32.ofRatio false d (10 ^ n)
  match x.decode with
  | .finite _ mx ex =>
    let r := ratioOf mx ex
    decide (r.2 < d * r.2 - r.1 * 10 ^ n) || decide (r.2 < r.1 * 10 ^ n - d * r.2) ||
      (Decimal.normalize ⟨d, -(n : ℤ)⟩).throughDouble == x
  | _ => false

/-- The strips of the binades from `-149` to `-23` and of the exponents below 50, each checked
where its grid is coarse. -/
def stripsChecked : Bool :=
  (List.range 127).all fun i => (List.range 50).all fun n =>
    !coarse ((i : ℤ) - 149) n || (Strip.of ((i : ℤ) - 149) n).check (readsBackAt n)

set_option maxRecDepth 100000 in
/-- **The table**: every coarse strip of the binades of `(0, 1]` is clear. -/
theorem strips_checked : stripsChecked = true := by
  decide +kernel

theorem lt_fifty_of_coarse {E : ℤ} {n : ℕ} (hE : -149 ≤ E) (h : coarse E n = true) : n < 50 := by
  unfold coarse at h
  rw [decide_eq_true_eq] at h
  by_contra hn
  have h1 : (2 ^ 24 - 1) * 10 ^ 50 ≤ (2 ^ 24 - 1) * 10 ^ n :=
    Nat.mul_le_mul_left _ (Nat.pow_le_pow_right (by norm_num) (by omega))
  have h2 : 2 ^ (26 - E).toNat ≤ 2 ^ 175 := Nat.pow_le_pow_right (by norm_num) (by omega)
  have h3 : 2 ^ 175 < (2 ^ 24 - 1) * 10 ^ 50 := by norm_num
  exact absurd h (not_lt.2 (h2.trans (h3.le.trans h1)))

theorem strip_check {E : ℤ} {n : ℕ} (hE : -149 ≤ E) (hE' : E ≤ -23) (hc : coarse E n = true) :
    (Strip.of E n).check (readsBackAt n) = true := by
  have h := strips_checked
  unfold stripsChecked at h
  rw [List.all_eq_true] at h
  have hrow := h (E + 149).toNat (List.mem_range.2 (by omega))
  rw [List.all_eq_true] at hrow
  have hcell := hrow n (List.mem_range.2 (lt_fifty_of_coarse hE hc))
  rw [show (((E + 149).toNat : ℕ) : ℤ) - 149 = E by omega, hc] at hcell
  simpa using hcell

/-! ## Margins -/

theorem Strip.of_a_cast {E : ℤ} (n : ℕ) (hE : E ≤ 1) : ((Strip.of E n).a : ℚ) = 2 ^ (1 - E) := by
  show ((2 ^ (1 - E).toNat : ℕ) : ℚ) = 2 ^ (1 - E)
  rw [Nat.cast_pow, Nat.cast_ofNat, ← zpow_natCast, Int.toNat_of_nonneg (by omega)]

theorem half_unit_eq (E : ℤ) : (2 : ℚ) ^ (E - 1) = 1 / 2 ^ (1 - E) := by
  rw [one_div, ← zpow_neg, neg_sub]

theorem Strip.of_margin {E : ℤ} {n d : ℕ} {ok : ℕ → Bool} (hE : E ≤ 1)
    (h : (Strip.of E n).check ok = true) (hL : (Strip.of E n).L ≤ d) (hR : d ≤ (Strip.of E n).R)
    (M : ℤ) :
    ok d = true ∨
      (d : ℚ) / 10 ^ n / 2 ^ quotientBits n < |(d : ℚ) / 10 ^ n - (2 * M + 1) * 2 ^ (E - 1)| := by
  refine (Strip.gap h hL hR M).imp id fun hgap => ?_
  have hq : (d : ℚ) * (Strip.of E n).a <
      |(d : ℚ) * (Strip.of E n).a - (2 * M + 1) * (Strip.of E n).B| * 2 ^ (Strip.of E n).k := by
    exact_mod_cast hgap
  have hB : ((Strip.of E n).B : ℚ) = 10 ^ n := by simp [Strip.of]
  rw [Strip.of_a_cast n hE, hB, show (Strip.of E n).k = quotientBits n from rfl] at hq
  have hA : (0 : ℚ) < 2 ^ (1 - E) := by positivity
  have hP : (0 : ℚ) < 10 ^ n := by positivity
  have hdiff : (d : ℚ) / 10 ^ n - (2 * M + 1) * 2 ^ (E - 1) =
      ((d : ℚ) * 2 ^ (1 - E) - (2 * M + 1) * 10 ^ n) / (2 ^ (1 - E) * 10 ^ n) := by
    rw [half_unit_eq]
    field_simp
  rw [hdiff, abs_div, abs_of_pos (mul_pos hA hP), div_div,
    div_lt_div_iff₀ (by positivity) (by positivity)]
  linarith [mul_lt_mul_of_pos_left hq hP]

theorem Strip.of_L_le {E : ℤ} {n d : ℕ} (hE : E ≤ 1) (hd : 0 < d)
    (h : E ≠ -149 → (2 ^ 24 - 1) * 2 ^ (E - 1) ≤ (d : ℚ) / 10 ^ n) : (Strip.of E n).L ≤ d := by
  show (if E = -149 then 1 else ((2 ^ 24 - 1) * 10 ^ n + (Strip.of E n).a - 1) / (Strip.of E n).a) ≤ d
  split
  · exact hd
  · next hE' =>
    have ha : 0 < (Strip.of E n).a := by simp only [Strip.of]; positivity
    have hP : (0 : ℚ) < 10 ^ n := by positivity
    have hle : ((2 ^ 24 - 1) * 10 ^ n : ℕ) ≤ d * (Strip.of E n).a := by
      have h' := h hE'
      rw [half_unit_eq, le_div_iff₀ hP] at h'
      have : ((2 ^ 24 - 1 : ℕ) : ℚ) * 10 ^ n ≤ d * 2 ^ (1 - E) := by
        push_cast
        field_simp at h'
        linarith
      rw [← Strip.of_a_cast n hE] at this
      exact_mod_cast this
    have := (Nat.div_lt_iff_lt_mul ha).2 (show (2 ^ 24 - 1) * 10 ^ n + (Strip.of E n).a - 1 <
      (d + 1) * (Strip.of E n).a by rw [Nat.succ_mul]; omega)
    omega

theorem Strip.of_le_R {E : ℤ} {n d : ℕ} (hE : E ≤ 1) (h : (d : ℚ) / 10 ^ n < 2 ^ (E + 24)) :
    d ≤ (Strip.of E n).R := by
  show d ≤ (2 ^ 25 * 10 ^ n - 1) / (Strip.of E n).a
  have ha : 0 < (Strip.of E n).a := by simp only [Strip.of]; positivity
  have hP : (0 : ℚ) < 10 ^ n := by positivity
  have hlt : d * (Strip.of E n).a < 2 ^ 25 * 10 ^ n := by
    have h' : (d : ℚ) * 2 ^ (1 - E) < 2 ^ 25 * 10 ^ n := by
      rw [div_lt_iff₀ hP] at h
      have h25 : (2 : ℚ) ^ (E + 24) * 2 ^ (1 - E) = 2 ^ 25 := by
        rw [← zpow_add₀ two_ne_zero, show E + 24 + (1 - E) = ((25 : ℕ) : ℤ) by omega, zpow_natCast]
      nlinarith [mul_lt_mul_of_pos_right h (by positivity : (0 : ℚ) < 2 ^ (1 - E))]
    rw [← Strip.of_a_cast n hE] at h'
    exact_mod_cast h'
  rw [Nat.le_div_iff_mul_le ha]
  omega

end TrafficShaper.Binary

namespace TrafficShaper.Binary

open TrafficShaper.DecimalText

/-! ## Inside the rounding interval -/

theorem Format.Rounds.of_margin {f : Format} {m : ℕ} {e : ℤ} {q w δ : ℚ} (hq : f.Rounds m e q)
    (hw : |w - q| ≤ δ) (hlo : δ < |q - (f.boundaries m e).1 * 2 ^ (e - 2)|)
    (hhi : δ < |q - (f.boundaries m e).2.1 * 2 ^ (e - 2)|) : f.Rounds m e w := by
  obtain ⟨hl, hh⟩ := hq
  have hδ : 0 ≤ δ := (abs_nonneg _).trans hw
  obtain ⟨hw1, hw2⟩ := abs_le.1 hw
  refine ⟨Or.inl ?_, Or.inl ?_⟩
  · rcases hl with hl | ⟨-, hl⟩
    · rw [abs_of_pos (by linarith)] at hlo
      linarith
    · rw [hl, sub_self, abs_zero] at hlo
      linarith
  · rcases hh with hh | ⟨-, hh⟩
    · rw [abs_of_neg (by linarith)] at hhi
      linarith
    · rw [hh, sub_self, abs_zero] at hhi
      linarith

theorem single_upper_boundary (m : ℕ) (e : ℤ) :
    ((single.boundaries m e).2.1 : ℚ) * 2 ^ (e - 2) = (2 * ((m : ℤ) : ℚ) + 1) * 2 ^ (e - 1) := by
  simp only [Format.boundaries, Int.cast_natCast]
  push_cast
  rw [quarter_zpow, zpow_sub_one₀ two_ne_zero]
  ring

theorem single_lower_boundary {m : ℕ} {e : ℤ} (hm : 0 < m) (h : ¬(m = 8388608 ∧ -149 < e)) :
    ((single.boundaries m e).1 : ℚ) * 2 ^ (e - 2) =
      (2 * (((m : ℤ) - 1 : ℤ) : ℚ) + 1) * 2 ^ (e - 1) := by
  simp only [Format.boundaries, single_hidden, single_minExp, h, if_false]
  push_cast [Nat.cast_sub (by omega : 2 ≤ 4 * m)]
  rw [quarter_zpow, zpow_sub_one₀ two_ne_zero]
  ring

theorem single_lower_boundary_narrow {m : ℕ} {e : ℤ} (h : m = 8388608 ∧ -149 < e) :
    ((single.boundaries m e).1 : ℚ) * 2 ^ (e - 2) =
      (2 * ((2 ^ 24 - 1 : ℤ) : ℚ) + 1) * 2 ^ ((e - 1) - 1) := by
  simp only [Format.boundaries, single_hidden, single_minExp, h, and_self, if_true]
  rw [sub_sub]
  norm_num

/-! ## The shortest digits of a chance -/

theorem chance_binade {x : Binary32} {m : ℕ} {e : ℤ} (hx : x.decode = .finite false m e)
    (hle : (m : ℚ) * 2 ^ e ≤ 1) :
    m < 2 ^ 24 ∧ -149 ≤ e ∧ e ≤ -23 ∧ (-149 < e → 2 ^ 23 ≤ m) := by
  obtain ⟨hm2, hmin, -, hsub, -⟩ := Binary32.decode_finite hx
  simp only [single_hidden, single_minExp] at hm2 hmin hsub
  have hnorm : -149 < e → 2 ^ 23 ≤ m := fun he => by
    by_contra h
    have := hsub (by norm_num at h ⊢; omega)
    omega
  refine ⟨by norm_num; omega, hmin, ?_, hnorm⟩
  rcases eq_or_lt_of_le hmin with h | h
  · omega
  · -- a normal chance: `2^(23 + e) ≤ m · 2^e ≤ 1`
    have hm23 : (2 : ℚ) ^ (23 : ℕ) ≤ m := by exact_mod_cast hnorm h
    have hpow : (2 : ℚ) ^ (23 + e) ≤ 1 := by
      rw [zpow_add₀ two_ne_zero]
      calc (2 : ℚ) ^ (23 : ℤ) * 2 ^ e ≤ m * 2 ^ e := by
            gcongr
            exact_mod_cast hm23
        _ ≤ 1 := hle
    by_contra hgt
    have : (1 : ℚ) < 2 ^ (23 + e) := one_lt_zpow₀ (by norm_num) (by omega)
    linarith

/-- **Where the shortest digits of a chance lie**: `d · 10^-n` with `d` positive and of at most
fourteen digits, in the rounding interval of the chance `m · 2^e` and within one step of it. -/
structure ChanceGrid (m : ℕ) (e : ℤ) (d n : ℕ) : Prop where
  pos : 0 < d
  digits : d ≤ 10 ^ 13
  exp : n ≤ 300
  rounds : single.Rounds m e ((d : ℚ) / 10 ^ n)
  near : |(d : ℚ) / 10 ^ n - m * 2 ^ e| ≤ 1 / 10 ^ n

theorem shortest_chance_grid {x : Binary32} {m : ℕ} {e : ℤ} (hx : x.decode = .finite false m e)
    (hm : 0 < m) (hle : (m : ℚ) * 2 ^ e ≤ 1) :
    ∃ d n : ℕ, single.shortest .toEven m e = (⟨d, -(n : ℤ)⟩ : Decimal).normalize ∧
      ChanceGrid m e d n := by
  obtain ⟨hm24, hmin, he23, -⟩ := chance_binade hx hle
  obtain ⟨d, t, hD, hgrid, htop⟩ := single_shortest_grid hm hm24 hmin (by omega) .toEven
  obtain ⟨hr, -⟩ := single_shortest_rounds .toEven hm hm24 hmin (by omega)
  have hval : (single.shortest .toEven m e).value = d * 10 ^ t := by
    rw [hD, (Decimal.normalize_value _).1, Decimal.value_mk]
  rw [hval] at hr
  obtain ⟨hlo, hhi, -⟩ := hr.bounds hm
  have h2e : (0 : ℚ) < 2 ^ e := by positivity
  have hm1 : (1 : ℚ) ≤ m := by exact_mod_cast hm
  have hunit : (2 : ℚ) ^ e ≤ m * 2 ^ e := le_mul_of_one_le_left h2e.le hm1
  have h10 : (0 : ℚ) < 10 ^ t := by positivity
  have hd : 0 < d := by
    rcases Nat.eq_zero_or_pos d with h | h
    · rw [h, Nat.cast_zero, zero_mul] at hlo
      linarith
    · exact h
  have hd1 : (1 : ℚ) ≤ d := by exact_mod_cast hd
  have ht : t ≤ 0 := by
    by_contra ht
    have h10t : (10 : ℚ) ≤ 10 ^ t := by
      calc (10 : ℚ) = 10 ^ (1 : ℤ) := by norm_num
        _ ≤ 10 ^ t := zpow_le_zpow_right₀ (by norm_num) (by omega)
    nlinarith
  have ht' : -161 ≤ t := by
    by_contra ht'
    have h1 : (10 : ℚ) ^ (t + 13) ≤ 10 ^ (-149 : ℤ) := zpow_le_zpow_right₀ (by norm_num) (by omega)
    have h2 : (10 : ℚ) ^ (-149 : ℤ) ≤ 2 ^ (-149 : ℤ) := by norm_num
    have h3 : (2 : ℚ) ^ (-149 : ℤ) ≤ 2 ^ e := zpow_le_zpow_right₀ (by norm_num) hmin
    linarith
  set n := (-t).toNat
  have htn : t = -(n : ℤ) := by omega
  have hpow : (10 : ℚ) ^ t = 1 / 10 ^ n := by rw [htn, zpow_neg, zpow_natCast, one_div]
  have hq : (d : ℚ) * 10 ^ t = d / 10 ^ n := by rw [hpow, mul_one_div]
  refine ⟨d, n, by rw [hD, ← htn], ⟨hd, ?_, by omega, by rwa [← hq], by rwa [← hq, ← hpow]⟩⟩
  have h13 : (10 : ℚ) ^ (t + 13) = 10 ^ 13 * 10 ^ t := by
    rw [zpow_add₀ (by norm_num), mul_comm]
    norm_num
  have hlt : (d : ℚ) * 10 ^ t < (10 ^ 13 + 1) * 10 ^ t := by
    have := (abs_le.1 hgrid).2
    rw [add_mul, one_mul, ← h13]
    linarith
  have hlt' : d < 10 ^ 13 + 1 := by exact_mod_cast (mul_lt_mul_iff_of_pos_right h10).1 hlt
  exact Nat.lt_add_one_iff.1 hlt'

end TrafficShaper.Binary

namespace TrafficShaper.Binary

open TrafficShaper.DecimalText

/-! ## Reading the shortest digits of a chance -/

theorem quotientBits_anti {k n : ℕ} (h : k ≤ max 1 n) : quotientBits n ≤ quotientBits k := by
  unfold quotientBits
  split_ifs <;> omega

namespace ChanceGrid

variable {x : Binary32} {m : ℕ} {e : ℤ} {d n : ℕ}

theorem normalize_parts (hg : ChanceGrid m e d n) :
    0 < (Decimal.normalize ⟨d, -(n : ℤ)⟩).digits ∧
      (Decimal.normalize ⟨d, -(n : ℤ)⟩).value = d / 10 ^ n ∧
      (Decimal.normalize ⟨d, -(n : ℤ)⟩).textParts.1 ≤ 10 * d ∧
      (Decimal.normalize ⟨d, -(n : ℤ)⟩).textParts.2 ≤ max 1 n := by
  obtain ⟨hval, hpos⟩ := Decimal.normalize_value ⟨d, -(n : ℤ)⟩
  obtain ⟨hexp, -⟩ := Decimal.normalize_le ⟨d, -(n : ℤ)⟩ hg.pos
  set D := Decimal.normalize ⟨d, -(n : ℤ)⟩
  have hexp' : -(n : ℤ) ≤ D.exponent := hexp
  have hP : (0 : ℚ) < 10 ^ n := by positivity
  have hvalue : D.value = d / 10 ^ n := by
    rw [hval, Decimal.value_mk, zpow_neg, zpow_natCast, div_eq_mul_inv]
  have hsnd : D.textParts.2 ≤ max 1 n := (D.textParts_snd_le).trans (by omega)
  refine ⟨hpos hg.pos, hvalue, ?_, hsnd⟩
  have h1 : (D.textParts.1 : ℚ) * 10 ^ n = d * 10 ^ D.textParts.2 := by
    have h := D.textParts_value
    rw [hvalue, div_eq_div_iff (by positivity) (by positivity)] at h
    exact h
  have h2 : (10 : ℚ) ^ D.textParts.2 ≤ 10 ^ n * 10 :=
    (pow_le_pow_right₀ (by norm_num) (by omega)).trans_eq (pow_succ 10 n)
  have h3 : (D.textParts.1 : ℚ) ≤ 10 * d := by
    nlinarith [mul_le_mul_of_nonneg_left h2 (by positivity : (0 : ℚ) ≤ d)]
  exact_mod_cast h3

theorem throughDouble_near (hg : ChanceGrid m e d n) :
    ∃ num den, 0 < num ∧ 0 < den ∧
      (Decimal.normalize ⟨d, -(n : ℤ)⟩).throughDouble = Binary32.ofRatio false num den ∧
      |(num : ℚ) / den - d / 10 ^ n| < d / 10 ^ n / 2 ^ quotientBits n := by
  obtain ⟨hpos, hvalue, hsig, hsnd⟩ := hg.normalize_parts
  have h52 : 10 * d < 2 ^ 52 := by
    have := hg.digits
    norm_num at this ⊢
    omega
  have hn := hg.exp
  obtain ⟨num, den, hnum, hden, heq, herr⟩ := Decimal.throughDouble_near hpos (by omega) (by omega)
  refine ⟨num, den, hnum, hden, heq, ?_⟩
  rw [hvalue] at herr
  refine herr.trans_le (div_le_div_of_nonneg_left (by positivity) (by positivity) ?_)
  exact pow_le_pow_right₀ (by norm_num) (quotientBits_anti hsnd)

theorem readsBackAt_sound (hx : x.decode = .finite false m e) (hm : 0 < m) (hg : ChanceGrid m e d n)
    (h : readsBackAt n d = true) : (Decimal.normalize ⟨d, -(n : ℤ)⟩).throughDouble = x := by
  have hx' : Binary32.ofRatio false d (10 ^ n) = x :=
    Binary32.ofRatio_eq_of_rounds hx hm hg.pos (by positivity) (by push_cast; exact hg.rounds)
  unfold readsBackAt at h
  simp only [hx', hx, Bool.or_eq_true, decide_eq_true_eq, beq_iff_eq] at h
  obtain ⟨hden, hval⟩ := ratioOf_spec m e
  generalize ratioOf m e = r at h hden hval
  obtain ⟨r₁, r₂⟩ := r
  simp only at h hden hval
  set X : ℚ := m * 2 ^ e
  have hP : (0 : ℚ) < 10 ^ n := by positivity
  have hr₂ : (0 : ℚ) < r₂ := by exact_mod_cast hden
  have hr₁ : (r₁ : ℚ) = X * r₂ := by rw [← hval]; field_simp
  obtain ⟨hnear1, hnear2⟩ := abs_le.1 hg.near
  have hup : (d : ℚ) - X * 10 ^ n ≤ 1 := by
    have := mul_le_mul_of_nonneg_right hnear2 hP.le
    rwa [sub_mul, div_mul_cancel₀ _ hP.ne', div_mul_cancel₀ _ hP.ne'] at this
  have hdown : X * 10 ^ n - d ≤ 1 := by
    have := mul_le_mul_of_nonneg_right hnear1 hP.le
    rw [sub_mul, div_mul_cancel₀ _ hP.ne', neg_mul, div_mul_cancel₀ _ hP.ne'] at this
    linarith
  rcases h with (hfar | hfar) | hback
  · -- more than a step above the chance
    have hfar' : (r₁ : ℚ) * 10 ^ n + r₂ < d * r₂ := by
      exact_mod_cast (by omega : r₁ * 10 ^ n + r₂ < d * r₂)
    rw [hr₁] at hfar'
    linarith [mul_nonneg (sub_nonneg.2 hup) hr₂.le]
  · -- more than a step below the chance
    have hfar' : (d : ℚ) * r₂ + r₂ < r₁ * 10 ^ n := by
      exact_mod_cast (by omega : d * r₂ + r₂ < r₁ * 10 ^ n)
    rw [hr₁] at hfar'
    linarith [mul_nonneg (sub_nonneg.2 hdown) hr₂.le]
  · exact hback

theorem throughDouble_fine (hx : x.decode = .finite false m e) (hm : 0 < m)
    (hle : (m : ℚ) * 2 ^ e ≤ 1) (hg : ChanceGrid m e d n) (hfine : coarse e n = false) :
    (Decimal.normalize ⟨d, -(n : ℤ)⟩).throughDouble = x := by
  obtain ⟨hm24, hmin, he23, -⟩ := chance_binade hx hle
  obtain ⟨num, den, hnum, hden, heq, herr⟩ := hg.throughDouble_near
  obtain ⟨-, hhi, -⟩ := hg.rounds.bounds hm
  rw [heq]
  refine Binary32.ofRatio_eq_of_rounds hx hm hnum hden (Format.rounds_of_near hm ?_)
  set u : ℚ := 2 ^ e
  set q : ℚ := d / 10 ^ n
  have hu : 0 < u := by positivity
  have hP : (0 : ℚ) < 10 ^ n := by positivity
  -- the step: `2^(26 - e) ≤ (2^24 - 1) · 10^n`, so `10^-n ≤ (2^24 - 1) · 2^(e - 26)`
  have hstep : (1 : ℚ) / 10 ^ n ≤ 16777215 * u / 2 ^ 26 := by
    have h : 2 ^ (26 - e).toNat ≤ 16777215 * 10 ^ n := by
      unfold coarse at hfine
      simpa using hfine
    have hq : ((2 ^ (26 - e).toNat : ℕ) : ℚ) ≤ ((16777215 * 10 ^ n : ℕ) : ℚ) := by exact_mod_cast h
    have h26 : (2 : ℚ) ^ (26 - e).toNat * u = 2 ^ 26 := by
      rw [← zpow_natCast, Int.toNat_of_nonneg (by omega), ← zpow_add₀ two_ne_zero, sub_add_cancel]
      norm_num
    push_cast at hq
    rw [div_le_div_iff₀ hP (by positivity)]
    linarith [mul_le_mul_of_nonneg_right hq hu.le]
  have hm' : (m : ℚ) + 1 ≤ 2 ^ 24 := by exact_mod_cast hm24
  have hq_le : q ≤ (2 ^ 24 - 1 / 2) * u := by nlinarith
  have hq0 : 0 ≤ q := by positivity
  have hbits := div_pow_quotientBits_le hq0 n
  have htri := abs_sub_le ((num : ℚ) / den) q (m * u)
  rw [quarter_zpow]
  linarith [hg.near, herr]

theorem lower_margin_narrow (hx : x.decode = .finite false m e) (hm : 0 < m)
    (hle : (m : ℚ) * 2 ^ e ≤ 1) (hg : ChanceGrid m e d n) (hc : coarse e n = true)
    (hok : ¬readsBackAt n d = true) (hn : m = 8388608 ∧ -149 < e) :
    (d : ℚ) / 10 ^ n / 2 ^ quotientBits n <
      |(d : ℚ) / 10 ^ n - (single.boundaries m e).1 * 2 ^ (e - 2)| := by
  obtain ⟨hm24, hmin, he23, -⟩ := chance_binade hx hle
  obtain ⟨hlo, hhi, -⟩ := hg.rounds.bounds hm
  set u : ℚ := 2 ^ e
  set q : ℚ := d / 10 ^ n
  have hu : 0 < u := by positivity
  have hm' : (m : ℚ) + 1 ≤ 2 ^ 24 := by exact_mod_cast hm24
  have hquarter : (2 : ℚ) ^ ((e - 1) - 1) = u / 4 := by rw [sub_sub]; exact quarter_zpow e
  rw [single_lower_boundary_narrow hn]
  by_cases hqX : (m : ℚ) * u ≤ q
  · -- above the chance: the boundary is a quarter unit below it
    have hbits := div_pow_quotientBits_le (by positivity : 0 ≤ q) n
    rw [hquarter, hn.1] at *
    rw [abs_of_pos (by push_cast at hqX ⊢; linarith)]
    push_cast at hqX ⊢
    linarith
  · -- below the chance: the strip of the binade below
    have hc' : coarse (e - 1) n = true := by
      unfold coarse at hc ⊢
      rw [decide_eq_true_eq] at hc ⊢
      exact hc.trans_le (Nat.pow_le_pow_right (by norm_num) (by omega))
    have hstrip' := strip_check (by omega) (by omega) hc'
    have hnarrow := hg.rounds.narrow (by simp [hn.1]) (by simpa using hn.2)
    have hL' : (Strip.of (e - 1) n).L ≤ d := Strip.of_L_le (by omega) hg.pos fun _ => by
      rw [hquarter]
      rw [hn.1] at hnarrow
      push_cast at hnarrow
      linarith
    have hR' : d ≤ (Strip.of (e - 1) n).R := Strip.of_le_R (by omega) (by
      rw [show e - 1 + 24 = e + 23 by ring, zpow_add₀ two_ne_zero]
      rw [hn.1] at hqX
      push_cast at hqX
      norm_num
      linarith)
    exact (Strip.of_margin (by omega) hstrip' hL' hR' (2 ^ 24 - 1)).resolve_left hok

theorem throughDouble_coarse (hx : x.decode = .finite false m e) (hm : 0 < m)
    (hle : (m : ℚ) * 2 ^ e ≤ 1) (hg : ChanceGrid m e d n) (hc : coarse e n = true) :
    (Decimal.normalize ⟨d, -(n : ℤ)⟩).throughDouble = x := by
  obtain ⟨hm24, hmin, he23, hnorm⟩ := chance_binade hx hle
  by_cases hok : readsBackAt n d = true
  · exact hg.readsBackAt_sound hx hm hok
  obtain ⟨num, den, hnum, hden, heq, herr⟩ := hg.throughDouble_near
  obtain ⟨hlo, hhi, -⟩ := hg.rounds.bounds hm
  set u : ℚ := 2 ^ e
  set q : ℚ := d / 10 ^ n
  have hu : 0 < u := by positivity
  have hhalf : (2 : ℚ) ^ (e - 1) = u / 2 := by rw [zpow_sub_one₀ two_ne_zero]; ring
  have htop : (2 : ℚ) ^ (e + 24) = 2 ^ 24 * u := by rw [zpow_add₀ two_ne_zero]; norm_num; ring
  have hm' : (m : ℚ) + 1 ≤ 2 ^ 24 := by exact_mod_cast hm24
  -- the strip of the chance's binade clears every odd multiple of a half unit
  have hstrip := strip_check hmin he23 hc
  have hL : (Strip.of e n).L ≤ d := Strip.of_L_le (by omega) hg.pos fun he => by
    have h23 : (2 : ℚ) ^ 23 ≤ m := by exact_mod_cast hnorm (by omega)
    rw [hhalf]
    nlinarith
  have hR : d ≤ (Strip.of e n).R := Strip.of_le_R (by omega) (by rw [htop]; nlinarith)
  have hmid : ∀ M : ℤ, q / 2 ^ quotientBits n < |q - (2 * M + 1) * 2 ^ (e - 1)| := fun M =>
    (Strip.of_margin (by omega) hstrip hL hR M).resolve_left hok
  rw [heq]
  refine Binary32.ofRatio_eq_of_rounds hx hm hnum hden (hg.rounds.of_margin herr.le ?_ ?_)
  · by_cases hn : m = 8388608 ∧ -149 < e
    · exact hg.lower_margin_narrow hx hm hle hc hok hn
    · rw [single_lower_boundary hm hn]
      exact hmid ((m : ℤ) - 1)
  · rw [single_upper_boundary]
    exact hmid m

end ChanceGrid

end TrafficShaper.Binary

namespace TrafficShaper.Binary

open TrafficShaper.DecimalText

/-- **The shortest digits of every chance in `(0, 1]` read back through a double**: the JSON
digits read as a double and narrowed to 32 bits give back the chance. -/
theorem Binary32.throughDouble_shortest {x : Binary32} {m : ℕ} {e : ℤ}
    (hx : x.decode = .finite false m e) (hm : 0 < m) (hle : (m : ℚ) * 2 ^ e ≤ 1) :
    (single.shortest .toEven m e).throughDouble = x := by
  obtain ⟨d, n, hD, hg⟩ := shortest_chance_grid hx hm hle
  rw [hD]
  cases hc : coarse e n
  · exact hg.throughDouble_fine hx hm hle hc
  · exact hg.throughDouble_coarse hx hm hle hc

end TrafficShaper.Binary
