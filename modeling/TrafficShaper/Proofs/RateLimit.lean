import TrafficShaper.Bucket
import Mathlib

/-! # The rate limit over whole runs

A limited bucket of capacity `C = B·1000` bits and rate `r = K·1000` bits per second admits, over
any sequence of calls, at most `C` bits plus what the elapsed time pays for,
`⌊(T - t₀)·r / 10⁹⌋`, where `t₀` is the first reading and `T` the largest.

The argument: the clock mark `prevTime` never passes the largest reading, and every token handed
out is paid for by moving the mark. So the bits admitted and held never exceed `C` plus what the
time from `t₀` to the mark pays for. A token is paid for exactly when its cost, rounded down to
whole nanoseconds, is its real cost. That holds when the rate divides `10⁹`, or when it is
`10⁹` times a divisor of `2⁶⁴` (then the token count, truncated to 64 bits, stays a multiple of
the tokens per nanosecond): `ExactRate`. At any other rate the rounded-down cost leaves time that
is paid for twice, and the bound fails (`rate_bound_exceeded`).

* `tokensFor_paid`: at an exact rate a grant is paid for by the mark's move, which stays within
  the elapsed time;
* `Bucket.admitted_before_mark`, `Bucket.admitted_after_mark`: the bound by induction over the
  calls, before the first reading and after it;
* `admitted_within_rate`: the bound over every sequence of calls.
-/

namespace TrafficShaper

/-! ## Runs of admissions -/

/-- **The bits admitted** by a sequence of admission calls, each `(bits, reading)`. -/
def Bucket.admitted (b : Bucket) : List (Nat × Option Nat) → Nat
  | [] => 0
  | (bits, now) :: calls =>
    let (ok, next) := b.admit bits now
    (if ok then bits else 0) + next.admitted calls

/-- The clock readings of a sequence of calls, the calls without a clock left out. -/
def readings (calls : List (Nat × Option Nat)) : List Nat := calls.filterMap Prod.snd

/-- How far the clock got past its first reading: the largest reading less the first; 0 without
any reading. -/
def clockSpan : List Nat → Nat
  | [] => 0
  | t :: ts => ts.foldl max t - t

/-- **A rate whose tokens cost whole nanoseconds**: no rate, a divisor of `10⁹` bits per second,
or `10⁹` times a divisor of `2⁶⁴`. -/
def ExactRate (r : Nat) : Prop :=
  r = 0 ∨ r ∣ nanosPerSecond ∨ (nanosPerSecond ∣ r ∧ r / nanosPerSecond ∣ 2 ^ 64)

/-- The same in kilobits per second: no rate, a divisor of `10⁶`, or `10⁶` times a power of
two. -/
def ExactKbps (k : Nat) : Prop := k = 0 ∨ k ∣ 10 ^ 6 ∨ (10 ^ 6 ∣ k ∧ k / 10 ^ 6 ∣ 2 ^ 64)

instance (k : Nat) : Decidable (ExactKbps k) :=
  inferInstanceAs (Decidable (k = 0 ∨ k ∣ 10 ^ 6 ∨ (10 ^ 6 ∣ k ∧ k / 10 ^ 6 ∣ 2 ^ 64)))

theorem exactRate_of_exactKbps {k : Nat} (h : ExactKbps k) : ExactRate (k * 1000) := by
  have hN : nanosPerSecond = 10 ^ 6 * 1000 := rfl
  unfold ExactRate
  rw [hN]
  rcases h with h | h | ⟨h, hm⟩
  · left; omega
  · exact .inr (.inl (Nat.mul_dvd_mul_right h 1000))
  · refine .inr (.inr ⟨Nat.mul_dvd_mul_right h 1000, ?_⟩)
    rwa [Nat.mul_div_mul_right _ _ (by norm_num : 0 < 1000)]

/-! ## Paying for tokens -/

theorem wrap64_of_lt {n : Nat} (h : n < 2 ^ 64) : wrap64 n = n := Nat.mod_eq_of_lt h

theorem signed64_le (n : Nat) : signed64 n ≤ n := by
  unfold signed64
  split
  · exact le_rfl
  · -- a word from 2^63 up reads as negative
    have hword : (0 : Int) < Int.pow 2 64 := by decide
    omega

@[simp] theorem tokensFor_zero (r : Nat) : tokensFor 0 r = 0 := by simp [tokensFor, wrap64]

@[simp] theorem costOf_zero (r : Nat) : costOf 0 r = 0 := by simp [costOf, wrap64]

/-- **At an exact rate, a grant is paid for**: what `e` nanoseconds grant costs at most `e`, and
its cost pays for every token granted. -/
theorem tokensFor_paid {r e : Nat} (hx : ExactRate r) (hr : r ≠ 0) (he : e < 2 ^ 64) :
    costOf (tokensFor e r) r ≤ e ∧ tokensFor e r * nanosPerSecond ≤ costOf (tokensFor e r) r * r := by
  have hN : 0 < nanosPerSecond := by decide
  have hr0 : 0 < r := Nat.pos_of_ne_zero hr
  unfold costOf tokensFor
  rcases hx with h | ⟨c, hc⟩ | ⟨⟨m, rfl⟩, hm⟩
  · exact absurd h hr
  · -- a token costs `c` whole nanoseconds, and fewer than `2⁶⁴` tokens are granted
    have hn : e * r / nanosPerSecond = e / c := by
      rw [hc, Nat.mul_comm e r, Nat.mul_div_mul_left _ _ hr0]
    have hle : e / c * c ≤ e := Nat.div_mul_le_self e c
    have hcost : e / c * nanosPerSecond / r = e / c * c := by
      rw [hc, show e / c * (r * c) = e / c * c * r by ring, Nat.mul_div_cancel _ hr0]
    rw [hn, @wrap64_of_lt (e / c) (by have := Nat.div_le_self e c; omega), hcost,
      @wrap64_of_lt (e / c * c) (by omega)]
    exact ⟨hle, le_of_eq (by rw [hc]; ring)⟩
  · -- `m` tokens a nanosecond: the truncated count stays a multiple of `m`
    rw [Nat.mul_div_cancel_left _ hN] at hm
    have hn : e * (nanosPerSecond * m) / nanosPerSecond = e * m := by
      rw [show e * (nanosPerSecond * m) = e * m * nanosPerSecond by ring, Nat.mul_div_cancel _ hN]
    rw [hn]
    set n := wrap64 (e * m) with hn_def
    have hdvd : m ∣ n := (Nat.dvd_mod_iff hm).2 (Nat.dvd_mul_left m e)
    have hne : n ≤ e * m := Nat.mod_le _ _
    have hcost : n * nanosPerSecond / (nanosPerSecond * m) = n / m := by
      rw [Nat.mul_comm nanosPerSecond m, Nat.mul_div_mul_right _ _ hN]
    have hle : n / m ≤ e := Nat.div_le_of_le_mul (by rw [Nat.mul_comm]; exact hne)
    rw [hcost, @wrap64_of_lt (n / m) (by omega)]
    refine ⟨hle, le_of_eq ?_⟩
    rw [show n / m * (nanosPerSecond * m) = n / m * m * nanosPerSecond by ring,
      Nat.div_mul_cancel hdvd]

/-! ## One admission -/

variable {b : Bucket} {r C p t bits : Nat} {now : Option Nat}

theorem topUp_le_capacity (tokens : Nat) (grant : Int) (C : Nat) : topUp tokens grant C ≤ C := by
  unfold topUp
  omega

theorem topUp_le_add (tokens : Nat) {n : Nat} {grant : Int} (h : grant ≤ n) (C : Nat) :
    topUp tokens grant C ≤ tokens + n := by
  unfold topUp
  omega

theorem topUp_zero_le (tokens C : Nat) : topUp tokens 0 C ≤ tokens := by
  unfold topUp
  omega

theorem Bucket.tokensAvailable_none (hr : b.rate = some r) : b.tokensAvailable none = (0, b) := by
  simp [Bucket.tokensAvailable, hr]

theorem Bucket.tokensAvailable_first (hr : b.rate = some r) (hp : b.prevTime = none)
    (ht : t < 2 ^ 64) :
    b.tokensAvailable (some t) = (0, { b with prevTime := some t }) := by
  unfold Bucket.tokensAvailable
  simp only [hr, hp]
  split
  · rfl
  · simp [signed64, wrap64_of_lt ht]

theorem Bucket.tokensAvailable_paid (hr : b.rate = some r) (hx : ExactRate r)
    (hp : b.prevTime = some p) (hp64 : p < 2 ^ 64) (ht : t < 2 ^ 64) :
    ∃ n c, b.tokensAvailable (some t) = (signed64 n, { b with prevTime := some (p + c) }) ∧
      p + c ≤ max p t ∧ n * nanosPerSecond ≤ c * r := by
  have hb : ({ b with prevTime := some p } : Bucket) = b := by
    cases b; simp_all
  unfold Bucket.tokensAvailable
  simp only [hr, hp]
  by_cases hlt : t < p
  · -- a clock going backwards pays nothing and keeps the mark
    refine ⟨0, 0, ?_, by omega, by simp⟩
    simp only [hlt, if_true]
    split
    · simp [signed64, hb]
    · simp [signed64, wrap64_of_lt hp64, hp]
  · simp only [hlt, if_false]
    split
    · next hr0 => exact ⟨0, 0, by simp [signed64, hb], by omega, by simp⟩
    · next hr0 =>
      obtain ⟨hle, hpaid⟩ := @tokensFor_paid r (t - p) hx hr0 (by omega)
      refine ⟨tokensFor (t - p) r, costOf (tokensFor (t - p) r) r, ?_, by omega, hpaid⟩
      simp [hp, wrap64_of_lt (show p + costOf (tokensFor (t - p) r) r < 2 ^ 64 by omega)]

theorem Bucket.admit_of_grant {grant : Int} {mark : Option Nat} {ok : Bool} {next : Bucket}
    (hC : b.capacity = some C) (ht : b.tokensAvailable now = (grant, { b with prevTime := mark }))
    (ha : b.admit bits now = (ok, next)) :
    (if ok then bits else 0) + next.tokens = topUp b.tokens grant C ∧
      next = { b with prevTime := mark, tokens := next.tokens } := by
  unfold Bucket.admit at ha
  simp only [hC, ht] at ha
  split at ha
  · cases ha
    simp
  · next hfits =>
    cases ha
    refine ⟨?_, rfl⟩
    simp only [if_true]
    omega

theorem Bucket.admitted_cons {ok : Bool} {next : Bucket} (calls : List (Nat × Option Nat))
    (ha : b.admit bits now = (ok, next)) :
    b.admitted ((bits, now) :: calls) = (if ok then bits else 0) + next.admitted calls := by
  simp [Bucket.admitted, ha]

/-! ## Whole runs -/

theorem add_le_div_of_paid (x : Nat) {y n : Nat} (hn : n * nanosPerSecond ≤ y) :
    x / nanosPerSecond + n ≤ (x + y) / nanosPerSecond := by
  have hN : 0 < nanosPerSecond := by decide
  have h1 : n ≤ y / nanosPerSecond := (Nat.le_div_iff_mul_le hN).2 hn
  have h2 : x / nanosPerSecond + y / nanosPerSecond ≤ (x + y) / nanosPerSecond :=
    Nat.div_add_div_le_add_div
  omega

theorem Bucket.admitted_after_mark (tf : Nat) (hx : ExactRate r) :
    ∀ (calls : List (Nat × Option Nat)) (b : Bucket) (spent p T : Nat),
      b.capacity = some C → b.rate = some r → b.prevTime = some p → tf ≤ p → p ≤ T →
      T < 2 ^ 64 → (∀ t ∈ readings calls, t < 2 ^ 64) → b.tokens ≤ C →
      spent + b.tokens ≤ C + (p - tf) * r / nanosPerSecond →
      spent + b.admitted calls ≤ C + ((readings calls).foldl max T - tf) * r / nanosPerSecond
  | [], b, spent, p, T, _, _, _, htp, hpT, _, _, _, hb => by
    have hmono : (p - tf) * r / nanosPerSecond ≤ (T - tf) * r / nanosPerSecond :=
      Nat.div_le_div_right (Nat.mul_le_mul_right _ (by omega))
    simp only [Bucket.admitted, readings, List.filterMap_nil, List.foldl_nil]
    omega
  | (bits, none) :: calls, b, spent, p, T, hC, hr, hp, htp, hpT, hT, hclock, hbC, hb => by
    have ht : b.tokensAvailable none = (0, { b with prevTime := b.prevTime }) :=
      Bucket.tokensAvailable_none hr
    rcases ha : b.admit bits none with ⟨ok, next⟩
    obtain ⟨hsum, hnext⟩ := Bucket.admit_of_grant hC ht ha
    have hheld := topUp_zero_le b.tokens C
    have hcap := topUp_le_capacity b.tokens 0 C
    have ih := Bucket.admitted_after_mark tf hx calls next (spent + if ok then bits else 0) p T
      (by rw [hnext]; exact hC) (by rw [hnext]; exact hr) (by rw [hnext]; exact hp) htp hpT hT
      (by simpa [readings] using hclock) (by omega) (by omega)
    rw [Bucket.admitted_cons calls ha]
    simp only [readings, List.filterMap_cons] at ih ⊢
    omega
  | (bits, some t) :: calls, b, spent, p, T, hC, hr, hp, htp, hpT, hT, hclock, hbC, hb => by
    have ht64 : t < 2 ^ 64 := hclock t (by simp [readings])
    obtain ⟨n, c, ht, hpc, hpaid⟩ := Bucket.tokensAvailable_paid hr hx hp (by omega) ht64
    rcases ha : b.admit bits (some t) with ⟨ok, next⟩
    obtain ⟨hsum, hnext⟩ := Bucket.admit_of_grant hC ht ha
    have hheld := topUp_le_add b.tokens (signed64_le n) C
    have hcap := topUp_le_capacity b.tokens (signed64 n) C
    have hmove : (p - tf) * r / nanosPerSecond + n ≤ (p + c - tf) * r / nanosPerSecond := by
      have h := add_le_div_of_paid ((p - tf) * r) hpaid
      rwa [show (p - tf) * r + c * r = (p + c - tf) * r by
        rw [show p + c - tf = p - tf + c by omega, Nat.add_mul]] at h
    have ih := Bucket.admitted_after_mark tf hx calls next (spent + if ok then bits else 0)
      (p + c) (max T t) (by rw [hnext]; exact hC) (by rw [hnext]; exact hr) (by rw [hnext])
      (by omega) (by omega) (by omega)
      (fun t' ht' => hclock t' (by simp [readings] at ht' ⊢; exact Or.inr ht'))
      (by omega) (by omega)
    rw [Bucket.admitted_cons calls ha]
    simp only [readings, List.filterMap_cons, List.foldl_cons] at ih ⊢
    omega

theorem Bucket.admitted_before_mark (hx : ExactRate r) :
    ∀ (calls : List (Nat × Option Nat)) (b : Bucket) (spent : Nat),
      b.capacity = some C → b.rate = some r → b.prevTime = none →
      (∀ t ∈ readings calls, t < 2 ^ 64) → b.tokens ≤ C → spent + b.tokens ≤ C →
      spent + b.admitted calls ≤ C + clockSpan (readings calls) * r / nanosPerSecond
  | [], b, spent, _, _, _, _, _, hb => by
    simp only [Bucket.admitted, readings, List.filterMap_nil, clockSpan, Nat.zero_mul,
      Nat.zero_div]
    omega
  | (bits, none) :: calls, b, spent, hC, hr, hp, hclock, hbC, hb => by
    have ht : b.tokensAvailable none = (0, { b with prevTime := b.prevTime }) :=
      Bucket.tokensAvailable_none hr
    rcases ha : b.admit bits none with ⟨ok, next⟩
    obtain ⟨hsum, hnext⟩ := Bucket.admit_of_grant hC ht ha
    have hheld := topUp_zero_le b.tokens C
    have hcap := topUp_le_capacity b.tokens 0 C
    have ih := Bucket.admitted_before_mark hx calls next (spent + if ok then bits else 0)
      (by rw [hnext]; exact hC) (by rw [hnext]; exact hr) (by rw [hnext]; exact hp)
      (by simpa [readings] using hclock) (by omega) (by omega)
    rw [Bucket.admitted_cons calls ha]
    simp only [readings, List.filterMap_cons] at ih ⊢
    omega
  | (bits, some t) :: calls, b, spent, hC, hr, hp, hclock, hbC, hb => by
    have ht64 : t < 2 ^ 64 := hclock t (by simp [readings])
    rcases ha : b.admit bits (some t) with ⟨ok, next⟩
    obtain ⟨hsum, hnext⟩ := Bucket.admit_of_grant hC (Bucket.tokensAvailable_first hr hp ht64) ha
    have hheld := topUp_zero_le b.tokens C
    have hcap := topUp_le_capacity b.tokens 0 C
    have h := Bucket.admitted_after_mark t hx calls next (spent + if ok then bits else 0) t t
      (by rw [hnext]; exact hC) (by rw [hnext]; exact hr) (by rw [hnext]) le_rfl le_rfl ht64
      (fun t' ht' => hclock t' (by simp [readings] at ht' ⊢; exact Or.inr ht'))
      (by omega) (by simp only [Nat.sub_self, Nat.zero_mul, Nat.zero_div]; omega)
    rw [Bucket.admitted_cons calls ha]
    simp only [readings, List.filterMap_cons, clockSpan] at h ⊢
    omega

/-! ## The bound -/

theorem Bucket.new_limited {K B : Int32} (hK : 0 ≤ K.toInt) (hB : 0 ≤ B.toInt) :
    (Bucket.new K B).capacity = some (B.toInt.toNat * 1000) ∧
      (Bucket.new K B).rate = some (K.toInt.toNat * 1000) ∧
      (Bucket.new K B).prevTime = none ∧ (Bucket.new K B).tokens = B.toInt.toNat * 1000 := by
  simp [Bucket.new, Bucket.refill, Bucket.capacity, Bucket.rate, hK, hB]

theorem Bucket.reset_of_limited {b : Bucket} (hB : 0 ≤ b.maxBucketSize.toInt) :
    b.reset = Bucket.new b.maxKbps b.maxBucketSize := by
  simp [Bucket.reset, Bucket.new, Bucket.refill, Bucket.capacity, hB]

/-- **The rate limit over whole runs**, at a rate whose tokens cost whole nanoseconds: from a
full bucket, over any sequence of admission calls with any sizes and any readings (missing,
repeated or going backwards), the bits admitted never exceed the capacity plus what the time
from the first reading to the largest pays for. -/
theorem admitted_within_rate (K B : Int32) (hK : 0 ≤ K.toInt) (hB : 0 ≤ B.toInt)
    (hexact : ExactKbps K.toInt.toNat) (calls : List (Nat × Option Nat))
    (hclock : ∀ t ∈ readings calls, t < 2 ^ 64) :
    (Bucket.new K B).admitted calls ≤
      B.toInt.toNat * 1000 + clockSpan (readings calls) * (K.toInt.toNat * 1000) / nanosPerSecond := by
  obtain ⟨hC, hr, hp, ht⟩ := Bucket.new_limited hK hB
  have h := Bucket.admitted_before_mark (exactRate_of_exactKbps hexact) calls (Bucket.new K B) 0
    hC hr hp hclock (le_of_eq ht) (by omega)
  simpa using h

theorem admitted_within_rate_800 :
    0 ≤ (800 : Int32).toInt ∧ 0 ≤ (100 : Int32).toInt ∧ ExactKbps (800 : Int32).toInt.toNat ∧
      (∀ t ∈ readings [(100000, some 0), (10000, some 12500000), (10000, none)], t < 2 ^ 64) ∧
      (Bucket.new 800 100).admitted [(100000, some 0), (10000, some 12500000), (10000, none)] ≤
        (100 : Int32).toInt.toNat * 1000 +
          clockSpan (readings [(100000, some 0), (10000, some 12500000), (10000, none)]) *
            ((800 : Int32).toInt.toNat * 1000) / nanosPerSecond :=
  ⟨by decide, by decide, by decide, by decide,
    admitted_within_rate 800 100 (by decide) (by decide) (by decide) _ (by decide)⟩

/-- **The bound fails at other rates.** At 1,500,000 kbps a token costs two thirds of a
nanosecond, which rounds down to nothing: a call one nanosecond after the first reading is
granted a token and leaves the mark where it was, so a second call at that instant is granted
another, one more bit than the nanosecond pays for. -/
theorem rate_bound_exceeded :
    ¬ (Bucket.new 1500000 1).admitted [(1000, some 0), (1, some 1), (1, some 1)] ≤
        (1 : Int32).toInt.toNat * 1000 +
          clockSpan (readings [(1000, some 0), (1, some 1), (1, some 1)]) *
            ((1500000 : Int32).toInt.toNat * 1000) / nanosPerSecond := by
  decide

end TrafficShaper
