import TrafficShaper.Proofs.RateLimit

/-! # What a reading grants

A reading of the clock grants a limited bucket the whole tokens that the time since the clock
mark pays for, and moves the mark by their cost rounded down to whole nanoseconds. In unbounded
integers the grant is `⌊(now - p)·r / 10⁹⌋` (`Bucket.grant`); the bucket computes it in 64-bit
words, and the two agree as long as it stays below `2⁶³`, where the signed word turns negative.

Over a run of readings that never go back, the grants cover the time from the first reading to
the last: no leftover fraction of a token is lost. They pay for it exactly when every grant's
cost is a whole number of nanoseconds, which holds when the rate divides `10⁹` or `10⁹` divides
the rate. At any other rate a cost rounded down leaves part of a nanosecond that is paid for
again by the next call: at most one nanosecond's worth per call.

* `Bucket.grant`: the grant of a reading, in unbounded integers;
* `Bucket.admit_unbounded`: one admission agrees with its unbounded specification while the grant
  fits its word, and `Bucket.admit_grant_overflow`, the failure beyond;
* `Bucket.granted_monotone`: the tokens of a run of readings, and `Bucket.granted_overpaid`, the
  failure of exactness at other rates.
-/

namespace TrafficShaper

variable {b : Bucket} {r p t : Nat} {now : Option Nat}

/-! ## The words -/

theorem signed64_of_lt {n : Nat} (h : n < 2 ^ 63) : signed64 n = n := by
  unfold signed64
  exact if_pos h

theorem tokensFor_of_lt {e : Nat} (h : e * r / nanosPerSecond < 2 ^ 63) :
    tokensFor e r = e * r / nanosPerSecond :=
  wrap64_of_lt (by omega)

theorem cost_le_elapsed (e r : Nat) :
    e * r / nanosPerSecond * nanosPerSecond / r ≤ e := by
  apply Nat.div_le_of_le_mul
  rw [Nat.mul_comm r e]
  exact Nat.div_mul_le_self _ _

/-! ## One reading -/

/-- **The grant of a reading**, in unbounded integers: an unlimited rate tops the bucket up to
its capacity (0 if unlimited too); a limited one grants nothing without a reading, at the first
reading or at a reading before the mark, and otherwise the whole tokens that the time since the
mark pays for (none at a zero rate). -/
def Bucket.grant (b : Bucket) (now : Option Nat) : Int :=
  match b.rate, now, b.prevTime with
  | none, _, _ => (b.capacity.getD 0 : Int) - b.tokens
  | some _, none, _ => 0
  | some _, some _, none => 0
  | some r, some t, some p => if t < p then 0 else ((t - p) * r / nanosPerSecond : Nat)

theorem Bucket.tokensAvailable_tokens (b : Bucket) (now : Option Nat) :
    (b.tokensAvailable now).2.tokens = b.tokens := by
  unfold Bucket.tokensAvailable
  cases b.rate with
  | none => rfl
  | some r =>
    cases now with
    | none => rfl
    | some t =>
      cases hp : b.prevTime with
      | none => by_cases hr0 : r = 0 <;> simp [hr0]
      | some p => by_cases htp : t < p <;> by_cases hr0 : r = 0 <;> simp [htp, hr0]

theorem Bucket.tokensAvailable_since (hr : b.rate = some r) (hr0 : 0 < r)
    (hp : b.prevTime = some p) (hpt : p ≤ t) (ht : t < 2 ^ 64)
    (hn : (t - p) * r / nanosPerSecond < 2 ^ 63) :
    b.tokensAvailable (some t) = ((((t - p) * r / nanosPerSecond : Nat) : Int),
      { b with prevTime := some (p + (t - p) * r / nanosPerSecond * nanosPerSecond / r) }) := by
  have hcost := cost_le_elapsed (t - p) r
  unfold Bucket.tokensAvailable
  simp only [hr, hp, show ¬ t < p by omega, if_false, Nat.ne_of_gt hr0, Option.map_some,
    tokensFor_of_lt hn, signed64_of_lt hn, costOf]
  rw [wrap64_of_lt (show (t - p) * r / nanosPerSecond * nanosPerSecond / r < 2 ^ 64 by omega),
    wrap64_of_lt (show p + (t - p) * r / nanosPerSecond * nanosPerSecond / r < 2 ^ 64 by omega)]

theorem Bucket.tokensAvailable_unmarked (hr : b.rate = some r) (hp : b.prevTime = none)
    (hnow : ∀ t ∈ now, t < 2 ^ 64) : (b.tokensAvailable now).2.prevTime = now := by
  cases now with
  | none => simp [Bucket.tokensAvailable_none hr, hp]
  | some t => simp [Bucket.tokensAvailable_first hr hp (hnow t rfl)]

theorem Bucket.tokensAvailable_fst (hg : b.grant now < 2 ^ 63) :
    (b.tokensAvailable now).1 = b.grant now := by
  unfold Bucket.tokensAvailable Bucket.grant at *
  cases hr : b.rate with
  | none => rfl
  | some r =>
    cases now with
    | none => rfl
    | some t =>
      cases hp : b.prevTime with
      | none => by_cases hr0 : r = 0 <;> simp [hr0, signed64_of_lt]
      | some p =>
        simp only [hr, hp] at hg
        by_cases htp : t < p
        · by_cases hr0 : r = 0 <;> simp [htp, hr0, signed64_of_lt]
        · have hn : (t - p) * r / nanosPerSecond < 2 ^ 63 := by
            simp only [htp, if_false] at hg
            exact_mod_cast hg
          by_cases hr0 : r = 0
          · simp [htp, hr0]
          · simp [htp, hr0, tokensFor_of_lt hn, signed64_of_lt hn]

theorem Bucket.held_nonneg {c : Nat} (hc : b.capacity = some c) :
    0 ≤ (b.tokens : Int) + b.grant now := by
  unfold Bucket.grant
  split
  · simp only [hc, Option.getD_some]
    omega
  · omega
  · omega
  · split <;> positivity

/-! ## One admission -/

/-- **One admission agrees with its unbounded specification** while the grant `g` fits a signed
64-bit word. A bucket of unlimited capacity admits everything and does not change. A limited
one, of capacity `c` holding `b`, holds `b' = min c (b + g)` after the grant, admits a buffer of
`bits` exactly when `bits ≤ b'`, and is left with `b' - bits` if it admits and with `b'` if not;
at a limited rate, a bucket with no clock mark takes the reading as its mark. -/
theorem Bucket.admit_unbounded (b : Bucket) (bits : Nat) (now : Option Nat)
    (hnow : ∀ t ∈ now, t < 2 ^ 64) (hg : b.grant now < 2 ^ 63) :
    let after := b.admit bits now
    (b.capacity = none → after = (true, b)) ∧
      ∀ c, b.capacity = some c →
        let held : Int := min (c : Int) (b.tokens + b.grant now)
        after.1 = decide ((bits : Int) ≤ held) ∧
          (after.2.tokens : Int) = (if (bits : Int) ≤ held then held - bits else held) ∧
          (b.rate.isSome → b.prevTime = none → after.2.prevTime = now) := by
  refine ⟨fun hc => by unfold Bucket.admit; simp [hc], fun c hc => ?_⟩
  dsimp only
  have hfst := Bucket.tokensAvailable_fst hg
  have htok := b.tokensAvailable_tokens now
  have hheld : 0 ≤ (b.tokens : Int) + b.grant now := Bucket.held_nonneg hc
  rcases hta : b.tokensAvailable now with ⟨g, b₁⟩
  rw [hta] at hfst htok
  simp only at hfst htok
  subst hfst
  have hprev : b.rate.isSome → b.prevTime = none → b₁.prevTime = now := by
    intro hr hp
    obtain ⟨r, hr⟩ := Option.isSome_iff_exists.1 hr
    simpa [hta] using Bucket.tokensAvailable_unmarked hr hp hnow
  have htop : (topUp b₁.tokens (b.grant now) c : Int) = min (c : Int) (b.tokens + b.grant now) := by
    unfold topUp
    rw [htok]
    omega
  unfold Bucket.admit
  simp only [hc, hta]
  split
  · next hlt =>
    have hout : ¬ (bits : Int) ≤ min (c : Int) (b.tokens + b.grant now) := by omega
    refine ⟨(decide_eq_false hout).symm, ?_, hprev⟩
    rw [if_neg hout]
    exact htop
  · next hge =>
    have hin : (bits : Int) ≤ min (c : Int) (b.tokens + b.grant now) := by omega
    refine ⟨(decide_eq_true hin).symm, ?_, hprev⟩
    rw [if_pos hin]
    simp only
    omega

/-- At 800 kbps, 12.5 ms after the mark pay for 10,000 bits: an empty bucket admits a buffer of
that size. -/
theorem Bucket.admit_unbounded_refill :
    let b : Bucket := ⟨0, some 0, 800, 100⟩
    let after := b.admit 10000 (some 12500000)
    (∀ t ∈ some 12500000, t < 2 ^ 64) ∧ b.grant (some 12500000) < 2 ^ 63 ∧
      after.1 = true ∧ after.2.tokens = 0 := by
  intro b after
  have h := Bucket.admit_unbounded b 10000 (some 12500000) (by decide) (by decide)
  obtain ⟨hok, htokens, -⟩ := h.2 100000 (by decide)
  refine ⟨by decide, by decide, ?_, ?_⟩
  · rw [hok]
    decide
  · have htokens' : (after.2.tokens : Int) = 0 := by
      rw [htokens]
      decide
    exact_mod_cast htokens'

/-- **The specification fails beyond the word.** At 2,000,000 kbps, `2⁶²` ns after the mark,
the grant is `2⁶³` bits, which the signed word reads as `-2⁶³`: the bucket is emptied instead
of topped up, and a one-bit buffer is refused where the unbounded grant admits it. -/
theorem Bucket.admit_grant_overflow :
    let b : Bucket := ⟨1000, some 0, 2000000, 1⟩
    let after := b.admit 1 (some (2 ^ 62))
    after.1 ≠
      decide ((1 : Int) ≤ min (1000 : Int) (b.tokens + b.grant (some (2 ^ 62)))) := by
  decide +kernel

/-! ## Runs of readings -/

/-- **The tokens a run of readings is granted**: one reading after the other, each on the bucket
the one before left. -/
def Bucket.granted (b : Bucket) : List Nat → Int
  | [] => 0
  | t :: ts =>
    let (n, b) := b.tokensAvailable (some t)
    n + b.granted ts

theorem le_foldl_max {ts : List Nat} {a t : Nat} (h : t ∈ a :: ts) : t ≤ ts.foldl max a := by
  induction ts generalizing a t with
  | nil => simp_all
  | cons x xs ih =>
    rw [List.foldl_cons]
    have hmax : max a x ≤ xs.foldl max (max a x) := ih List.mem_cons_self
    rcases List.mem_cons.1 h with rfl | h
    · exact le_trans (le_max_left _ x) hmax
    · rcases List.mem_cons.1 h with rfl | h
      · exact le_trans (le_max_right a _) hmax
      · exact ih (List.mem_cons_of_mem _ h)

theorem cost_whole (h : r ∣ nanosPerSecond ∨ nanosPerSecond ∣ r) (e : Nat) :
    r ∣ e * r / nanosPerSecond * nanosPerSecond := by
  rcases h with h | ⟨m, rfl⟩
  · exact Dvd.dvd.mul_left h _
  · -- `m` tokens a nanosecond: `e` nanoseconds grant `e·m` tokens, which cost `e`
    have hN : 0 < nanosPerSecond := by decide
    rw [show e * (nanosPerSecond * m) = e * m * nanosPerSecond by ring, Nat.mul_div_cancel _ hN]
    exact ⟨e, by ring⟩

/-- **What the grants of a run have paid for**, after its first reading `t₀`: the grants so
far, `S` tokens, pay for the mark's move from `t₀` to `p`, and for less than one nanosecond more
in each of the `k` calls; exactly for the move when every cost is a whole number of
nanoseconds; and they cover the time to the latest reading `l`. -/
structure Paid (r t₀ p l S k : Nat) : Prop where
  start_le : t₀ ≤ p
  mark_le : p ≤ l
  covers_mark : (p - t₀) * r ≤ S * nanosPerSecond
  overpaid : S * nanosPerSecond ≤ (p - t₀ + k) * r
  exact : (∀ e, r ∣ e * r / nanosPerSecond * nanosPerSecond) → S * nanosPerSecond = (p - t₀) * r
  covers_due : (l - t₀) * r / nanosPerSecond ≤ S

theorem Paid.first (r t₀ : Nat) : Paid r t₀ t₀ t₀ 0 0 :=
  ⟨le_rfl, le_rfl, by simp, by simp, by simp, by simp⟩

theorem Paid.step {t₀ p l S k t : Nat} (h : Paid r t₀ p l S k) (hr0 : 0 < r) (hlt : l ≤ t) :
    Paid r t₀ (p + (t - p) * r / nanosPerSecond * nanosPerSecond / r) t
      (S + (t - p) * r / nanosPerSecond) (k + 1) := by
  obtain ⟨h0, h1, h2, h3, h4, h5⟩ := h
  have hN : 0 < nanosPerSecond := by decide
  have hc_le := cost_le_elapsed (t - p) r
  have hcost_le := Nat.div_mul_le_self ((t - p) * r / nanosPerSecond * nanosPerSecond) r
  have hcost_lt := @Nat.lt_div_mul_add ((t - p) * r / nanosPerSecond * nanosPerSecond) r hr0
  have hwhole := fun (hex : ∀ e, r ∣ e * r / nanosPerSecond * nanosPerSecond) =>
    Nat.div_mul_cancel (hex (t - p))
  have hdue : (t - t₀) * r / nanosPerSecond ≤ S + (t - p) * r / nanosPerSecond := by
    have hsplit : (t - t₀) * r = (p - t₀) * r + (t - p) * r := by
      rw [← Nat.add_mul]
      congr 1
      omega
    calc (t - t₀) * r / nanosPerSecond
        ≤ ((t - p) * r + S * nanosPerSecond) / nanosPerSecond :=
          Nat.div_le_div_right (by omega)
      _ = S + (t - p) * r / nanosPerSecond := by rw [Nat.add_mul_div_right _ _ hN, Nat.add_comm]
  -- the grant `n` and the mark's move `c`: `c·r ≤ n·10⁹ < (c + 1)·r`
  generalize (t - p) * r / nanosPerSecond = n at *
  generalize n * nanosPerSecond / r = c at *
  have hmark : (p + c - t₀) * r = (p - t₀) * r + c * r := by
    rw [show p + c - t₀ = p - t₀ + c by omega, Nat.add_mul]
  have hgrant : (S + n) * nanosPerSecond = S * nanosPerSecond + n * nanosPerSecond :=
    Nat.add_mul _ _ _
  refine ⟨by omega, by omega, ?_, ?_, ?_, hdue⟩
  · rw [hmark, hgrant]
    omega
  · have hstep : (p + c - t₀ + (k + 1)) * r = (p - t₀ + k) * r + c * r + r := by
      rw [show p + c - t₀ + (k + 1) = p - t₀ + k + c + 1 by omega]
      ring
    rw [hstep, hgrant]
    omega
  · intro hex
    rw [hmark, hgrant, h4 hex, hwhole hex]

theorem Bucket.granted_cons (b : Bucket) (t : Nat) (ts : List Nat) :
    b.granted (t :: ts) =
      (b.tokensAvailable (some t)).1 + (b.tokensAvailable (some t)).2.granted ts :=
  rfl

theorem Bucket.granted_paid (hr0 : 0 < r) (t₀ : Nat) :
    ∀ (ts : List Nat) (b : Bucket) (p l S k : Nat),
      b.rate = some r → b.prevTime = some p → Paid r t₀ p l S k →
      (l :: ts).Pairwise (· ≤ ·) → (∀ t ∈ ts, t < 2 ^ 64) →
      (∀ t ∈ ts, (t - t₀) * r / nanosPerSecond < 2 ^ 63) →
      ∃ G : Nat, b.granted ts = G ∧ ∃ q, Paid r t₀ q (ts.foldl max l) (S + G) (k + ts.length)
  | [], _, p, _, _, _, _, _, h, _, _, _ => ⟨0, rfl, p, h⟩
  | t :: ts, b, p, l, S, k, hr, hp, h, hsorted, hclock, hspan => by
    obtain ⟨hl, hsorted'⟩ := List.pairwise_cons.1 hsorted
    have hlt : l ≤ t := hl t List.mem_cons_self
    have hpt : p ≤ t := h.mark_le.trans hlt
    have hn : (t - p) * r / nanosPerSecond < 2 ^ 63 :=
      lt_of_le_of_lt (Nat.div_le_div_right (Nat.mul_le_mul_right _ (by have := h.start_le; omega)))
        (hspan t List.mem_cons_self)
    obtain ⟨G, hG, q, hq⟩ := Bucket.granted_paid hr0 t₀ ts
      { b with prevTime := some (p + (t - p) * r / nanosPerSecond * nanosPerSecond / r) } _ t _
      (k + 1) hr rfl (h.step hr0 hlt) hsorted'
      (fun t' ht' => hclock t' (List.mem_cons_of_mem _ ht'))
      (fun t' ht' => hspan t' (List.mem_cons_of_mem _ ht'))
    refine ⟨(t - p) * r / nanosPerSecond + G, ?_, q, ?_⟩
    · rw [Bucket.granted_cons, Bucket.tokensAvailable_since hr hr0 hp hpt
        (hclock t List.mem_cons_self) hn]
      simp only at hG ⊢
      rw [hG]
      push_cast
      rfl
    · simp only [List.foldl_cons, max_eq_right hlt, List.length_cons]
      rwa [Nat.add_assoc S, Nat.add_right_comm k 1] at hq

/-- **The tokens of a run of readings that never go back.** From a bucket with a limited rate
`r > 0` and no clock mark, over readings `t₀ ≤ t₁ ≤ … ≤ tₙ` that fit their word and whose span
grants less than `2⁶³`: the tokens granted cover the time `tₙ - t₀`, so no fraction of a token
is lost; they exceed it by less than one nanosecond's worth per reading after the first; and at a
rate that divides `10⁹`, or that `10⁹` divides, they are exactly `⌊(tₙ - t₀)·r / 10⁹⌋`. -/
theorem Bucket.granted_monotone (b : Bucket) (hr : b.rate = some r) (hr0 : 0 < r)
    (hp : b.prevTime = none) (t₀ : Nat) (ts : List Nat) (hsorted : (t₀ :: ts).Pairwise (· ≤ ·))
    (hclock : ∀ t ∈ t₀ :: ts, t < 2 ^ 64)
    (hspan : clockSpan (t₀ :: ts) * r / nanosPerSecond < 2 ^ 63) :
    let due := clockSpan (t₀ :: ts) * r / nanosPerSecond
    (due : Int) ≤ b.granted (t₀ :: ts) ∧
      b.granted (t₀ :: ts) ≤ ((clockSpan (t₀ :: ts) + ts.length) * r / nanosPerSecond : Nat) ∧
      (r ∣ nanosPerSecond ∨ nanosPerSecond ∣ r → b.granted (t₀ :: ts) = due) := by
  intro due
  have hN : 0 < nanosPerSecond := by decide
  have hfirst := Bucket.tokensAvailable_first hr hp (hclock t₀ List.mem_cons_self)
  obtain ⟨G, hG, q, hq⟩ := Bucket.granted_paid hr0 t₀ ts { b with prevTime := some t₀ } t₀ t₀ 0 0
    hr rfl (Paid.first r t₀) hsorted (fun t ht => hclock t (List.mem_cons_of_mem _ ht))
    (fun t ht => lt_of_le_of_lt (Nat.div_le_div_right (Nat.mul_le_mul_right _
      (Nat.sub_le_sub_right (le_foldl_max (List.mem_cons_of_mem _ ht)) _))) hspan)
  have hgranted : b.granted (t₀ :: ts) = G := by
    rw [Bucket.granted_cons, hfirst]
    simpa using hG
  simp only [Nat.zero_add] at hq
  have hspan_eq : clockSpan (t₀ :: ts) = ts.foldl max t₀ - t₀ := rfl
  obtain ⟨h0, h1, h2, h3, h4, h5⟩ := hq
  refine ⟨by rw [hgranted]; exact_mod_cast h5, ?_, fun hx => ?_⟩
  · -- every call after the first pays for less than one nanosecond beyond the mark
    rw [hgranted, hspan_eq]
    have hle : G * nanosPerSecond ≤ (ts.foldl max t₀ - t₀ + ts.length) * r :=
      h3.trans (Nat.mul_le_mul_right _ (by omega))
    exact_mod_cast (Nat.le_div_iff_mul_le hN).2 hle
  · -- at such rates the grants pay for the mark's move exactly, and the mark is behind `tₙ`
    have hexact := h4 (cost_whole hx)
    have hle : G ≤ (ts.foldl max t₀ - t₀) * r / nanosPerSecond :=
      (Nat.le_div_iff_mul_le hN).2 (hexact ▸ Nat.mul_le_mul_right _ (by omega))
    rw [hgranted]
    exact_mod_cast le_antisymm hle h5

/-- The run of the fractional-time test: at 1 kbps, a token a millisecond, readings at 0, 1.5,
2 and 2 ms are granted 2 tokens. -/
theorem Bucket.granted_monotone_millis :
    (Bucket.new 1 100).rate = some 1000 ∧ (Bucket.new 1 100).prevTime = none ∧
      (0 :: [1500000, 2000000, 2000000]).Pairwise (· ≤ ·) ∧
      (∀ t ∈ 0 :: [1500000, 2000000, 2000000], t < 2 ^ 64) ∧
      clockSpan (0 :: [1500000, 2000000, 2000000]) * 1000 / nanosPerSecond < 2 ^ 63 ∧
      (Bucket.new 1 100).granted (0 :: [1500000, 2000000, 2000000]) = 2 := by
  have h := Bucket.granted_monotone (Bucket.new 1 100)
    (show (Bucket.new 1 100).rate = some 1000 by decide) (by decide) (by decide) 0
    [1500000, 2000000, 2000000] (by decide) (by decide) (by decide)
  refine ⟨by decide, by decide, by decide, by decide, by decide, ?_⟩
  rw [h.2.2 (Or.inl (by decide))]
  decide

/-- **Exactness fails at other rates.** At 6 kbps a token costs 166,666⅔ ns, rounded down to
166,666: readings at 0, 333,333 and 333,333 ns are granted a token each at the last two, two in
all, where the 333,333 ns pay for one. -/
theorem Bucket.granted_overpaid :
    (Bucket.new 6 100).rate = some 6000 ∧
      (Bucket.new 6 100).granted [0, 333333, 333333] ≠
        (clockSpan [0, 333333, 333333] * 6000 / nanosPerSecond : Nat) := by
  decide

end TrafficShaper
