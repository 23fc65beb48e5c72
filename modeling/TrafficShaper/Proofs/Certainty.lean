import TrafficShaper.Proofs.Arrival
import Mathlib

/-! # Certain configurations

A configuration can leave nothing to chance and nothing to the clock. Every chance is at most
zero, so it says "no" without a draw, or at least one, so that it says "yes" whatever the draw is,
since a unit draw lies below one. The delay is never drawn at all, or is drawn uniformly from an
empty range, which gives the lower bound with no draw. And the token bucket either has an
unlimited capacity, so that it admits everything, or a rate of at most zero, so that elapsed time
pays for nothing and only the capacity matters.

Under such configurations two filters that start alike and differ only in their generators, and
in the clock readings they are given, stay alike: they differ only in their generators and in the
clock marks of their buckets (`Filter.Twin`), and answer every operation with the same events and
the same answer.

* `Config.Certain`: the configurations that leave nothing to chance or to the clock;
* `Random.Generator.roll_agree`, `Bucket.admit_unmarked`: a certain chance and a clock-blind
  bucket decide alike whatever the draw and the reading;
* `Filter.Synced`: the bucket always runs at the configured rate and capacity;
* `Filter.Twin.exec`, `Filter.Twin.run`: every operation, and so every run, keeps two filters
  twins;
* `certain_runs_agree`: two runs of a new filter under certain configurations agree, whatever
  their seeds and their clocks.
-/

namespace TrafficShaper

open TrafficShaper.Binary TrafficShaper.Random

/-! ## Certain chances -/

/-- A chance at most zero: a zero of either sign, a negative value, or negative infinity. -/
def Binary.Binary32.atMostZero (p : Binary32) : Bool :=
  match p.decode with
  | .finite s m _ => s || m == 0
  | .infinite s => s
  | .nan => false

/-- A chance at least one: a positive value `m · 2^e ≥ 1`, or positive infinity. -/
def Binary.Binary32.atLeastOne (p : Binary32) : Bool :=
  match p.decode with
  | .finite s m e =>
    !s && (if 0 ≤ e then decide (1 ≤ m * 2 ^ e.toNat) else decide (2 ^ (-e).toNat ≤ m))
  | .infinite s => !s
  | .nan => false

theorem Binary.Binary32.isPositive_of_atMostZero {p : Binary32} (h : p.atMostZero = true) :
    p.isPositive = false := by
  rcases hp : p.decode with ⟨s, m, e⟩ | s | _
  · simp only [Binary32.atMostZero, hp, Bool.or_eq_true, beq_iff_eq] at h
    rcases h with rfl | rfl <;> simp [Binary32.isPositive, hp]
  · simp only [Binary32.atMostZero, hp] at h
    simp [Binary32.isPositive, hp, h]
  · simp [Binary32.isPositive, hp]

theorem Binary.Binary32.isPositive_of_atLeastOne {p : Binary32} (h : p.atLeastOne = true) :
    p.isPositive = true := by
  rcases hp : p.decode with ⟨s, m, e⟩ | s | _
  · simp only [Binary32.atLeastOne, hp, Bool.and_eq_true, Bool.not_eq_eq_eq_not,
      Bool.not_true] at h
    obtain ⟨rfl, hm⟩ := h
    have : m ≠ 0 := by
      rintro rfl
      split at hm <;> simp at hm
    simp [Binary32.isPositive, hp, this]
  · simp only [Binary32.atLeastOne, hp, Bool.not_eq_eq_eq_not, Bool.not_true] at h
    simp [Binary32.isPositive, hp, h]
  · simp [Binary32.atLeastOne, hp] at h

theorem Binary.Binary32.exceeds_of_finite {p : Binary32} {s : Bool} {m : Nat} {e : Int}
    (hp : p.decode = .finite s m e) (k : Nat) :
    p.exceeds k = if 0 ≤ e + 53 then decide (k < m * 2 ^ (e + 53).toNat)
      else decide (k * 2 ^ (-(e + 53)).toNat < m) := by
  unfold Binary32.exceeds
  rw [hp]
  rfl

theorem Binary.Binary32.exceeds_of_infinite {p : Binary32} {s : Bool}
    (hp : p.decode = .infinite s) (k : Nat) : p.exceeds k = true := by
  unfold Binary32.exceeds
  rw [hp]

theorem Binary.Binary32.exceeds_of_atLeastOne {p : Binary32} (h : p.atLeastOne = true) {k : Nat}
    (hk : k < 2 ^ 53) : p.exceeds k = true := by
  rcases hp : p.decode with ⟨s, m, e⟩ | s | _
  · simp only [Binary32.atLeastOne, hp, Bool.and_eq_true] at h
    rw [Binary32.exceeds_of_finite hp]
    by_cases he : 0 ≤ e
    · have hm : 1 ≤ m * 2 ^ e.toNat := by simpa [he] using h.2
      have hexp : (e + 53).toNat = e.toNat + 53 := by omega
      rw [if_pos (by omega), hexp, pow_add, ← Nat.mul_assoc, decide_eq_true_eq]
      calc k < 2 ^ 53 := hk
        _ ≤ m * 2 ^ e.toNat * 2 ^ 53 := Nat.le_mul_of_pos_left _ hm
    · have hm : 2 ^ (-e).toNat ≤ m := by simpa [he] using h.2
      by_cases h53 : 0 ≤ e + 53
      · have hexp : (-e).toNat + (e + 53).toNat = 53 := by omega
        rw [if_pos h53, decide_eq_true_eq]
        calc k < 2 ^ 53 := hk
          _ = 2 ^ (-e).toNat * 2 ^ (e + 53).toNat := by rw [← pow_add, hexp]
          _ ≤ m * 2 ^ (e + 53).toNat := Nat.mul_le_mul_right _ hm
      · have hexp : 53 + (-(e + 53)).toNat = (-e).toNat := by omega
        rw [if_neg h53, decide_eq_true_eq]
        calc k * 2 ^ (-(e + 53)).toNat < 2 ^ 53 * 2 ^ (-(e + 53)).toNat :=
            Nat.mul_lt_mul_of_pos_right hk (Nat.two_pow_pos _)
          _ = 2 ^ (-e).toNat := by rw [← pow_add, hexp]
          _ ≤ m := hm
  · exact Binary32.exceeds_of_infinite hp k
  · simp [Binary32.atLeastOne, hp] at h

theorem Random.Generator.unitDraw_lt (g : Generator) : g.unitDraw.1 < 2 ^ 53 := by
  have hw := g.nextWide.1.toNat_lt
  simp [Generator.unitDraw, UInt64.toNat_shiftRight]
  omega

theorem Random.Generator.roll_of_atMostZero (g : Generator) {p : Binary32}
    (h : p.atMostZero = true) : g.roll p = (false, g) := by
  simp [Generator.roll, Binary32.isPositive_of_atMostZero h]

theorem Random.Generator.roll_of_atLeastOne (g : Generator) {p : Binary32}
    (h : p.atLeastOne = true) : (g.roll p).1 = true := by
  simp [Generator.roll, Binary32.isPositive_of_atLeastOne h,
    Binary32.exceeds_of_atLeastOne h g.unitDraw_lt]

/-- **A certain chance decides alike whatever the generator.** -/
theorem Random.Generator.roll_agree {p : Binary32} (hp : p.atMostZero ∨ p.atLeastOne)
    {g₁ g₂ g₁' g₂' : Generator} {hit₁ hit₂ : Bool} (h₁ : g₁.roll p = (hit₁, g₁'))
    (h₂ : g₂.roll p = (hit₂, g₂')) : hit₁ = hit₂ := by
  rcases hp with hp | hp
  · rw [g₁.roll_of_atMostZero hp] at h₁
    rw [g₂.roll_of_atMostZero hp] at h₂
    rw [← (Prod.mk.inj h₁).1, ← (Prod.mk.inj h₂).1]
  · have e₁ := g₁.roll_of_atLeastOne hp
    have e₂ := g₂.roll_of_atLeastOne hp
    rw [h₁] at e₁
    rw [h₂] at e₂
    exact e₁.trans e₂.symm

theorem Random.Generator.not_atMostZero_of_roll {p : Binary32} {g g' : Generator}
    (h : g.roll p = (true, g')) : p.atMostZero = false := by
  cases hz : p.atMostZero
  · rfl
  · rw [g.roll_of_atMostZero hz] at h
    cases h

theorem Distribution.sample_uniform_empty {lo hi : Int32} (h : hi ≤ lo) (g : Generator)
    (c : NormalPair) : Distribution.uniform.sample g lo hi c = (lo.toInt.toNat, c, g) := by
  simp [Distribution.sample, Generator.uniformInt, h]

/-! ## A bucket blind to the clock -/

/-- The bucket with its clock mark forgotten. -/
def Bucket.unmarked (b : Bucket) : Bucket := { b with prevTime := none }

theorem Bucket.unmarked_eq_iff {b₁ b₂ : Bucket} : b₁.unmarked = b₂.unmarked ↔
    b₁.tokens = b₂.tokens ∧ b₁.maxKbps = b₂.maxKbps ∧ b₁.maxBucketSize = b₂.maxBucketSize := by
  cases b₁
  cases b₂
  simp [Bucket.unmarked]

theorem Bucket.unmarked_setMaxKbps (b : Bucket) (v : Int32) :
    (b.setMaxKbps v).unmarked = b.unmarked.setMaxKbps v := rfl

theorem Bucket.unmarked_setMaxBucketSize (b : Bucket) (v : Int32) :
    (b.setMaxBucketSize v).unmarked = b.unmarked.setMaxBucketSize v := by
  simp only [Bucket.setMaxBucketSize, Bucket.refill, Bucket.unmarked, Bucket.capacity]
  split <;> rfl

theorem Bucket.reset_eq_refill (b : Bucket) : b.reset = b.unmarked.refill := rfl

theorem Bucket.tokensAvailable_of_rate_le_zero {b : Bucket} (hK : b.maxKbps.toInt ≤ 0)
    (now : Option Nat) : ∃ mark, b.tokensAvailable now =
      (if b.maxKbps.toInt < 0 then (b.capacity.getD 0 : Int) - b.tokens else 0,
        { b with prevTime := mark }) := by
  by_cases hneg : b.maxKbps.toInt < 0
  · have hr : b.rate = none := by simp [Bucket.rate]; omega
    exact ⟨b.prevTime, by simp [Bucket.tokensAvailable, hr, hneg]⟩
  · have hzero : b.maxKbps.toInt.toNat = 0 := by omega
    have hr : b.rate = some 0 := by simp [Bucket.rate, hzero]; omega
    rcases now with _ | t
    · exact ⟨b.prevTime, by simp [Bucket.tokensAvailable, hr, hneg]⟩
    · rcases hp : b.prevTime with _ | p
      · exact ⟨some t, by simp [Bucket.tokensAvailable, hr, hneg, hp]⟩
      · refine ⟨some p, ?_⟩
        simp only [Bucket.tokensAvailable, hr, hneg, hp]
        by_cases htp : t < p <;> simp [htp, ← hp]

theorem Bucket.admit_of_tokensAvailable {b : Bucket} {C : Nat} {grant : Int} {mark : Option Nat}
    {bits : Nat} {now : Option Nat} (hC : b.capacity = some C)
    (ht : b.tokensAvailable now = (grant, { b with prevTime := mark })) :
    b.admit bits now =
      if topUp b.tokens grant C < bits then
        (false, { b with prevTime := mark, tokens := topUp b.tokens grant C })
      else (true, { b with prevTime := mark, tokens := topUp b.tokens grant C - bits }) := by
  unfold Bucket.admit
  simp only [hC, ht]

/-- **A bucket blind to the clock**, with an unlimited capacity or a rate of at most zero, admits
alike at any two readings, and two such buckets that differ only in their marks stay so. -/
theorem Bucket.admit_unmarked {b₁ b₂ b₁' b₂' : Bucket} {ok₁ ok₂ : Bool} {bits : Nat}
    {now₁ now₂ : Option Nat} (h : b₁.unmarked = b₂.unmarked)
    (hblind : b₁.maxKbps.toInt ≤ 0 ∨ b₁.maxBucketSize.toInt < 0)
    (ha₁ : b₁.admit bits now₁ = (ok₁, b₁')) (ha₂ : b₂.admit bits now₂ = (ok₂, b₂')) :
    ok₁ = ok₂ ∧ b₁'.unmarked = b₂'.unmarked := by
  obtain ⟨htok, hK, hB⟩ := Bucket.unmarked_eq_iff.1 h
  have hC : b₁.capacity = b₂.capacity := by simp [Bucket.capacity, hB]
  rcases hc : b₁.capacity with _ | C
  · -- an unlimited bucket admits everything and does not change
    have hc₂ : b₂.capacity = none := hC ▸ hc
    unfold Bucket.admit at ha₁ ha₂
    rw [hc] at ha₁
    rw [hc₂] at ha₂
    cases ha₁
    cases ha₂
    exact ⟨rfl, h⟩
  · -- a limited one pays nothing for time
    have hc₂ : b₂.capacity = some C := hC ▸ hc
    have hK₁ : b₁.maxKbps.toInt ≤ 0 := by
      refine hblind.resolve_right fun hneg => ?_
      simp [Bucket.capacity] at hc
      omega
    obtain ⟨m₁, ht₁⟩ := Bucket.tokensAvailable_of_rate_le_zero hK₁ now₁
    obtain ⟨m₂, ht₂⟩ := Bucket.tokensAvailable_of_rate_le_zero (hK ▸ hK₁) now₂
    rw [Bucket.admit_of_tokensAvailable hc ht₁] at ha₁
    rw [Bucket.admit_of_tokensAvailable hc₂ ht₂, ← hK, ← hC, ← htok] at ha₂
    generalize (if b₁.maxKbps.toInt < 0 then ((b₁.capacity.getD 0 : Nat) : Int) - b₁.tokens
      else 0) = grant at ha₁ ha₂
    by_cases hlt : topUp b₁.tokens grant C < bits <;>
      simp only [hlt, if_true, if_false] at ha₁ ha₂ <;> cases ha₁ <;> cases ha₂ <;>
      exact ⟨rfl, by simp [Bucket.unmarked, hK, hB]⟩

/-! ## Certain configurations -/

/-- **A configuration that leaves nothing to chance or to the clock**: each chance at most zero
or at least one; a delay never drawn, or drawn uniformly from an empty range; and a rate of at
most zero, or an unlimited capacity. -/
def Config.Certain (c : Config) : Prop :=
  (c.delayProbability.atMostZero ∨ c.delayProbability.atLeastOne) ∧
    (c.dropProbability.atMostZero ∨ c.dropProbability.atLeastOne) ∧
    (c.duplicateProbability.atMostZero ∨ c.duplicateProbability.atLeastOne) ∧
    (c.delayProbability.atMostZero ∨ (c.distribution = .uniform ∧ c.maxDelay ≤ c.minDelay)) ∧
    (c.maxKbps.toInt ≤ 0 ∨ c.maxBucketSize.toInt < 0)

instance (c : Config) : Decidable c.Certain :=
  inferInstanceAs (Decidable
    ((c.delayProbability.atMostZero ∨ c.delayProbability.atLeastOne) ∧
      (c.dropProbability.atMostZero ∨ c.dropProbability.atLeastOne) ∧
      (c.duplicateProbability.atMostZero ∨ c.duplicateProbability.atLeastOne) ∧
      (c.delayProbability.atMostZero ∨ (c.distribution = .uniform ∧ c.maxDelay ≤ c.minDelay)) ∧
      (c.maxKbps.toInt ≤ 0 ∨ c.maxBucketSize.toInt < 0)))

theorem Config.limits_putChance (c : Config) (p : Property) (x : Binary32) :
    (c.putChance p x).maxKbps = c.maxKbps ∧ (c.putChance p x).maxBucketSize = c.maxBucketSize := by
  unfold Config.putChance
  split <;> exact ⟨rfl, rfl⟩

theorem Config.limits_set {c c' : Config} {p : Property} {v : String} (h : c.set p v = .ok c') :
    (c'.maxKbps = c.maxKbps ∨ p = .maxKbps) ∧
      (c'.maxBucketSize = c.maxBucketSize ∨ p = .maxBucketSize) := by
  unfold Config.set at h
  split at h <;> simp only at h <;> split at h <;> (try split at h) <;> cases h <;>
    simp [Config.limits_putChance]

theorem Bucket.tokensAvailable_moves_mark (b : Bucket) (now : Option Nat) :
    ∃ mark, (b.tokensAvailable now).2 = { b with prevTime := mark } := by
  refine ⟨(b.tokensAvailable now).2.prevTime, ?_⟩
  obtain ⟨tokens, prev, K, B⟩ := b
  rcases now with _ | t <;> rcases prev with _ | p <;>
    simp only [Bucket.tokensAvailable] <;> split <;> (try split) <;> (try split) <;> rfl

theorem Bucket.admit_moves_mark {b b' : Bucket} {ok : Bool} {bits : Nat} {now : Option Nat}
    (ha : b.admit bits now = (ok, b')) :
    ∃ mark tokens, b' = { b with prevTime := mark, tokens := tokens } := by
  obtain ⟨mark, hm⟩ := b.tokensAvailable_moves_mark now
  unfold Bucket.admit at ha
  split at ha
  · cases ha
    exact ⟨b.prevTime, b.tokens, rfl⟩
  · rcases ht : b.tokensAvailable now with ⟨grant, b''⟩
    rw [ht] at hm ha
    cases hm
    simp only at ha
    split at ha <;> cases ha <;> exact ⟨mark, _, rfl⟩

theorem Bucket.settings_refill (b : Bucket) :
    b.refill.maxKbps = b.maxKbps ∧ b.refill.maxBucketSize = b.maxBucketSize := by
  unfold Bucket.refill
  split <;> exact ⟨rfl, rfl⟩

/-! ## The bucket follows the configuration -/

variable {f : Filter} {b : Buffer} {wall : Nat}

theorem Filter.schedule_frame (f : Filter) (ms : Nat) (b : Buffer) (wall : Nat) :
    (f.schedule ms b wall).filter.config = f.config ∧
      (f.schedule ms b wall).filter.bucket = f.bucket := by
  unfold Filter.schedule
  split <;> exact ⟨rfl, rfl⟩

theorem Filter.forward_frame (f : Filter) (b : Buffer) (wall : Nat) :
    (f.forward b wall).filter.config = f.config ∧ (f.forward b wall).filter.bucket = f.bucket := by
  rcases hr : f.gen.roll f.config.delayProbability with ⟨_ | _, g⟩
  · rw [Filter.forward_now hr]
    exact ⟨rfl, rfl⟩
  · rcases hs : f.config.distribution.sample g f.config.minDelay f.config.maxDelay f.pair with
      ⟨ms, pair, g'⟩
    rw [Filter.forward_delayed hr hs]
    exact Filter.schedule_frame _ ms b wall

theorem Filter.deliverAll_frame (f : Filter) (ps : List Pending) :
    (f.deliverAll ps).filter.config = f.config ∧ (f.deliverAll ps).filter.bucket = f.bucket := by
  induction ps generalizing f with
  | nil => exact ⟨rfl, rfl⟩
  | cons p ps ih => exact ih (f.deliver p.buffer).filter

/-- The bucket runs at the configured rate and capacity. -/
def Filter.Synced (f : Filter) : Prop :=
  f.bucket.maxKbps = f.config.maxKbps ∧ f.bucket.maxBucketSize = f.config.maxBucketSize

theorem Filter.Synced.new (c : Config) (g : Generator) (sink : Downstream) :
    (Filter.new c g sink).Synced :=
  Bucket.settings_refill _

theorem Filter.Synced.of_frame {f' : Filter} (h : f.Synced) (hc : f'.config = f.config)
    (hb : f'.bucket = f.bucket) : f'.Synced := by
  unfold Filter.Synced
  rw [hc, hb]
  exact h

theorem Filter.Synced.forward (h : f.Synced) (b : Buffer) (wall : Nat) :
    (f.forward b wall).filter.Synced :=
  h.of_frame (Filter.forward_frame f b wall).1 (Filter.forward_frame f b wall).2

theorem Filter.Synced.afterAdmission (h : f.Synced) (b : Buffer) (wall : Nat) :
    (f.afterAdmission b wall).filter.Synced := by
  by_cases h0 : 0 < f.config.dropPackets
  · rw [Filter.afterAdmission_countdown h0]
    exact h
  rcases hr : f.gen.roll f.config.dropProbability with ⟨_ | _, g⟩
  · rcases hd : g.roll f.config.duplicateProbability with ⟨_ | _, g'⟩
    · rw [Filter.afterAdmission_single h0 hr hd]
      refine Filter.Synced.forward ?_ b wall
      exact h
    · rw [Filter.afterAdmission_duplicated h0 hr hd]
      refine Filter.Synced.forward (Filter.Synced.forward ?_ b wall) b wall
      exact h
  · rw [Filter.afterAdmission_dropped h0 hr]
    exact h

theorem Filter.Synced.chain (h : f.Synced) (b : Buffer) (now : Option Nat) (wall : Nat) :
    (f.chain b now wall).filter.Synced := by
  rcases ha : f.bucket.admit b.bits now with ⟨ok, bucket⟩
  obtain ⟨mark, tokens, rfl⟩ := Bucket.admit_moves_mark ha
  have hs : ({ f with bucket := { f.bucket with prevTime := mark, tokens := tokens } } :
      Filter).Synced := h
  cases ok
  · rw [Filter.chain_rejected ha]
    exact hs
  · rw [Filter.chain_admitted ha]
    refine Filter.Synced.afterAdmission ?_ b wall
    exact hs

theorem Filter.Synced.setProperty (h : f.Synced) {name value : String} {f' : Filter}
    (hset : f.setProperty name value = .ok f') : f'.Synced := by
  rcases hp : Property.ofName? name with _ | p
  · simp [Filter.setProperty, hp] at hset
  rcases hc : f.config.set p value with e | c
  · simp [Filter.setProperty, hp, hc] at hset
  simp only [Filter.setProperty, hp, hc, Except.ok.injEq] at hset
  subst hset
  obtain ⟨hK, hB⟩ := Config.limits_set hc
  cases p <;> simp_all [Filter.Synced, Bucket.setMaxKbps, Bucket.setMaxBucketSize,
    Bucket.settings_refill]

/-- **The bucket always runs at the configured rate and capacity**, whatever the operation. -/
theorem Filter.Synced.exec (h : f.Synced) (reading : Option Nat) (op : Filter.Op) :
    (f.exec reading op).filter.Synced := by
  cases op with
  | chain b wall => exact h.chain b reading wall
  | setProperty name value =>
    simp only [Filter.exec]
    split
    · rename_i f' hset
      exact h.setProperty hset
    · exact h
  | setConfig c =>
    simp [Filter.exec, Filter.setConfig, Filter.Synced, Bucket.setMaxKbps,
      Bucket.setMaxBucketSize, Bucket.settings_refill]
  | reseed seed => exact h
  | activate =>
    simp only [Filter.exec, Filter.activate]
    split
    · exact h
    · -- a reset refills the bucket and keeps its settings
      exact ⟨(Bucket.settings_refill _).1.trans h.1, (Bucket.settings_refill _).2.trans h.2⟩
  | deactivate =>
    simp only [Filter.exec, Filter.deactivate]
    split <;> exact h
  | receive => exact h
  | fire now =>
    simp only [Filter.exec, Filter.fire]
    split
    · exact h
    · exact h.of_frame (Filter.deliverAll_frame _ _).1 (Filter.deliverAll_frame _ _).2

/-! ## Twin filters -/

/-- **Twin filters** differ at most in their generators and in the clock marks of their
buckets. -/
structure Filter.Twin (f₁ f₂ : Filter) : Prop where
  config : f₁.config = f₂.config
  bucket : f₁.bucket.unmarked = f₂.bucket.unmarked
  pair : f₁.pair = f₂.pair
  stats : f₁.stats = f₂.stats
  loop : f₁.loop = f₂.loop
  sink : f₁.sink = f₂.sink

/-- **Twin calls** leave twin filters and give the same events and the same answer. -/
structure Outcome.Twin {α : Type} (o₁ o₂ : Outcome α) : Prop where
  filter : o₁.filter.Twin o₂.filter
  events : o₁.events = o₂.events
  value : o₁.value = o₂.value

variable {f₁ f₂ : Filter}

theorem Filter.Twin.regen (h : f₁.Twin f₂) (g₁ g₂ : Generator) :
    ({ f₁ with gen := g₁ } : Filter).Twin { f₂ with gen := g₂ } :=
  ⟨h.config, h.bucket, h.pair, h.stats, h.loop, h.sink⟩

theorem Filter.Twin.count (h : f₁.Twin f₂) (g : Stats → Stats) : (f₁.count g).Twin (f₂.count g) :=
  ⟨h.config, h.bucket, h.pair, by simp [Filter.count, h.stats], h.loop, h.sink⟩

theorem Outcome.Twin.of_filter {α : Type} (h : f₁.Twin f₂) (es : List Metric) (v : α) :
    Outcome.Twin ⟨f₁, es, v⟩ ⟨f₂, es, v⟩ :=
  ⟨h, rfl, rfl⟩

theorem Outcome.Twin.after {α : Type} {o₁ o₂ : Outcome α} (h : o₁.Twin o₂) (es : List Metric) :
    Outcome.Twin ⟨o₁.filter, es ++ o₁.events, o₁.value⟩ ⟨o₂.filter, es ++ o₂.events, o₂.value⟩ :=
  ⟨h.filter, by rw [h.events], h.value⟩

/-! ### Calls that look at neither the generator nor the bucket

Twins agree on everything these calls read, so they are taken apart into one filter with two
generators and two buckets, and compared field by field. -/

/-- **Twins taken apart**: a statement about twins holds if it holds of one filter with two
generators, and two buckets alike but for their marks. -/
@[elab_as_elim]
theorem Filter.Twin.elim {motive : Filter → Filter → Prop} (f₁ f₂ : Filter) (h : f₁.Twin f₂)
    (parts : ∀ c g₁ g₂ b₁ b₂ pair s l sink, b₁.unmarked = b₂.unmarked →
      motive ⟨c, g₁, b₁, pair, s, l, sink⟩ ⟨c, g₂, b₂, pair, s, l, sink⟩) : motive f₁ f₂ := by
  obtain ⟨c, g₁, b₁, pair, s, l, sink⟩ := f₁
  obtain ⟨_, g₂, b₂, _, _, _, _⟩ := f₂
  obtain ⟨rfl, hb, rfl, rfl, rfl, rfl⟩ := h
  exact parts c g₁ g₂ b₁ b₂ pair s l sink hb

theorem Filter.Twin.pushNow (h : f₁.Twin f₂) (b : Buffer) :
    Outcome.Twin (f₁.pushNow b) (f₂.pushNow b) := by
  refine Filter.Twin.elim f₁ f₂ h fun c g₁ g₂ b₁ b₂ pair s l sink hb => ?_
  exact ⟨⟨rfl, hb, rfl, rfl, rfl, rfl⟩, rfl, rfl⟩

theorem Filter.Twin.schedule (h : f₁.Twin f₂) (ms : Nat) (b : Buffer) (wall : Nat) :
    Outcome.Twin (f₁.schedule ms b wall) (f₂.schedule ms b wall) := by
  refine Filter.Twin.elim f₁ f₂ h fun c g₁ g₂ b₁ b₂ pair s l sink hb => ?_
  cases l
  · refine Filter.Twin.pushNow ?_ b
    exact ⟨rfl, hb, rfl, rfl, rfl, rfl⟩
  · exact ⟨⟨rfl, hb, rfl, rfl, rfl, rfl⟩, rfl, rfl⟩

theorem Filter.Twin.deliver (h : f₁.Twin f₂) (b : Buffer) :
    Outcome.Twin (f₁.deliver b) (f₂.deliver b) := by
  refine Filter.Twin.elim f₁ f₂ h fun c g₁ g₂ b₁ b₂ pair s l sink hb => ?_
  exact ⟨⟨rfl, hb, rfl, rfl, rfl, rfl⟩, rfl, rfl⟩

theorem Filter.Twin.deliverAll (h : f₁.Twin f₂) (ps : List Pending) :
    Outcome.Twin (f₁.deliverAll ps) (f₂.deliverAll ps) := by
  induction ps generalizing f₁ f₂ with
  | nil => exact ⟨h, rfl, rfl⟩
  | cons p ps ih =>
    have h1 := h.deliver p.buffer
    have h2 := ih h1.filter
    exact ⟨h2.filter, by simp only [Filter.deliverAll, h1.events, h2.events], rfl⟩

theorem Filter.Twin.fire (h : f₁.Twin f₂) (now : Nat) :
    Outcome.Twin (f₁.fire now) (f₂.fire now) := by
  refine Filter.Twin.elim f₁ f₂ h fun c g₁ g₂ b₁ b₂ pair s l sink hb => ?_
  cases l
  · exact ⟨⟨rfl, hb, rfl, rfl, rfl, rfl⟩, rfl, rfl⟩
  · refine Filter.Twin.deliverAll ?_ _
    exact ⟨rfl, hb, rfl, rfl, rfl, rfl⟩

/-! ### The arrival path -/

theorem Filter.Twin.forward (h : f₁.Twin f₂) (hc : f₁.config.Certain) (b : Buffer) (wall : Nat) :
    Outcome.Twin (f₁.forward b wall) (f₂.forward b wall) := by
  obtain ⟨hdelay, -, -, hfixed, -⟩ := hc
  rcases hr₁ : f₁.gen.roll f₁.config.delayProbability with ⟨hit, g₁⟩
  rcases hr₂ : f₂.gen.roll f₂.config.delayProbability with ⟨hit₂, g₂⟩
  have hr₂' : f₂.gen.roll f₁.config.delayProbability = (hit₂, g₂) := by rw [h.config]; exact hr₂
  obtain rfl := Generator.roll_agree hdelay hr₁ hr₂'
  cases hit
  · rw [Filter.forward_now hr₁, Filter.forward_now hr₂]
    exact (h.regen g₁ g₂).pushNow b
  · obtain ⟨hu, hle⟩ := hfixed.resolve_left (by simp [Generator.not_atMostZero_of_roll hr₁])
    have hs₁ : f₁.config.distribution.sample g₁ f₁.config.minDelay f₁.config.maxDelay f₁.pair =
        (f₁.config.minDelay.toInt.toNat, f₁.pair, g₁) := by
      rw [hu]
      exact Distribution.sample_uniform_empty hle g₁ f₁.pair
    have hs₂ : f₂.config.distribution.sample g₂ f₂.config.minDelay f₂.config.maxDelay f₂.pair =
        (f₁.config.minDelay.toInt.toNat, f₂.pair, g₂) := by
      rw [← h.config, hu]
      exact Distribution.sample_uniform_empty hle g₂ f₂.pair
    rw [Filter.forward_delayed hr₁ hs₁, Filter.forward_delayed hr₂ hs₂]
    exact (((h.regen g₁ g₂).count _).schedule _ b wall).after _

theorem Filter.Twin.afterAdmission (h : f₁.Twin f₂) (hc : f₁.config.Certain) (b : Buffer)
    (wall : Nat) : Outcome.Twin (f₁.afterAdmission b wall) (f₂.afterAdmission b wall) := by
  have hdrop := hc.2.1
  have hdup := hc.2.2.1
  by_cases h0 : 0 < f₁.config.dropPackets
  · rw [Filter.afterAdmission_countdown h0, Filter.afterAdmission_countdown (h.config ▸ h0),
      ← h.config]
    apply Outcome.Twin.of_filter
    apply Filter.Twin.count
    exact ⟨rfl, h.bucket, h.pair, h.stats, h.loop, h.sink⟩
  have h0₂ : ¬ 0 < f₂.config.dropPackets := h.config ▸ h0
  rcases hr₁ : f₁.gen.roll f₁.config.dropProbability with ⟨drop, g₁⟩
  rcases hr₂ : f₂.gen.roll f₂.config.dropProbability with ⟨drop₂, g₂⟩
  have hr₂' : f₂.gen.roll f₁.config.dropProbability = (drop₂, g₂) := by rw [h.config]; exact hr₂
  obtain rfl := Generator.roll_agree hdrop hr₁ hr₂'
  cases drop
  · rcases hd₁ : g₁.roll f₁.config.duplicateProbability with ⟨dup, g₁'⟩
    rcases hd₂ : g₂.roll f₂.config.duplicateProbability with ⟨dup₂, g₂'⟩
    have hd₂' : g₂.roll f₁.config.duplicateProbability = (dup₂, g₂') := by rw [h.config]; exact hd₂
    obtain rfl := Generator.roll_agree hdup hd₁ hd₂'
    cases dup
    · rw [Filter.afterAdmission_single h0 hr₁ hd₁, Filter.afterAdmission_single h0₂ hr₂ hd₂]
      exact (h.regen g₁' g₂').forward hc b wall
    · rw [Filter.afterAdmission_duplicated h0 hr₁ hd₁,
        Filter.afterAdmission_duplicated h0₂ hr₂ hd₂]
      have h1 := ((h.regen g₁' g₂').count
        fun s => { s with duplicated := s.duplicated + 1 }).forward hc b wall
      have h2 := h1.filter.forward (by rw [(Filter.forward_frame _ b wall).1]; exact hc) b wall
      exact ⟨h2.filter, by simp only [h1.events, h2.events], h2.value⟩
  · rw [Filter.afterAdmission_dropped h0 hr₁, Filter.afterAdmission_dropped h0₂ hr₂]
    exact Outcome.Twin.of_filter ((h.regen g₁ g₂).count _) _ _

theorem Filter.Twin.chain (h : f₁.Twin f₂) (hc : f₁.config.Certain) (hs : f₁.Synced)
    (b : Buffer) (now₁ now₂ : Option Nat) (wall : Nat) :
    Outcome.Twin (f₁.chain b now₁ wall) (f₂.chain b now₂ wall) := by
  have hblind : f₁.bucket.maxKbps.toInt ≤ 0 ∨ f₁.bucket.maxBucketSize.toInt < 0 := by
    rw [hs.1, hs.2]
    exact hc.2.2.2.2
  rcases ha₁ : f₁.bucket.admit b.bits now₁ with ⟨ok, bucket₁⟩
  rcases ha₂ : f₂.bucket.admit b.bits now₂ with ⟨ok₂, bucket₂⟩
  obtain ⟨rfl, hmark⟩ := Bucket.admit_unmarked h.bucket hblind ha₁ ha₂
  have ht : ({ f₁ with bucket := bucket₁ } : Filter).Twin { f₂ with bucket := bucket₂ } :=
    ⟨h.config, hmark, h.pair, h.stats, h.loop, h.sink⟩
  cases ok
  · rw [Filter.chain_rejected ha₁, Filter.chain_rejected ha₂]
    exact Outcome.Twin.of_filter (ht.count _) _ _
  · rw [Filter.chain_admitted ha₁, Filter.chain_admitted ha₂]
    exact ((ht.count _).afterAdmission hc b wall).after _

/-! ### The controls -/

theorem Filter.Twin.setConfig (h : f₁.Twin f₂) (c : Config) :
    (f₁.setConfig c).Twin (f₂.setConfig c) :=
  ⟨rfl, by simp only [Filter.setConfig, Bucket.unmarked_setMaxBucketSize,
    Bucket.unmarked_setMaxKbps, h.bucket], h.pair, h.stats, h.loop, h.sink⟩

theorem Filter.Twin.activate (h : f₁.Twin f₂) : f₁.activate.Twin f₂.activate := by
  refine Filter.Twin.elim f₁ f₂ h fun c g₁ g₂ b₁ b₂ pair s l sink hb => ?_
  cases l
  · -- a reset forgets the marks, so the two buckets become equal
    refine ⟨rfl, ?_, rfl, rfl, rfl, rfl⟩
    simp only [Filter.activate, Filter.isActive, Option.isSome_none, Bool.false_eq_true,
      if_false, Bucket.reset_eq_refill]
    rw [hb]
  · exact ⟨rfl, hb, rfl, rfl, rfl, rfl⟩

theorem Filter.Twin.deactivate (h : f₁.Twin f₂) : f₁.deactivate.Twin f₂.deactivate := by
  refine Filter.Twin.elim f₁ f₂ h fun c g₁ g₂ b₁ b₂ pair s l sink hb => ?_
  cases l <;> exact ⟨rfl, hb, rfl, rfl, rfl, rfl⟩

theorem Filter.Twin.receive (h : f₁.Twin f₂) : f₁.receive.Twin f₂.receive :=
  ⟨h.config, h.bucket, h.pair, h.stats, by simp only [Filter.receive, h.loop], h.sink⟩

/-- **Every operation keeps twins twins**, under a certain configuration, whatever the two clock
readings. -/
theorem Filter.Twin.exec (h : f₁.Twin f₂) (hc : f₁.config.Certain) (hs : f₁.Synced)
    (reading₁ reading₂ : Option Nat) (op : Filter.Op) :
    Outcome.Twin (f₁.exec reading₁ op) (f₂.exec reading₂ op) := by
  cases op with
  | chain b wall =>
    have ho := h.chain hc hs b reading₁ reading₂ wall
    exact ⟨ho.filter, ho.events, congrArg Filter.Answer.flow ho.value⟩
  | setProperty name value =>
    rcases hp : Property.ofName? name with _ | p
    · simp only [Filter.exec, Filter.setProperty, hp]
      exact ⟨h, rfl, rfl⟩
    rcases hset₁ : f₁.config.set p value with e | c
    · have hset₂ : f₂.config.set p value = .error e := h.config ▸ hset₁
      simp only [Filter.exec, Filter.setProperty, hp, hset₁, hset₂]
      exact ⟨h, rfl, rfl⟩
    · have hset₂ : f₂.config.set p value = .ok c := h.config ▸ hset₁
      simp only [Filter.exec, Filter.setProperty, hp, hset₁, hset₂]
      refine ⟨⟨rfl, ?_, h.pair, h.stats, h.loop, h.sink⟩, rfl, rfl⟩
      cases p <;> simp [Bucket.unmarked_setMaxKbps, Bucket.unmarked_setMaxBucketSize, h.bucket]
  | setConfig c => exact ⟨h.setConfig c, rfl, rfl⟩
  | reseed seed => exact ⟨h.regen _ _, rfl, rfl⟩
  | activate => exact ⟨h.activate, rfl, rfl⟩
  | deactivate => exact ⟨h.deactivate, rfl, rfl⟩
  | receive => exact ⟨h.receive, rfl, rfl⟩
  | fire now =>
    have ho := h.fire now
    exact ⟨ho.filter, ho.events, rfl⟩

/-- **Twin runs**: from twins, the same operations under certain configurations give twins and
the same events and answers, whatever the two clocks read. -/
theorem Filter.Twin.run (h : f₁.Twin f₂) (hs : f₁.Synced) (clock₁ clock₂ : Stream' (Option Nat))
    (ops : List Filter.Op) (hc : ∀ f ∈ f₁.states clock₁ ops, f.config.Certain) :
    (f₁.run clock₁ ops).1.Twin (f₂.run clock₂ ops).1 ∧
      (f₁.run clock₁ ops).2 = (f₂.run clock₂ ops).2 := by
  induction ops generalizing f₁ f₂ clock₁ clock₂ with
  | nil => exact ⟨h, rfl⟩
  | cons op ops ih =>
    have hstep := h.exec (hc f₁ (by simp [Filter.states])) hs clock₁.head clock₂.head op
    have hrest := ih hstep.filter (hs.exec clock₁.head op) clock₁.tail clock₂.tail
      fun f hf => hc f (by simp [Filter.states, hf])
    refine ⟨hrest.1, ?_⟩
    simp only [Filter.run, hstep.events, hstep.value, hrest.2]

/-- **Certain configurations make a filter blind to its seed and its clock.** Two new filters with
the same configuration and downstream but any two generators, run through the same operations
with any two clocks, agree on everything they answer and everything they keep, as long as every
configuration in force is certain: the same events and answers at every operation, the same
pushes downstream in the same order, the same counters, the same configuration (the drop
countdown with it) and the same deliveries waiting in the loop. -/
theorem certain_runs_agree (c : Config) (g₁ g₂ : Generator) (sink : Downstream)
    (clock₁ clock₂ : Stream' (Option Nat)) (ops : List Filter.Op)
    (hc : ∀ f ∈ (Filter.new c g₁ sink).states clock₁ ops, f.config.Certain) :
    let r₁ := (Filter.new c g₁ sink).run clock₁ ops
    let r₂ := (Filter.new c g₂ sink).run clock₂ ops
    r₁.2 = r₂.2 ∧ r₁.1.sink = r₂.1.sink ∧ r₁.1.stats = r₂.1.stats ∧
      r₁.1.config = r₂.1.config ∧ r₁.1.loop = r₂.1.loop := by
  intro r₁ r₂
  have h : (Filter.new c g₁ sink).Twin (Filter.new c g₂ sink) := ⟨rfl, rfl, rfl, rfl, rfl, rfl⟩
  obtain ⟨ht, htrace⟩ := h.run (Filter.Synced.new c g₁ sink) clock₁ clock₂ ops hc
  exact ⟨htrace, ht.sink, ht.stats, ht.config, ht.loop⟩

/-- A filter that delays and duplicates every buffer with chance `+∞`, by a fixed delay, behind
a bucket of rate zero, run with two seeds and two clocks, one of them silent. -/
theorem certain_runs_agree_two_seeds :
    (∀ f ∈ (Filter.new { Config.default with
          minDelay := 20, maxDelay := 10, delayProbability := ⟨0x7F800000⟩,
          duplicateProbability := ⟨0x7F800000⟩, maxKbps := 0, maxBucketSize := 1 }
        (Generator.ofSeed 1) Downstream.accepting).states (fun n => some (1000 * n))
        [.chain (Buffer.filled 60 7 none) 0, .activate, .chain (Buffer.filled 60 7 none) 5,
          .fire 100000000, .chain (Buffer.filled 60 7 none) 9, .deactivate],
      f.config.Certain) ∧
    let c : Config := { Config.default with
      minDelay := 20, maxDelay := 10, delayProbability := ⟨0x7F800000⟩,
      duplicateProbability := ⟨0x7F800000⟩, maxKbps := 0, maxBucketSize := 1 }
    let ops : List Filter.Op := [.chain (Buffer.filled 60 7 none) 0, .activate,
      .chain (Buffer.filled 60 7 none) 5, .fire 100000000, .chain (Buffer.filled 60 7 none) 9,
      .deactivate]
    let r₁ := (Filter.new c (Generator.ofSeed 1) Downstream.accepting).run
      (fun n => some (1000 * n)) ops
    let r₂ := (Filter.new c (Generator.ofSeed 2) Downstream.accepting).run (fun _ => none) ops
    r₁.2 = r₂.2 ∧ r₁.1.sink = r₂.1.sink ∧ r₁.1.stats = r₂.1.stats ∧
      r₁.1.config = r₂.1.config ∧ r₁.1.loop = r₂.1.loop := by
  have h : ∀ f ∈ (Filter.new { Config.default with
        minDelay := 20, maxDelay := 10, delayProbability := ⟨0x7F800000⟩,
        duplicateProbability := ⟨0x7F800000⟩, maxKbps := 0, maxBucketSize := 1 }
      (Generator.ofSeed 1) Downstream.accepting).states (fun n => some (1000 * n))
      [.chain (Buffer.filled 60 7 none) 0, .activate, .chain (Buffer.filled 60 7 none) 5,
        .fire 100000000, .chain (Buffer.filled 60 7 none) 9, .deactivate],
      f.config.Certain := by
    decide
  exact ⟨h, certain_runs_agree _ _ _ _ _ _ _ h⟩

end TrafficShaper
