import TrafficShaper.Proofs.Grant

/-! # The clock mark stays within the readings

A token bucket keeps a clock mark up to which elapsed time has been paid for in tokens. The first
reading at a limited rate sets it; each later reading moves it forward by the cost of the tokens
it grants, rounded down to whole nanoseconds; a new bucket and a reset forget it. Nothing else
touches it: not a new rate or capacity, not an unlimited rate, not a call without a reading.

The cost of a grant is at most the time since the mark, even when the count of tokens is cut to
64 bits, since cutting only lowers it. So a reading never moves the mark past itself, the mark
stays at most the largest reading passed since it was last forgotten, and its 64-bit sum never
wraps.

* `Bucket.Op`, `Bucket.runOps`: the operations on a bucket, and runs of them;
* `costOf_tokensFor`: the cost of a grant is at most the time it pays for;
* `Bucket.tokensAvailable_moves`: a reading moves a set mark by exactly that cost;
* `Bucket.MarkWithin.runOps`: the mark stays within the readings, over every run;
* `Bucket.mark_within_readings`: both facts, as the bucket's safety property.
-/

namespace TrafficShaper

/-- **An operation on a token bucket**: a new bucket, a new rate, a new capacity, a reset, a
reading of the tokens available, or the admission of a buffer of a number of bits. -/
inductive Bucket.Op where
  | new (maxKbps maxBucketSize : Int32)
  | setMaxKbps (v : Int32)
  | setMaxBucketSize (v : Int32)
  | reset
  | tokensAvailable (now : Option Nat)
  | admission (bits : Nat) (now : Option Nat)

/-- The clock reading an operation passes, if it passes one. -/
def Bucket.Op.reading : Bucket.Op → Option Nat
  | .tokensAvailable now => now
  | .admission _ now => now
  | _ => none

/-- **One operation** on a bucket. -/
def Bucket.exec (b : Bucket) : Bucket.Op → Bucket
  | .new maxKbps maxBucketSize => Bucket.new maxKbps maxBucketSize
  | .setMaxKbps v => b.setMaxKbps v
  | .setMaxBucketSize v => b.setMaxBucketSize v
  | .reset => b.reset
  | .tokensAvailable now => (b.tokensAvailable now).2
  | .admission bits now =>
    let after := b.admit bits now
    after.2

/-- **A run of operations**, one after the other. -/
def Bucket.runOps (b : Bucket) (ops : List Bucket.Op) : Bucket := ops.foldl Bucket.exec b

/-- The clock readings a run passes, in order. -/
def Bucket.passed (ops : List Bucket.Op) : List Nat := ops.filterMap Bucket.Op.reading

theorem Bucket.passed_cons (op : Bucket.Op) (ops : List Bucket.Op) :
    Bucket.passed (op :: ops) = op.reading.toList ++ Bucket.passed ops := by
  unfold Bucket.passed
  rw [List.filterMap_cons]
  cases op.reading <;> rfl

theorem Bucket.runOps_append (b : Bucket) (ops ops' : List Bucket.Op) :
    b.runOps (ops ++ ops') = (b.runOps ops).runOps ops' :=
  List.foldl_append

/-! ## One reading -/

/-- **The cost of a grant is at most the time it pays for**, with the count of tokens cut to 64
bits or not; so the cost fits its word and is not cut. -/
theorem costOf_tokensFor {e : Nat} (r : Nat) (he : e < 2 ^ 64) :
    costOf (tokensFor e r) r = tokensFor e r * nanosPerSecond / r ∧
      tokensFor e r * nanosPerSecond / r ≤ e := by
  have hcut : tokensFor e r ≤ e * r / nanosPerSecond := Nat.mod_le _ _
  have hle : tokensFor e r * nanosPerSecond / r ≤ e :=
    calc tokensFor e r * nanosPerSecond / r
        ≤ e * r / nanosPerSecond * nanosPerSecond / r :=
          Nat.div_le_div_right (Nat.mul_le_mul_right _ hcut)
      _ ≤ e := cost_le_elapsed e r
  exact ⟨wrap64_of_lt (by omega), hle⟩

variable {b : Bucket} {r p t : Nat}

/-- **A reading moves a set mark by the cost of its grant**, at a limited rate: the grant pays
for the time since the mark (none if the clock went back, or at a zero rate, where the cost is
taken as zero), and the mark moves by exactly its cost. -/
theorem Bucket.tokensAvailable_moves (hr : b.rate = some r) (hp : b.prevTime = some p)
    (hp64 : p < 2 ^ 64) (ht : t < 2 ^ 64) :
    (b.tokensAvailable (some t)).2.prevTime =
      some (p + tokensFor (t - p) r * nanosPerSecond / r) := by
  obtain ⟨hcost, hle⟩ := costOf_tokensFor r (show t - p < 2 ^ 64 by omega)
  unfold Bucket.tokensAvailable
  simp only [hr, hp]
  by_cases htp : t < p
  · -- a clock going back pays for nothing and leaves the mark
    have hzero : t - p = 0 := by omega
    by_cases hr0 : r = 0 <;> simp [htp, hr0, hzero, hp, wrap64_of_lt hp64]
  · by_cases hr0 : r = 0
    · simp [htp, hr0, hp]
    · simp only [htp, hr0, if_false, hp, Option.map_some, hcost]
      rw [wrap64_of_lt (by omega)]

theorem Bucket.refill_prevTime (b : Bucket) : b.refill.prevTime = b.prevTime := by
  unfold Bucket.refill
  split <;> rfl

theorem Bucket.tokensAvailable_mark (b : Bucket) {now : Option Nat} (hnow : ∀ t ∈ now, t < 2 ^ 64)
    (hb : ∀ p ∈ b.prevTime, p < 2 ^ 64) {p' : Nat}
    (h : (b.tokensAvailable now).2.prevTime = some p') :
    b.prevTime = some p' ∨ ∃ t ∈ now, p' ≤ t := by
  cases hr : b.rate with
  | none =>
    left
    simpa [Bucket.tokensAvailable, hr] using h
  | some r =>
    cases now with
    | none =>
      left
      simpa [Bucket.tokensAvailable_none hr] using h
    | some t =>
      have ht := hnow t rfl
      cases hp : b.prevTime with
      | none =>
        rw [Bucket.tokensAvailable_first hr hp ht] at h
        exact Or.inr ⟨t, rfl, (Option.some.inj h).ge⟩
      | some p =>
        rw [Bucket.tokensAvailable_moves hr hp (hb p hp) ht, Option.some.injEq] at h
        have hle := (costOf_tokensFor r (show t - p < 2 ^ 64 by omega)).2
        generalize tokensFor (t - p) r * nanosPerSecond / r = cost at h hle
        by_cases htp : t < p
        · left
          rw [← h, show cost = 0 by omega, Nat.add_zero]
        · exact Or.inr ⟨t, rfl, by omega⟩

theorem Bucket.admit_prevTime {b' : Bucket} {ok : Bool} {bits : Nat} {now : Option Nat}
    (ha : b.admit bits now = (ok, b')) :
    b'.prevTime = b.prevTime ∨ b'.prevTime = (b.tokensAvailable now).2.prevTime := by
  unfold Bucket.admit at ha
  split at ha
  · cases ha
    exact Or.inl rfl
  · right
    cases ht : b.tokensAvailable now with
    | mk grant b'' =>
      rw [ht] at ha
      simp only at ha
      split at ha <;> cases ha <;> rfl

/-! ## Runs -/

/-- **The mark within the readings `seen`**: unset, or at most one of them. -/
def Bucket.MarkWithin (seen : List Nat) (b : Bucket) : Prop :=
  ∀ p, b.prevTime = some p → ∃ t ∈ seen, p ≤ t

variable {seen : List Nat}

theorem Bucket.markWithin_of_none (h : b.prevTime = none) : b.MarkWithin seen := by
  intro p hp
  rw [h] at hp
  cases hp

theorem Bucket.MarkWithin.lt (h : b.MarkWithin seen) (hseen : ∀ t ∈ seen, t < 2 ^ 64) :
    ∀ p ∈ b.prevTime, p < 2 ^ 64 := by
  intro p hp
  obtain ⟨t, ht, hpt⟩ := h p hp
  exact lt_of_le_of_lt hpt (hseen t ht)

theorem Bucket.MarkWithin.mono {seen' : List Nat} (h : b.MarkWithin seen) (hsub : seen ⊆ seen') :
    b.MarkWithin seen' := by
  intro p hp
  obtain ⟨t, ht, hle⟩ := h p hp
  exact ⟨t, hsub ht, hle⟩

theorem Bucket.MarkWithin.tokensAvailable (h : b.MarkWithin seen) (hseen : ∀ t ∈ seen, t < 2 ^ 64)
    {now : Option Nat} (hnow : ∀ t ∈ now, t < 2 ^ 64) :
    (b.tokensAvailable now).2.MarkWithin (seen ++ now.toList) := by
  intro p' hp'
  rcases b.tokensAvailable_mark hnow (h.lt hseen) hp' with hp | ⟨t, ht, hle⟩
  · exact h.mono (List.subset_append_left _ _) p' hp
  · exact ⟨t, List.mem_append_right _ (Option.mem_toList.2 ht), hle⟩

theorem Bucket.MarkWithin.exec (h : b.MarkWithin seen) (hseen : ∀ t ∈ seen, t < 2 ^ 64)
    (op : Bucket.Op) (hop : ∀ t ∈ op.reading, t < 2 ^ 64) :
    (b.exec op).MarkWithin (seen ++ op.reading.toList) := by
  have hkeep : ∀ b' : Bucket, b'.prevTime = b.prevTime → b'.MarkWithin (seen ++ op.reading.toList) :=
    fun b' hb' p hp => h.mono (List.subset_append_left _ _) p (hb' ▸ hp)
  cases op with
  | new maxKbps maxBucketSize =>
    exact Bucket.markWithin_of_none (Bucket.refill_prevTime _)
  | setMaxKbps v => exact hkeep _ rfl
  | setMaxBucketSize v => exact hkeep _ (Bucket.refill_prevTime _)
  | reset => exact Bucket.markWithin_of_none (Bucket.refill_prevTime _)
  | tokensAvailable now => exact h.tokensAvailable hseen hop
  | admission bits now =>
    rcases ha : b.admit bits now with ⟨ok, b'⟩
    have hexec : b.exec (.admission bits now) = b' := by simp [Bucket.exec, ha]
    rw [hexec]
    rcases Bucket.admit_prevTime ha with hb' | hb'
    · exact hkeep _ hb'
    · intro p hp
      exact h.tokensAvailable hseen hop p (hb' ▸ hp)

/-- **Every run keeps the mark within the readings**, those it passes added. -/
theorem Bucket.MarkWithin.runOps (ops : List Bucket.Op) (h : b.MarkWithin seen)
    (hseen : ∀ t ∈ seen, t < 2 ^ 64) (hops : ∀ t ∈ Bucket.passed ops, t < 2 ^ 64) :
    (b.runOps ops).MarkWithin (seen ++ Bucket.passed ops) := by
  induction ops generalizing b seen with
  | nil => simpa [Bucket.runOps, Bucket.passed] using h
  | cons op ops ih =>
    rw [Bucket.passed_cons] at hops ⊢
    have hop : ∀ t ∈ op.reading, t < 2 ^ 64 := fun t ht =>
      hops t (List.mem_append_left _ (Option.mem_toList.2 ht))
    have hseen' : ∀ t ∈ seen ++ op.reading.toList, t < 2 ^ 64 := by
      intro t ht
      rcases List.mem_append.1 ht with ht | ht
      · exact hseen t ht
      · exact hop t (Option.mem_toList.1 ht)
    rw [← List.append_assoc]
    exact ih (h.exec hseen op hop) hseen' fun t ht => hops t (List.mem_append_right _ ht)

/-- **The clock mark stays within the readings, and its update never wraps.** Over every run of
a bucket, at every moment after the mark was last unset, a mark that is set is at most the
largest reading passed since then. And every reading `t` of a bucket at a limited rate `r` with a
mark `p`, both within 64 bits, grants the `n` tokens that the time since the mark pays for, cut to
64 bits, whose cost `⌊n·10⁹ / r⌋` is at most that time (nothing if the clock went back), is not
cut itself, and moves the mark to `p` plus that cost without wrapping. -/
theorem Bucket.mark_within_readings :
    (∀ (b : Bucket) (before after : List Bucket.Op), (b.runOps before).prevTime = none →
        (∀ t ∈ Bucket.passed after, t < 2 ^ 64) →
        ∀ p, (b.runOps (before ++ after)).prevTime = some p → ∃ t ∈ Bucket.passed after, p ≤ t) ∧
      ∀ (b : Bucket) (r p t : Nat), b.rate = some r → b.prevTime = some p → p < 2 ^ 64 →
        t < 2 ^ 64 →
        let n := tokensFor (t - p) r
        n * nanosPerSecond / r ≤ t - p ∧ costOf n r = n * nanosPerSecond / r ∧
          (b.tokensAvailable (some t)).2.prevTime = some (p + n * nanosPerSecond / r) ∧
          p + n * nanosPerSecond / r < 2 ^ 64 := by
  refine ⟨fun b before after hnone hafter p hp => ?_, fun b r p t hr hp hp64 ht => ?_⟩
  · have h0 : (b.runOps before).MarkWithin [] := Bucket.markWithin_of_none hnone
    have h := h0.runOps after (by simp) hafter
    rw [Bucket.runOps_append] at hp
    simpa using h p hp
  · obtain ⟨hcost, hle⟩ := costOf_tokensFor r (show t - p < 2 ^ 64 by omega)
    exact ⟨hle, hcost, Bucket.tokensAvailable_moves hr hp hp64 ht, by omega⟩

/-- At 6 kbps, readings at 0 and 333,333 ns and an admission at 333,333 ns leave the mark at
333,332 ns, two rounded-down token costs after the first reading. -/
theorem Bucket.mark_within_readings_6kbps :
    let ops := [Bucket.Op.tokensAvailable (some 0), .tokensAvailable (some 333333),
      .admission 8 (some 333333)]
    ((Bucket.new 6 100).runOps []).prevTime = none ∧ (∀ t ∈ Bucket.passed ops, t < 2 ^ 64) ∧
      ((Bucket.new 6 100).runOps ([] ++ ops)).prevTime = some 333332 ∧
      (∃ t ∈ Bucket.passed ops, 333332 ≤ t) ∧
      ((⟨0, some 0, 6, 100⟩ : Bucket).tokensAvailable (some 333333)).2.prevTime = some 166666 := by
  intro ops
  have hnone : ((Bucket.new 6 100).runOps []).prevTime = none := rfl
  have hops : ∀ t ∈ Bucket.passed ops, t < 2 ^ 64 := by decide
  have hmark : ((Bucket.new 6 100).runOps ([] ++ ops)).prevTime = some 333332 := by decide
  have hmove := (Bucket.mark_within_readings.2 ⟨0, some 0, 6, 100⟩ 6000 0 333333 (by decide) rfl
    (by decide) (by decide)).2.2.1
  refine ⟨hnone, hops, hmark, Bucket.mark_within_readings.1 _ [] ops hnone hops 333332 hmark, ?_⟩
  rw [hmove]
  decide

end TrafficShaper
