import TrafficShaper.Proofs.Certainty

/-! # The control state of a filter

The rate and the capacity of a filter live in two places: in its configuration, where the
properties read and write them, and in its token bucket, which enforces them. Every operation
keeps the two in step (`Filter.Synced`, from the module on certain configurations), and the
bucket never holds more than its capacity: a new capacity, an activation and a new filter fill
it exactly to the top, and admission tops it up no further. A property that is refused, for an
unknown name or a bad value, changes nothing at all.

* `Bucket.Within`: a limited bucket holds at most its capacity, kept by every bucket operation;
* `Filter.Consistent`, `Filter.Consistent.exec`: both facts together, kept by every operation;
* `filter_control_consistent`: they hold after every run of a new filter, and a refused property
  leaves the filter as it was.
-/

namespace TrafficShaper

open TrafficShaper.Random

/-! ## The bucket within its capacity -/

/-- **A bucket within its capacity**: when it is limited, it holds at most its capacity. -/
def Bucket.Within (b : Bucket) : Prop := ∀ c, b.capacity = some c → b.tokens ≤ c

variable {b b' : Bucket}

theorem Bucket.capacity_congr (h : b'.maxBucketSize = b.maxBucketSize) :
    b'.capacity = b.capacity := by
  simp only [Bucket.capacity, h]

theorem Bucket.within_refill (b : Bucket) : b.refill.Within := by
  intro c hc
  have hcap : b.refill.capacity = b.capacity :=
    Bucket.capacity_congr (Bucket.settings_refill b).2
  rw [hcap] at hc
  simp [Bucket.refill, hc]

theorem Bucket.Within.setMaxKbps (h : b.Within) (v : Int32) : (b.setMaxKbps v).Within := h

theorem Bucket.within_setMaxBucketSize (b : Bucket) (v : Int32) :
    (b.setMaxBucketSize v).Within :=
  Bucket.within_refill _

theorem Bucket.within_reset (b : Bucket) : b.reset.Within :=
  Bucket.within_refill _

theorem topUp_le (tokens : Nat) (grant : Int) (capacity : Nat) :
    topUp tokens grant capacity ≤ capacity := by
  unfold topUp
  omega

theorem Bucket.within_admit {ok : Bool} {bits : Nat} {now : Option Nat}
    (ha : b.admit bits now = (ok, b')) : b'.Within := by
  intro c hc
  obtain ⟨mark, tokens, rfl⟩ := Bucket.admit_moves_mark ha
  have hcap : b.capacity = some c := hc
  rcases ht : b.tokensAvailable now with ⟨grant, b''⟩
  obtain ⟨mark', hm⟩ := b.tokensAvailable_moves_mark now
  rw [ht] at hm
  simp only at hm
  subst hm
  unfold Bucket.admit at ha
  rw [hcap, ht] at ha
  simp only at ha
  have hle := topUp_le b.tokens grant c
  split at ha <;> cases ha <;> simp only <;> omega

/-! ## The filter -/

variable {f : Filter}

theorem Filter.afterAdmission_bucket (f : Filter) (b : Buffer) (wall : Nat) :
    (f.afterAdmission b wall).filter.bucket = f.bucket := by
  by_cases h0 : 0 < f.config.dropPackets
  · rw [Filter.afterAdmission_countdown h0]
    rfl
  rcases hr : f.gen.roll f.config.dropProbability with ⟨_ | _, g⟩
  · rcases hd : g.roll f.config.duplicateProbability with ⟨_ | _, g'⟩
    · rw [Filter.afterAdmission_single h0 hr hd]
      exact (Filter.forward_frame _ b wall).2
    · rw [Filter.afterAdmission_duplicated h0 hr hd]
      simp only
      rw [(Filter.forward_frame _ b wall).2, (Filter.forward_frame _ b wall).2]
      rfl
  · rw [Filter.afterAdmission_dropped h0 hr]
    rfl

theorem Filter.chain_bucket {bits : Buffer} {now : Option Nat} {wall : Nat} {ok : Bool}
    (ha : f.bucket.admit bits.bits now = (ok, b')) : (f.chain bits now wall).filter.bucket = b' := by
  cases ok
  · rw [Filter.chain_rejected ha]
    rfl
  · rw [Filter.chain_admitted ha]
    exact Filter.afterAdmission_bucket _ bits wall

/-- **A consistent control state**: the bucket runs at the configured rate and capacity, and
holds at most its capacity. -/
structure Filter.Consistent (f : Filter) : Prop where
  synced : f.Synced
  within : f.bucket.Within

theorem Filter.Consistent.new (c : Config) (g : Generator) (sink : Downstream) :
    (Filter.new c g sink).Consistent :=
  ⟨Filter.Synced.new c g sink, Bucket.within_refill _⟩

theorem Filter.within_setProperty (h : f.bucket.Within) {name value : String} {f' : Filter}
    (hset : f.setProperty name value = .ok f') : f'.bucket.Within := by
  rcases hp : Property.ofName? name with _ | p
  · simp [Filter.setProperty, hp] at hset
  rcases hc : f.config.set p value with e | c
  · simp [Filter.setProperty, hp, hc] at hset
  simp only [Filter.setProperty, hp, hc, Except.ok.injEq] at hset
  subst hset
  cases p with
  | maxKbps => exact h.setMaxKbps _
  | maxBucketSize => exact Bucket.within_setMaxBucketSize _ _
  | _ => exact h

/-- **Every operation keeps the control state consistent.** -/
theorem Filter.Consistent.exec (h : f.Consistent) (reading : Option Nat) (op : Filter.Op) :
    (f.exec reading op).filter.Consistent := by
  refine ⟨h.synced.exec reading op, ?_⟩
  cases op with
  | chain b wall =>
    rcases ha : f.bucket.admit b.bits reading with ⟨ok, b'⟩
    simp only [Filter.exec]
    rw [Filter.chain_bucket ha]
    exact Bucket.within_admit ha
  | setProperty name value =>
    simp only [Filter.exec]
    split
    · rename_i f' hset
      exact Filter.within_setProperty h.within hset
    · exact h.within
  | setConfig c => exact Bucket.within_setMaxBucketSize _ _
  | reseed seed => exact h.within
  | activate =>
    simp only [Filter.exec, Filter.activate]
    split
    · exact h.within
    · exact Bucket.within_reset _
  | deactivate =>
    simp only [Filter.exec, Filter.deactivate]
    split <;> exact h.within
  | receive => exact h.within
  | fire now =>
    simp only [Filter.exec, Filter.fire]
    split
    · exact h.within
    · rw [(Filter.deliverAll_frame _ _).2]
      exact h.within

/-- **The control state stays consistent.** After any run of a new filter, whatever the
configuration, generator, downstream, operations and clock: the bucket's rate and capacity are
the configured ones, a limited bucket (capacity setting at least zero) holds at most its
capacity in bits, and setting a property that is refused, by name or by value, leaves the filter
(configuration, bucket, generator and pair cache included) exactly as it was. -/
theorem filter_control_consistent (c : Config) (g : Generator) (sink : Downstream)
    (clock : Stream' (Option Nat)) (ops : List Filter.Op) :
    let f := ((Filter.new c g sink).run clock ops).1
    f.bucket.maxKbps = f.config.maxKbps ∧ f.bucket.maxBucketSize = f.config.maxBucketSize ∧
      (0 ≤ f.config.maxBucketSize.toInt →
        f.bucket.tokens ≤ f.config.maxBucketSize.toInt.toNat * 1000) ∧
      ∀ (reading : Option Nat) (name value : String) (e : Error),
        (f.exec reading (.setProperty name value)).value = .set (.error e) →
          (f.exec reading (.setProperty name value)).filter = f := by
  intro f
  have h : f.Consistent :=
    Filter.run_invariant _ (fun _ reading op h => h.exec reading op) _ clock ops
      (Filter.Consistent.new c g sink)
  obtain ⟨⟨hK, hB⟩, hw⟩ := h
  refine ⟨hK, hB, fun hpos => ?_, fun reading name value e herr => ?_⟩
  · -- the bucket's capacity is the configured one
    apply hw
    simp [Bucket.capacity, hB, hpos]
  · simp only [Filter.exec] at herr ⊢
    split at herr
    · cases herr
    · rfl

end TrafficShaper
