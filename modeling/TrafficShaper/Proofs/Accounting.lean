import TrafficShaper.Proofs.Arrival

/-! # Every buffer is accounted for

A buffer that reaches a filter ends in exactly one place: it is rejected by the token bucket,
dropped (by the countdown or by chance), forwarded at once, forwarded later by the delivery loop,
discarded when the loop stops, or still held by the loop. A duplicated buffer counts once more,
for its second copy. The downstream is pushed exactly the forwarded buffers, and their sizes add
up to the bytes forwarded.

The counters move in several places: the arrival of a buffer, each of its forwards (pushed at
once, posted to the loop, or pushed at once because the filter is inactive), a delivery by the
loop, and deactivation. So the ledger carries a count of buffers *owed*: committed to a place by
the arrival path and not yet placed. Each step of the arrival path settles one of them, and a
firing of the loop turns held deliveries into owed ones and settles them one by one.

* `Filter.Ledger`: the balance, and the downstream's log;
* `Filter.Ledger.exec`: every operation keeps it;
* `every_buffer_accounted`: it holds after every run from a new filter.
-/

namespace TrafficShaper

open TrafficShaper.Random

/-- **The ledger of a filter** whose downstream had logged `base` when the filter was made, with
`owed` buffers still to be placed: what was received, with the extra copies, is what was
rejected, dropped, forwarded, discarded, held by the loop or owed; and the downstream's log is
`base` followed by the forwarded buffers, whose sizes add up to the bytes forwarded. -/
structure Filter.Ledger (base : List Buffer) (owed : Nat) (f : Filter) : Prop where
  balance : f.stats.received + f.stats.duplicated = f.stats.rejected + f.stats.dropped +
    f.stats.forwardedTotal + f.stats.discardedOnStop + f.held + owed
  log : ∃ pushed : List Buffer, f.sink.log.toList = base ++ pushed ∧
    pushed.length = f.stats.forwardedTotal ∧ (pushed.map Buffer.size).sum = f.stats.bytesForwarded

variable {base : List Buffer} {n : Nat} {f : Filter}

theorem Filter.Ledger.new (c : Config) (g : Generator) (sink : Downstream) :
    (Filter.new c g sink).Ledger sink.log.toList 0 :=
  ⟨rfl, [], by simp [Filter.new], rfl, rfl⟩

theorem Filter.Ledger.frame (h : f.Ledger base n) (c : Config) (g : Generator) (bucket : Bucket)
    (pair : NormalPair) (delayed : Nat) :
    ({ f with
        config := c, gen := g, bucket := bucket, pair := pair,
        stats := { f.stats with delayed := delayed } } : Filter).Ledger base n :=
  ⟨h.balance, h.log⟩

/-! ## The arrival path -/

theorem Filter.Ledger.pushNow (h : f.Ledger base (n + 1)) (b : Buffer) :
    (f.pushNow b).filter.Ledger base n := by
  obtain ⟨hbal, pushed, hlog, hlen, hsum⟩ := h
  refine ⟨?_, pushed ++ [b], ?_, ?_, ?_⟩
  · simp only [Filter.pushNow, Filter.count, Filter.held, Stats.forwardedTotal] at hbal ⊢
    omega
  · simp [Filter.pushNow, Filter.count, Downstream.push, hlog]
  · simp only [Filter.pushNow, Filter.count, Stats.forwardedTotal] at hlen ⊢
    simp only [List.length_append, List.length_singleton]
    omega
  · simp [Filter.pushNow, Filter.count, hsum]

theorem Filter.Ledger.schedule (h : f.Ledger base (n + 1)) (ms : Nat) (b : Buffer) (wall : Nat) :
    (f.schedule ms b wall).filter.Ledger base n := by
  unfold Filter.schedule
  split
  · next l hl =>
    obtain ⟨hbal, hlog⟩ := h
    refine ⟨?_, hlog⟩
    simp only [Filter.held, hl] at hbal ⊢
    simp only [Loop.size_post]
    omega
  · exact h.pushNow b

theorem Filter.Ledger.forward (h : f.Ledger base (n + 1)) (b : Buffer) (wall : Nat) :
    (f.forward b wall).filter.Ledger base n := by
  rcases hr : f.gen.roll f.config.delayProbability with ⟨_ | _, g⟩
  · rw [Filter.forward_now hr]
    exact (h.frame f.config g f.bucket f.pair f.stats.delayed).pushNow b
  · rcases hs : f.config.distribution.sample g f.config.minDelay f.config.maxDelay f.pair
      with ⟨ms, pair, g'⟩
    rw [Filter.forward_delayed hr hs]
    exact (h.frame f.config g' f.bucket pair (f.stats.delayed + 1)).schedule ms b wall

theorem Filter.Ledger.afterAdmission (h : f.Ledger base 1) (b : Buffer) (wall : Nat) :
    (f.afterAdmission b wall).filter.Ledger base 0 := by
  obtain ⟨hbal, hlog⟩ := h
  by_cases h0 : 0 < f.config.dropPackets
  · rw [Filter.afterAdmission_countdown h0]
    exact ⟨by simp only [Filter.count, Filter.held, Stats.forwardedTotal] at hbal ⊢; omega, hlog⟩
  rcases hr : f.gen.roll f.config.dropProbability with ⟨_ | _, g⟩
  · rcases hd : g.roll f.config.duplicateProbability with ⟨_ | _, g'⟩
    · rw [Filter.afterAdmission_single h0 hr hd]
      exact (Filter.Ledger.frame ⟨hbal, hlog⟩ f.config g' f.bucket f.pair f.stats.delayed).forward
        b wall
    · rw [Filter.afterAdmission_duplicated h0 hr hd]
      have h2 : (({ f with gen := g' } : Filter).count
          fun s => { s with duplicated := s.duplicated + 1 }).Ledger base 2 :=
        ⟨by simp only [Filter.count, Filter.held, Stats.forwardedTotal] at hbal ⊢; omega, hlog⟩
      exact (h2.forward b wall).forward b wall
  · rw [Filter.afterAdmission_dropped h0 hr]
    exact ⟨by simp only [Filter.count, Filter.held, Stats.forwardedTotal] at hbal ⊢; omega, hlog⟩

theorem Filter.Ledger.chain (h : f.Ledger base 0) (b : Buffer) (now : Option Nat) (wall : Nat) :
    (f.chain b now wall).filter.Ledger base 0 := by
  obtain ⟨hbal, hlog⟩ := h
  rcases ha : f.bucket.admit b.bits now with ⟨_ | _, bucket⟩
  · rw [Filter.chain_rejected ha]
    exact ⟨by simp only [Filter.count, Filter.held, Stats.forwardedTotal] at hbal ⊢; omega, hlog⟩
  · rw [Filter.chain_admitted ha]
    have h1 : (({ f with bucket := bucket } : Filter).count
        fun s => { s with received := s.received + 1 }).Ledger base 1 :=
      ⟨by simp only [Filter.count, Filter.held, Stats.forwardedTotal] at hbal ⊢; omega, hlog⟩
    exact h1.afterAdmission b wall

/-! ## The delivery loop and the controls -/

theorem Filter.Ledger.deliver (h : f.Ledger base (n + 1)) (b : Buffer) :
    (f.deliver b).filter.Ledger base n := by
  obtain ⟨hbal, pushed, hlog, hlen, hsum⟩ := h
  refine ⟨?_, pushed ++ [b], ?_, ?_, ?_⟩
  · simp only [Filter.deliver, Filter.count, Filter.held, Stats.forwardedTotal] at hbal ⊢
    omega
  · simp [Filter.deliver, Filter.count, Downstream.push, hlog]
  · simp only [Filter.deliver, Filter.count, Stats.forwardedTotal] at hlen ⊢
    simp only [List.length_append, List.length_singleton]
    omega
  · simp [Filter.deliver, Filter.count, hsum]

theorem Filter.Ledger.deliverAll :
    ∀ (ps : List Pending) (f : Filter), f.Ledger base (n + ps.length) →
      (f.deliverAll ps).filter.Ledger base n
  | [], _, h => h
  | p :: ps, f, h => by
    have h' : f.Ledger base (n + ps.length + 1) := by
      simpa only [List.length_cons, Nat.add_assoc] using h
    exact Filter.Ledger.deliverAll ps _ (h'.deliver p.buffer)

theorem Filter.Ledger.fire (h : f.Ledger base 0) (now : Nat) :
    (f.fire now).filter.Ledger base 0 := by
  unfold Filter.fire
  split
  · exact h
  · next l hl =>
    obtain ⟨hbal, hlog⟩ := h
    apply Filter.Ledger.deliverAll
    refine ⟨?_, hlog⟩
    have hdue := Loop.size_due l now
    simp only [Filter.held, hl] at hbal ⊢
    omega

theorem Filter.Ledger.receive (h : f.Ledger base 0) : f.receive.Ledger base 0 := by
  obtain ⟨hbal, hlog⟩ := h
  refine ⟨?_, hlog⟩
  unfold Filter.receive Filter.held at *
  cases hl : f.loop with
  | none => simpa [hl] using hbal
  | some l => simpa [hl] using hbal

theorem Filter.Ledger.deactivate (h : f.Ledger base 0) : f.deactivate.Ledger base 0 := by
  obtain ⟨hbal, hlog⟩ := h
  unfold Filter.deactivate
  split
  · exact ⟨hbal, hlog⟩
  · next l hl =>
    refine ⟨?_, hlog⟩
    simp only [Filter.count, Filter.held, Stats.forwardedTotal, hl] at hbal ⊢
    omega

theorem Filter.Ledger.activate (h : f.Ledger base 0) : f.activate.Ledger base 0 := by
  obtain ⟨hbal, hlog⟩ := h
  unfold Filter.activate Filter.isActive
  split
  · exact ⟨hbal, hlog⟩
  · next hact =>
    refine ⟨?_, hlog⟩
    have hnone : f.loop = none := by simpa using hact
    simp only [Filter.held, hnone] at hbal ⊢
    simpa [Loop.size, Loop.empty] using hbal

theorem Filter.Ledger.setProperty (h : f.Ledger base 0) {name value : String} {f' : Filter}
    (hset : f.setProperty name value = .ok f') : f'.Ledger base 0 := by
  rw [Filter.setProperty_frame hset]
  exact h.frame _ f.gen _ f.pair f.stats.delayed

/-- **Every operation keeps the ledger.** -/
theorem Filter.Ledger.exec (h : f.Ledger base 0) (reading : Option Nat) (op : Filter.Op) :
    (f.exec reading op).filter.Ledger base 0 := by
  cases op with
  | chain b wall => exact h.chain b reading wall
  | setProperty name value =>
    simp only [Filter.exec]
    split
    · next f' hset => exact h.setProperty hset
    · exact h
  | setConfig c => exact h.frame c f.gen _ f.pair f.stats.delayed
  | reseed seed => exact h.frame f.config _ f.bucket f.pair f.stats.delayed
  | activate => exact h.activate
  | deactivate => exact h.deactivate
  | receive => exact h.receive
  | fire now => exact h.fire now

/-- **Buffer accounting over whole runs.** After any run of a new filter, with any clock
readings: what was received, less what was rejected and dropped, with the duplicates, is what
was forwarded at once or late, discarded on stop, or is still held by the delivery loop; the
downstream has been pushed exactly the forwarded buffers, whose sizes add up to the bytes
forwarded; and while the filter is inactive nothing is held, so forwarded and discarded buffers
account for everything. -/
theorem every_buffer_accounted (c : Config) (g : Generator) (sink : Downstream)
    (clock : Stream' (Option Nat)) (ops : List Filter.Op) :
    let f := ((Filter.new c g sink).run clock ops).1
    ((f.stats.received : Int) - f.stats.rejected - f.stats.dropped + f.stats.duplicated =
        f.stats.forwardedImmediate + f.stats.forwardedDelayed + f.stats.discardedOnStop +
          f.held) ∧
      (∃ pushed : List Buffer, f.sink.log.toList = sink.log.toList ++ pushed ∧
        pushed.length = f.stats.forwardedImmediate + f.stats.forwardedDelayed ∧
        (pushed.map Buffer.size).sum = f.stats.bytesForwarded) ∧
      (f.loop = none → (f.stats.forwardedTotal + f.stats.discardedOnStop : Int) =
        f.stats.received - f.stats.rejected - f.stats.dropped + f.stats.duplicated) := by
  intro f
  have h : f.Ledger sink.log.toList 0 :=
    Filter.run_invariant _ (fun _ reading op h => h.exec reading op) _ clock ops
      (Filter.Ledger.new c g sink)
  obtain ⟨hbal, hlog⟩ := h
  refine ⟨?_, hlog, fun hnone => ?_⟩
  · simp only [Stats.forwardedTotal] at hbal
    omega
  · simp only [Filter.held, hnone, Stats.forwardedTotal] at hbal ⊢
    omega

end TrafficShaper
