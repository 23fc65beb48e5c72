import TrafficShaper.Proofs.Run

/-! # The arrival path, branch by branch

An arriving buffer goes through the token bucket, the drop countdown, the drop chance, the
duplicate chance and the forwarding of each copy. Each decision is a branch of `Filter.chain`,
`Filter.afterAdmission` or `Filter.forward`; this module gives one equation for each branch,
named for the decision taken, so that later proofs split on the decisions and never unfold the
path again.

* `Filter.forward_now`, `Filter.forward_delayed`: a copy pushed at once, or delayed;
* `Filter.afterAdmission_countdown`, `_dropped`, `_duplicated`, `_single`;
* `Filter.chain_rejected`, `Filter.chain_admitted`.
-/

namespace TrafficShaper

open TrafficShaper.Random

variable {f : Filter} {b : Buffer} {wall : Nat} {g g' : Generator}

/-! ## Forwarding one copy -/

theorem Filter.forward_now (h : f.gen.roll f.config.delayProbability = (false, g)) :
    f.forward b wall = { f with gen := g }.pushNow b := by
  simp [Filter.forward, h]

theorem Filter.forward_delayed {ms : Nat} {pair : NormalPair}
    (h : f.gen.roll f.config.delayProbability = (true, g))
    (hs : f.config.distribution.sample g f.config.minDelay f.config.maxDelay f.pair =
      (ms, pair, g')) :
    f.forward b wall =
      let f' := ({ f with gen := g', pair := pair } : Filter).count
        fun s => { s with delayed := s.delayed + 1 }
      let o := f'.schedule ms b wall
      ⟨o.filter, [.delayed, .delayMs ms] ++ o.events, o.value⟩ := by
  simp [Filter.forward, h, hs]

/-! ## After admission -/

theorem Filter.afterAdmission_countdown (h : 0 < f.config.dropPackets) :
    f.afterAdmission b wall =
      ⟨({ f with config := { f.config with dropPackets := f.config.dropPackets - 1 } } :
          Filter).count fun s => { s with dropped := s.dropped + 1 },
        [.dropped .countdown], .ok ()⟩ := by
  simp [Filter.afterAdmission, h]

theorem Filter.afterAdmission_dropped (h0 : ¬ 0 < f.config.dropPackets)
    (h : f.gen.roll f.config.dropProbability = (true, g)) :
    f.afterAdmission b wall =
      ⟨({ f with gen := g } : Filter).count fun s => { s with dropped := s.dropped + 1 },
        [.dropped .probability], .ok ()⟩ := by
  simp [Filter.afterAdmission, h0, h]

theorem Filter.afterAdmission_duplicated (h0 : ¬ 0 < f.config.dropPackets)
    (h : f.gen.roll f.config.dropProbability = (false, g))
    (hd : g.roll f.config.duplicateProbability = (true, g')) :
    f.afterAdmission b wall =
      let f' := ({ f with gen := g' } : Filter).count
        fun s => { s with duplicated := s.duplicated + 1 }
      let first := f'.forward b wall
      let second := first.filter.forward b wall
      ⟨second.filter, .duplicated :: first.events ++ second.events, second.value⟩ := by
  simp [Filter.afterAdmission, h0, h, hd]

theorem Filter.afterAdmission_single (h0 : ¬ 0 < f.config.dropPackets)
    (h : f.gen.roll f.config.dropProbability = (false, g))
    (hd : g.roll f.config.duplicateProbability = (false, g')) :
    f.afterAdmission b wall = ({ f with gen := g' } : Filter).forward b wall := by
  simp [Filter.afterAdmission, h0, h, hd]

/-! ## An arriving buffer -/

variable {now : Option Nat} {bucket : Bucket}

theorem Filter.chain_rejected (h : f.bucket.admit b.bits now = (false, bucket)) :
    f.chain b now wall =
      ⟨({ f with bucket := bucket } : Filter).count
          fun s => { s with received := s.received + 1, rejected := s.rejected + 1 },
        [.received, .bytesReceived b.size, .rejected], .ok ()⟩ := by
  simp [Filter.chain, Filter.count, h]

theorem Filter.chain_admitted (h : f.bucket.admit b.bits now = (true, bucket)) :
    f.chain b now wall =
      let o := (({ f with bucket := bucket } : Filter).count
        fun s => { s with received := s.received + 1 }).afterAdmission b wall
      ⟨o.filter, [.received, .bytesReceived b.size] ++ o.events, o.value⟩ := by
  simp [Filter.chain, Filter.count, h]

end TrafficShaper
