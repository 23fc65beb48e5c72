import TrafficShaper.Proofs.Arrival

/-! # The metric events report the counters

Every decision a filter takes is counted twice: in its counters, and as a metric event. The two
are updated side by side at each place a decision is taken: on arrival, at each forward (pushed
at once, posted to the delivery loop, or pushed at once because the loop is not running), and at
each delivery by the loop. This module shows that they never drift apart: replaying the events
of any run on zero counters gives the filter's counters, all but the count of buffers discarded
on stop, which no event reports (`Filter.run_reported`).

Beside the counters, the events carry two more facts. A drop by the countdown is reported
exactly when an arriving buffer counts the countdown down. A delayed buffer is reported with its
delay sample right after it, and that sample is the delay the buffer is posted to the loop with.

* `Stats.record`: what one event adds to the counters;
* `Filter.Reported`: a stretch of the arrival path reported faithfully, and its composition;
* `Filter.chain_reported`, `Filter.exec_reported`: one arrival, one operation;
* `metric_events_match_stats`: the events of every run of a new filter count what its counters
  count.
-/

namespace TrafficShaper

open TrafficShaper.Random

/-! ## Events as counts -/

/-- **What one event adds to the counters**: one for each buffer decision, the size for the
bytes forwarded; the bytes received and the delay sample have no counter. -/
def Stats.record (s : Stats) : Metric → Stats
  | .received => { s with received := s.received + 1 }
  | .bytesReceived _ => s
  | .rejected => { s with rejected := s.rejected + 1 }
  | .dropped _ => { s with dropped := s.dropped + 1 }
  | .duplicated => { s with duplicated := s.duplicated + 1 }
  | .delayed => { s with delayed := s.delayed + 1 }
  | .delayMs _ => s
  | .forwarded .immediate => { s with forwardedImmediate := s.forwardedImmediate + 1 }
  | .forwarded .delayed => { s with forwardedDelayed := s.forwardedDelayed + 1 }
  | .bytesForwarded n => { s with bytesForwarded := s.bytesForwarded + n }

/-- The counters that events report: all but the buffers discarded on stop. -/
def Stats.reported (s : Stats) : Stats := { s with discardedOnStop := 0 }

/-- The increment of the bytes-forwarded counter in an event. -/
def Metric.forwardedBytes : Metric → Nat
  | .bytesForwarded n => n
  | _ => 0

/-- The delay sample of an event, in milliseconds. -/
def Metric.delaySample : Metric → Option Nat
  | .received | .bytesReceived _ | .rejected | .dropped _ | .duplicated | .delayed => none
  | .delayMs ms => some ms
  | .forwarded _ | .bytesForwarded _ => none

theorem Stats.foldl_record (evs : List Metric) (s : Stats) :
    evs.foldl Stats.record s =
      { s with
        received := s.received + evs.count .received
        rejected := s.rejected + evs.count .rejected
        dropped := s.dropped + (evs.count (.dropped .countdown) + evs.count (.dropped .probability))
        duplicated := s.duplicated + evs.count .duplicated
        delayed := s.delayed + evs.count .delayed
        forwardedImmediate := s.forwardedImmediate + evs.count (.forwarded .immediate)
        forwardedDelayed := s.forwardedDelayed + evs.count (.forwarded .delayed)
        bytesForwarded := s.bytesForwarded + (evs.map Metric.forwardedBytes).sum } := by
  induction evs generalizing s with
  | nil => simp
  | cons e evs ih =>
    rw [List.foldl_cons, ih]
    cases e with
    | dropped reason => cases reason <;> simp [Stats.record, Metric.forwardedBytes] <;> omega
    | forwarded path => cases path <;> simp [Stats.record, Metric.forwardedBytes] <;> omega
    | _ => simp [Stats.record, Metric.forwardedBytes] <;> omega

/-- **Every delay is sampled once**: each delayed buffer's event is followed at once by its
delay sample, and no sample stands anywhere else. -/
inductive Metric.Sampled : List Metric → Prop
  | nil : Metric.Sampled []
  | delay (ms : Nat) {evs : List Metric} : Metric.Sampled evs →
      Metric.Sampled (.delayed :: .delayMs ms :: evs)
  | other {e : Metric} {evs : List Metric} : e ≠ .delayed → e.delaySample = none →
      Metric.Sampled evs → Metric.Sampled (e :: evs)

theorem Metric.Sampled.append {evs evs' : List Metric} (h : Metric.Sampled evs)
    (h' : Metric.Sampled evs') : Metric.Sampled (evs ++ evs') := by
  induction h with
  | nil => exact h'
  | delay ms _ ih => exact .delay ms ih
  | other hd hs _ ih => exact .other hd hs ih

/-- An event that is no countdown drop, no delayed buffer and no delay sample. -/
def Metric.isPlain : Metric → Bool
  | .dropped .countdown => false
  | .delayed => false
  | .delayMs _ => false
  | _ => true

theorem Metric.sampled_of_plain {evs : List Metric} (h : ∀ e ∈ evs, e.isPlain) :
    Metric.Sampled evs := by
  induction evs with
  | nil => exact .nil
  | cons e evs ih =>
    have he := h e List.mem_cons_self
    refine .other ?_ ?_ (ih fun e' he' => h e' (List.mem_cons_of_mem _ he'))
    · rintro rfl
      simp [Metric.isPlain] at he
    · cases e <;> simp_all [Metric.isPlain, Metric.delaySample]

theorem Metric.count_countdown_of_plain {evs : List Metric} (h : ∀ e ∈ evs, e.isPlain) :
    evs.count (.dropped .countdown) = 0 := by
  refine List.count_eq_zero.2 fun hmem => ?_
  simpa [Metric.isPlain] using h _ hmem

theorem Metric.delaySamples_of_plain {evs : List Metric} (h : ∀ e ∈ evs, e.isPlain) :
    evs.filterMap Metric.delaySample = [] := by
  refine List.filterMap_eq_nil_iff.2 fun e he => ?_
  have := h e he
  cases e <;> simp_all [Metric.isPlain, Metric.delaySample]

/-! ## The arrival path -/

/-- The loop with buffer `b` posted once for each delay sample of `evs`, due that many
milliseconds after `wall`. -/
def Loop.postSamples (l : Loop) (b : Buffer) (wall : Nat) (evs : List Metric) : Loop :=
  { l with channel := l.channel ++
      (evs.filterMap Metric.delaySample).map fun ms => ⟨wall + ms * 1000000, b⟩ }

/-- **A stretch of the arrival path of buffer `b` reported faithfully**, from `f` to `f'` with
events `evs`: the counters move as the events say, the drop countdown goes down once for each
countdown drop, every delay is sampled once, and the loop is posted the buffer once for each
sample, due that many milliseconds after `wall`. -/
structure Filter.Reported (b : Buffer) (wall : Nat) (f f' : Filter) (evs : List Metric) :
    Prop where
  counters : f'.stats.reported = evs.foldl Stats.record f.stats.reported
  countdown : f'.config.dropPackets.toNat + evs.count (.dropped .countdown) =
    f.config.dropPackets.toNat
  sampled : Metric.Sampled evs
  posted : f'.loop = f.loop.map fun l => l.postSamples b wall evs

variable {b : Buffer} {wall : Nat} {f f₁ f₂ : Filter} {evs evs₁ evs₂ : List Metric}

theorem Loop.postSamples_of_unsampled (l : Loop) (b : Buffer) (wall : Nat)
    (h : evs.filterMap Metric.delaySample = []) : l.postSamples b wall evs = l := by
  simp [Loop.postSamples, h]

theorem Loop.postSamples_append (l : Loop) (b : Buffer) (wall : Nat) (evs evs' : List Metric) :
    (l.postSamples b wall evs).postSamples b wall evs' = l.postSamples b wall (evs ++ evs') := by
  simp [Loop.postSamples, List.filterMap_append]

theorem Filter.Reported.trans (h₁ : f.Reported b wall f₁ evs₁) (h₂ : f₁.Reported b wall f₂ evs₂) :
    f.Reported b wall f₂ (evs₁ ++ evs₂) where
  counters := by rw [h₂.counters, h₁.counters, List.foldl_append]
  countdown := by
    have := h₁.countdown
    have := h₂.countdown
    rw [List.count_append]
    omega
  sampled := h₁.sampled.append h₂.sampled
  posted := by
    rw [h₂.posted, h₁.posted, Option.map_map]
    congr 1
    funext l
    exact Loop.postSamples_append l b wall evs₁ evs₂

theorem Filter.Reported.plain (hstats : f'.stats.reported = evs.foldl Stats.record f.stats.reported)
    (hcountdown : f'.config.dropPackets = f.config.dropPackets) (hloop : f'.loop = f.loop)
    (hplain : ∀ e ∈ evs, e.isPlain) : f.Reported b wall f' evs where
  counters := hstats
  countdown := by rw [hcountdown, Metric.count_countdown_of_plain hplain]; rfl
  sampled := Metric.sampled_of_plain hplain
  posted := by
    rw [hloop]
    cases f.loop with
    | none => rfl
    | some l => rw [Option.map_some, l.postSamples_of_unsampled b wall
        (Metric.delaySamples_of_plain hplain)]

theorem Filter.reported_pushNow (f : Filter) (b : Buffer) (wall : Nat) :
    f.Reported b wall (f.pushNow b).filter (f.pushNow b).events :=
  .plain (by simp [Filter.pushNow, Filter.count, Stats.reported, Stats.record]) rfl rfl
    (by simp [Filter.pushNow, Metric.isPlain])

theorem Filter.reported_draw (f : Filter) (b : Buffer) (wall : Nat) (g : Generator)
    (pair : NormalPair) : f.Reported b wall { f with gen := g, pair := pair } [] :=
  .plain rfl rfl rfl (by simp)

theorem Filter.reported_forward (f : Filter) (b : Buffer) (wall : Nat) :
    f.Reported b wall (f.forward b wall).filter (f.forward b wall).events := by
  rcases hr : f.gen.roll f.config.delayProbability with ⟨_ | _, g⟩
  · rw [Filter.forward_now hr]
    have h := (f.reported_draw b wall g f.pair).trans
      (({ f with gen := g } : Filter).reported_pushNow b wall)
    simpa using h
  · rcases hs : f.config.distribution.sample g f.config.minDelay f.config.maxDelay f.pair
      with ⟨ms, pair, g'⟩
    rw [Filter.forward_delayed hr hs]
    cases hl : f.loop with
    | none =>
      simp only [Filter.schedule, Filter.count]
      refine ⟨?_, ?_, .delay ms (Metric.sampled_of_plain ?_), ?_⟩
      · simp [Filter.pushNow, Filter.count, Stats.reported, Stats.record]
      · simp [Filter.pushNow, Filter.count]
      · simp [Filter.pushNow, Metric.isPlain]
      · simp [Filter.pushNow, Filter.count, hl]
    | some l =>
      simp only [Filter.schedule, Filter.count]
      refine ⟨?_, ?_, .delay ms .nil, ?_⟩
      · simp [Stats.reported, Stats.record]
      · simp
      · have hsample : [Metric.delayed, .delayMs ms].filterMap Metric.delaySample = [ms] := rfl
        simp [Loop.post, Loop.postSamples, hsample, hl]

theorem Filter.reported_afterAdmission (f : Filter) (b : Buffer) (wall : Nat) :
    f.Reported b wall (f.afterAdmission b wall).filter (f.afterAdmission b wall).events := by
  by_cases h0 : 0 < f.config.dropPackets
  · rw [Filter.afterAdmission_countdown h0]
    have hpos := UInt32.lt_iff_toNat_lt.1 h0
    refine ⟨by simp [Filter.count, Stats.reported, Stats.record], ?_,
      .other (by decide) rfl .nil, ?_⟩
    swap
    · cases f.loop with
      | none => rfl
      | some l => exact congrArg some (l.postSamples_of_unsampled b wall rfl).symm
    simp only [Filter.count, List.count_singleton_self]
    rw [UInt32.toNat_sub_of_le _ _ (by rw [UInt32.le_iff_toNat_le]; simp at hpos ⊢; omega)]
    simp at hpos ⊢
    omega
  rcases hr : f.gen.roll f.config.dropProbability with ⟨_ | _, g⟩
  · rcases hd : g.roll f.config.duplicateProbability with ⟨_ | _, g'⟩
    · rw [Filter.afterAdmission_single h0 hr hd]
      simpa using (f.reported_draw b wall g' f.pair).trans
        (({ f with gen := g' } : Filter).reported_forward b wall)
    · rw [Filter.afterAdmission_duplicated h0 hr hd]
      have hdup : f.Reported b wall (({ f with gen := g' } : Filter).count
          fun s => { s with duplicated := s.duplicated + 1 }) [.duplicated] :=
        .plain (by simp [Filter.count, Stats.reported, Stats.record]) rfl rfl
          (by simp [Metric.isPlain])
      have h := (hdup.trans (Filter.reported_forward _ b wall)).trans
        (Filter.reported_forward _ b wall)
      simpa using h
  · rw [Filter.afterAdmission_dropped h0 hr]
    exact .plain (by simp [Filter.count, Stats.reported, Stats.record]) rfl rfl
      (by simp [Metric.isPlain])

/-- **An arriving buffer is reported faithfully**: its arrival, then its rejection or what
becomes of it after admission. -/
theorem Filter.chain_reported (f : Filter) (b : Buffer) (now : Option Nat) (wall : Nat) :
    f.Reported b wall (f.chain b now wall).filter (f.chain b now wall).events := by
  rcases ha : f.bucket.admit b.bits now with ⟨_ | _, bucket⟩
  · rw [Filter.chain_rejected ha]
    exact .plain (by simp [Filter.count, Stats.reported, Stats.record]) rfl rfl
      (by simp [Metric.isPlain])
  · rw [Filter.chain_admitted ha]
    have harrive : f.Reported b wall (({ f with bucket := bucket } : Filter).count
        fun s => { s with received := s.received + 1 }) [.received, .bytesReceived b.size] :=
      .plain (by simp [Filter.count, Stats.reported, Stats.record]) rfl rfl
        (by simp [Metric.isPlain])
    exact harrive.trans (Filter.reported_afterAdmission _ b wall)

/-! ## Operations and runs -/

/-- How far an operation counts the drop countdown down: an arriving buffer, by as much as the
countdown falls; any other operation sets it, if anything, and counts nothing down. -/
def Filter.Op.countdownStep (f f' : Filter) : Filter.Op → Nat
  | .chain _ _ => f.config.dropPackets.toNat - f'.config.dropPackets.toNat
  | _ => 0

/-- **The countdown steps of a run**: how far its arriving buffers counted the drop countdown
down, in all. -/
def Filter.countdownSteps (f : Filter) (clock : Stream' (Option Nat)) : List Filter.Op → Nat
  | [] => 0
  | op :: ops =>
    let f' := (f.exec clock.head op).filter
    op.countdownStep f f' + f'.countdownSteps clock.tail ops

theorem Filter.deliverAll_reported :
    ∀ (ps : List Pending) (f : Filter),
      (f.deliverAll ps).filter.stats.reported =
          (f.deliverAll ps).events.foldl Stats.record f.stats.reported ∧
        ∀ e ∈ (f.deliverAll ps).events, e.isPlain
  | [], _ => ⟨rfl, by simp [Filter.deliverAll]⟩
  | p :: ps, f => by
    obtain ⟨ih, hplain⟩ := Filter.deliverAll_reported ps (f.deliver p.buffer).filter
    refine ⟨?_, ?_⟩
    · simp only [Filter.deliverAll, List.foldl_append, ih]
      simp [Filter.deliver, Filter.count, Stats.reported, Stats.record]
    · simp only [Filter.deliverAll, List.mem_append]
      rintro e (he | he)
      · simp [Filter.deliver] at he
        rcases he with rfl | rfl <;> rfl
      · exact hplain e he

/-- **Every operation is reported faithfully**: its events move the counters as it does, count
the countdown down as it does, and sample every delay once. -/
theorem Filter.exec_reported (f : Filter) (reading : Option Nat) (op : Filter.Op) :
    (f.exec reading op).filter.stats.reported =
        (f.exec reading op).events.foldl Stats.record f.stats.reported ∧
      (f.exec reading op).events.count (.dropped .countdown) =
        op.countdownStep f (f.exec reading op).filter ∧
      Metric.Sampled (f.exec reading op).events := by
  cases op with
  | chain b wall =>
    have h := f.chain_reported b reading wall
    refine ⟨h.counters, ?_, h.sampled⟩
    have := h.countdown
    simp only [Filter.exec, Filter.Op.countdownStep] at this ⊢
    omega
  | setProperty name value =>
    simp only [Filter.exec]
    split
    · next f' hset =>
      refine ⟨?_, rfl, .nil⟩
      rw [Filter.setProperty_frame hset]
      rfl
    · exact ⟨rfl, rfl, .nil⟩
  | fire now =>
    simp only [Filter.exec, Filter.fire]
    split
    · exact ⟨rfl, rfl, .nil⟩
    · next l _ =>
      obtain ⟨hstats, hplain⟩ := Filter.deliverAll_reported (l.due now).1
        { f with loop := some (l.due now).2 }
      exact ⟨hstats, Metric.count_countdown_of_plain hplain, Metric.sampled_of_plain hplain⟩
  | deactivate =>
    simp only [Filter.exec, Filter.deactivate]
    split <;> exact ⟨rfl, rfl, .nil⟩
  | activate =>
    simp only [Filter.exec, Filter.activate]
    split <;> exact ⟨rfl, rfl, .nil⟩
  | setConfig c => exact ⟨rfl, rfl, .nil⟩
  | reseed seed => exact ⟨rfl, rfl, .nil⟩
  | receive => exact ⟨rfl, rfl, .nil⟩

/-- The events of a run, in order. -/
def Filter.runEvents (f : Filter) (clock : Stream' (Option Nat)) (ops : List Filter.Op) :
    List Metric :=
  ((f.run clock ops).2.map Prod.fst).flatten

/-- **Every run is reported faithfully**: replaying its events adds to the counters what the run
added, its countdown drops are its countdown steps, and every delay is sampled once. -/
theorem Filter.run_reported :
    ∀ (f : Filter) (clock : Stream' (Option Nat)) (ops : List Filter.Op),
      (f.run clock ops).1.stats.reported =
          (f.runEvents clock ops).foldl Stats.record f.stats.reported ∧
        (f.runEvents clock ops).count (.dropped .countdown) = f.countdownSteps clock ops ∧
        Metric.Sampled (f.runEvents clock ops)
  | f, _, [] => ⟨rfl, rfl, .nil⟩
  | f, clock, op :: ops => by
    obtain ⟨hs, hc, hsm⟩ := f.exec_reported clock.head op
    obtain ⟨ihs, ihc, ihsm⟩ := Filter.run_reported (f.exec clock.head op).filter clock.tail ops
    have hevents : f.runEvents clock (op :: ops) =
        (f.exec clock.head op).events ++ (f.exec clock.head op).filter.runEvents clock.tail ops :=
      rfl
    refine ⟨?_, ?_, ?_⟩
    · rw [hevents, List.foldl_append, ← hs]
      exact ihs
    · rw [hevents, List.count_append, hc, ihc]
      rfl
    · rw [hevents]
      exact hsm.append ihsm

/-- **The metric events count what the counters count.** Over every run of a new filter, with
any clock readings: the events report as many received, rejected, duplicated and delayed
buffers as the counters, the drops of both reasons add up to the dropped buffers, and those of
the countdown are the countdown steps of the arriving buffers; each delayed buffer is reported
with one delay sample right after it; the forwards at once and the late ones are reported as
the counters count them, and the bytes forwarded add up to the counter's. And every arriving
buffer posts its delayed copies to a running loop with the delays its samples report. -/
theorem metric_events_match_stats (c : Config) (g : Generator) (sink : Downstream)
    (clock : Stream' (Option Nat)) (ops : List Filter.Op) :
    let f := Filter.new c g sink
    let evs := f.runEvents clock ops
    let s := (f.run clock ops).1.stats
    (evs.count .received = s.received ∧ evs.count .rejected = s.rejected ∧
      evs.count (.dropped .countdown) + evs.count (.dropped .probability) = s.dropped ∧
      evs.count (.dropped .countdown) = f.countdownSteps clock ops ∧
      evs.count .duplicated = s.duplicated ∧ evs.count .delayed = s.delayed ∧
      Metric.Sampled evs ∧
      evs.count (.forwarded .immediate) = s.forwardedImmediate ∧
      evs.count (.forwarded .delayed) = s.forwardedDelayed ∧
      (evs.map Metric.forwardedBytes).sum = s.bytesForwarded) ∧
    ∀ (f : Filter) (b : Buffer) (now : Option Nat) (wall : Nat),
      (f.chain b now wall).filter.loop =
        f.loop.map fun l => l.postSamples b wall (f.chain b now wall).events := by
  dsimp only
  obtain ⟨hs, hc, hsm⟩ := Filter.run_reported (Filter.new c g sink) clock ops
  have hzero : (Filter.new c g sink).stats.reported = Stats.zero := rfl
  rw [hzero, Stats.foldl_record] at hs
  simp only [Stats.reported, Stats.zero, Stats.mk.injEq, Nat.zero_add] at hs
  obtain ⟨h1, h2, h3, h4, h5, h6, h7, -, h8⟩ := hs
  exact ⟨⟨h1.symm, h2.symm, h3.symm, hc, h4.symm, h5.symm, hsm, h6.symm, h7.symm, h8.symm⟩,
    fun f b now wall => (f.chain_reported b now wall).posted⟩

end TrafficShaper
