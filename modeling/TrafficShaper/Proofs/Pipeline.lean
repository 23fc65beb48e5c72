import TrafficShaper.Proofs.Certainty
import TrafficShaper.Proofs.NormalPair
import TrafficShaper.Proofs.SetField

/-! # The arrival path as a pipeline of decisions

An arriving buffer meets the decisions of the filter in a fixed order: the token bucket, the drop
countdown, the drop chance, the duplicate chance, and then, for each of the one or two copies
forwarded, the delay chance and the delay. What becomes of it is its *fate*: rejected, dropped by
the countdown, dropped by chance, or forwarded as one or two copies, each pushed at once or
delayed by a number of milliseconds.

Each fate uses the generator in a fixed way (`Fate.draws`). A chance consulted draws one unit
value when it is above zero and nothing otherwise; a delayed copy then draws its delay through
the pair cache; a rejection and a countdown drop draw nothing. Each decision is taken on the
generator as the draws before it left it (`Fate.Decided`). So a seeded run is reproduced draw
for draw by any implementation that takes the same decisions in the same order.

The answer of an arrival is the downstream's answer to the last buffer pushed, when its last
forward was pushed at once, and accepted otherwise; the answer to a first copy is dropped.

Over a run that leaves the countdown alone, a countdown of `N` drops exactly the first `N`
buffers that the bucket admits, as the metric events of the arrivals report.

* `Fate`, `Fate.draws`, `Fate.Decided`: the reference pipeline;
* `Filter.Drew`: a stretch of the arrival path with the draws it made;
* `Filter.chain_follows`: one arrival follows the pipeline;
* `countdownMarks`, `Filter.countdownMarks_run`: the countdown over runs;
* `chain_follows_pipeline`: both together.
-/

namespace TrafficShaper

open TrafficShaper.Random TrafficShaper.Binary

/-! ## Chances and delays as draws -/

/-- **A chance consulted**: one unit draw when it is above zero, none otherwise. -/
def Binary.Binary32.draws (p : Binary32) : List Draw :=
  if p.isPositive then [.other fun g => g.unitDraw.2] else []

/-- **The delay of a delayed copy**, drawn from the configured distribution between the delay
bounds. -/
def Config.delayDraw (c : Config) : Draw :=
  match c.distribution with
  | .uniform => .uniform c.minDelay c.maxDelay
  | .normal => .normal c.minDelay c.maxDelay

variable {ds es : List Draw} {n : NormalPair} {g : Generator}

theorem Draw.run_append (ds es : List Draw) (n : NormalPair) (g : Generator) :
    (Draw.run (ds ++ es) n g).2 = (Draw.run es (Draw.run ds n g).2.1 (Draw.run ds n g).2.2).2 := by
  induction ds generalizing n g with
  | nil => rfl
  | cons d ds ih => cases d <;> simp [Draw.run, ih]

theorem Random.Generator.roll_draws (g : Generator) (p : Binary32) (n : NormalPair) :
    (Draw.run p.draws n g).2 = (n, (g.roll p).2) := by
  unfold Binary.Binary32.draws Random.Generator.roll
  split <;> rfl

theorem Config.delayDraw_run (c : Config) (g : Generator) (n : NormalPair) :
    (Draw.run [c.delayDraw] n g).2 = (c.distribution.sample g c.minDelay c.maxDelay n).2 := by
  unfold Config.delayDraw
  cases c.distribution <;> simp [Draw.run, Distribution.sample]

/-! ## The reference pipeline -/

/-- **What becomes of an arriving buffer**: refused by the bucket, dropped by the countdown,
dropped by chance, or forwarded as copies, each given by its delay (`none` when it was pushed
at once without one). -/
inductive Fate where
  | rejected
  | countdown
  | dropped
  | forwarded (copies : List (Option Nat))
  deriving DecidableEq

/-- The draws of one copy: its delay chance, and its delay if it was delayed. -/
def Config.copyDraws (c : Config) (d : Option Nat) : List Draw :=
  c.delayProbability.draws ++ if d.isSome then [c.delayDraw] else []

/-- **The draws of a fate**, in the order the pipeline makes them: none for a rejected buffer or
a countdown drop; the drop chance; then the duplicate chance and the draws of each copy. -/
def Fate.draws (c : Config) : Fate → List Draw
  | .rejected => []
  | .countdown => []
  | .dropped => c.dropProbability.draws
  | .forwarded copies =>
    c.dropProbability.draws ++ c.duplicateProbability.draws ++ copies.flatMap c.copyDraws

/-- **A copy decided** on the generator `g` and the pair cache `n`: delayed exactly when the
delay chance says yes, by the delay then drawn. -/
def Config.CopyDecided (c : Config) (g : Generator) (n : NormalPair) (d : Option Nat) : Prop :=
  d = if (g.roll c.delayProbability).1 then
    some (c.distribution.sample (g.roll c.delayProbability).2 c.minDelay c.maxDelay n).1
  else none

/-- **Copies decided in turn**: each on the generator and the cache as the copies before it
left them. -/
def Config.CopiesDecided (c : Config) : List (Option Nat) → Generator → NormalPair → Prop
  | [], _, _ => True
  | d :: ds, g, n =>
    c.CopyDecided g n d ∧
      c.CopiesDecided ds (Draw.run (c.copyDraws d) n g).2.2 (Draw.run (c.copyDraws d) n g).2.1

/-- **The decisions of the pipeline**, for a filter `f` whose bucket answered `admitted`: a
rejected buffer was refused; the countdown drops while it is above zero; after it, the drop
chance is decided on the generator as it stands, the duplicate chance on the generator the drop
chance left, and one copy is forwarded, or two if duplicated, decided in turn from there. -/
def Fate.Decided (f : Filter) (admitted : Bool) : Fate → Prop
  | .rejected => admitted = false
  | .countdown => admitted = true ∧ 0 < f.config.dropPackets
  | .dropped =>
    admitted = true ∧ f.config.dropPackets = 0 ∧ (f.gen.roll f.config.dropProbability).1 = true
  | .forwarded copies =>
    admitted = true ∧ f.config.dropPackets = 0 ∧ (f.gen.roll f.config.dropProbability).1 = false ∧
      let g := (f.gen.roll f.config.dropProbability).2
      copies.length = (if (g.roll f.config.duplicateProbability).1 then 2 else 1) ∧
        f.config.CopiesDecided copies (g.roll f.config.duplicateProbability).2 f.pair

/-- Whether the last forward of a fate pushed at once: it was not delayed, or no delivery loop
ran to take it. -/
def Fate.pushedLast (active : Bool) : Fate → Bool
  | .forwarded copies =>
    match copies.getLast? with
    | some d => d.isNone || !active
    | none => false
  | _ => false

/-- **The answer of an arrival** that left the filter `f`: the downstream's answer to the last
buffer pushed, if the last forward pushed at once; accepted otherwise. -/
def Filter.lastAnswer (f : Filter) (pushed : Bool) : FlowResult :=
  if pushed then f.sink.answer (f.sink.log.size - 1) else .ok ()

/-! ## Stretches of the arrival path -/

/-- **A stretch of the arrival path that drew `ds`**: from `f` to `f'`, the generator and the
pair cache moved by exactly the draws `ds`, and the configuration, whether a loop runs and the
downstream's answers stayed. -/
structure Filter.Drew (ds : List Draw) (f f' : Filter) : Prop where
  draws : (Draw.run ds f.pair f.gen).2 = (f'.pair, f'.gen)
  config : f'.config = f.config
  active : f'.isActive = f.isActive
  answers : f'.sink.answer = f.sink.answer

variable {f f₁ f₂ : Filter} {b : Buffer} {wall : Nat}

theorem Filter.Drew.trans (h₁ : Filter.Drew ds f f₁) (h₂ : Filter.Drew es f₁ f₂) :
    Filter.Drew (ds ++ es) f f₂ where
  draws := by rw [Draw.run_append, h₁.draws, h₂.draws]
  config := h₂.config.trans h₁.config
  active := h₂.active.trans h₁.active
  answers := h₂.answers.trans h₁.answers

theorem Filter.Drew.none (hg : f'.gen = f.gen) (hn : f'.pair = f.pair) (hc : f'.config = f.config)
    (ha : f'.isActive = f.isActive) (hs : f'.sink.answer = f.sink.answer) : Filter.Drew [] f f' :=
  ⟨by simp [Draw.run, hg, hn], hc, ha, hs⟩

theorem Filter.drew_roll (f : Filter) (p : Binary32) :
    Filter.Drew p.draws f { f with gen := (f.gen.roll p).2 } :=
  ⟨by rw [Random.Generator.roll_draws], rfl, rfl, rfl⟩

theorem Filter.pushNow_follows (f : Filter) (b : Buffer) :
    Filter.Drew [] f (f.pushNow b).filter ∧
      (f.pushNow b).value = (f.pushNow b).filter.lastAnswer true :=
  ⟨.none rfl rfl rfl rfl rfl, by simp [Filter.pushNow, Filter.lastAnswer, Downstream.push,
    Filter.count]⟩

theorem Filter.schedule_follows (f : Filter) (ms : Nat) (b : Buffer) (wall : Nat) :
    Filter.Drew [] f (f.schedule ms b wall).filter ∧
      (f.schedule ms b wall).value = (f.schedule ms b wall).filter.lastAnswer !f.isActive := by
  unfold Filter.schedule
  split
  · next l hl =>
    exact ⟨.none rfl rfl rfl (by simp [Filter.isActive, hl]) rfl,
      by simp [Filter.lastAnswer, Filter.isActive, hl]⟩
  · next hl =>
    simpa [Filter.isActive, hl] using f.pushNow_follows b

theorem Filter.forward_follows (f : Filter) (b : Buffer) (wall : Nat) :
    ∃ d, f.config.CopyDecided f.gen f.pair d ∧
      Filter.Drew (f.config.copyDraws d) f (f.forward b wall).filter ∧
      (f.forward b wall).value = (f.forward b wall).filter.lastAnswer (d.isNone || !f.isActive) := by
  have hroll := f.drew_roll f.config.delayProbability
  rcases hr : f.gen.roll f.config.delayProbability with ⟨_ | _, g⟩
  · -- not delayed: the copy is pushed at once after its chance
    rw [hr] at hroll
    obtain ⟨hpush, hvalue⟩ := ({ f with gen := g } : Filter).pushNow_follows b
    refine ⟨none, by simp [Config.CopyDecided, hr], ?_, ?_⟩
    · rw [Filter.forward_now hr]
      simpa [Config.copyDraws] using hroll.trans hpush
    · rw [Filter.forward_now hr, hvalue]
      rfl
  · -- delayed: the delay is drawn, counted, and the copy handed on
    rw [hr] at hroll
    rcases hs : f.config.distribution.sample g f.config.minDelay f.config.maxDelay f.pair with
      ⟨ms, pair, g'⟩
    let f' := ({ f with gen := g', pair := pair } : Filter).count
      fun s => { s with delayed := s.delayed + 1 }
    have hdelay : Filter.Drew [f.config.delayDraw] { f with gen := g } f' :=
      ⟨by simp [Config.delayDraw_run, hs, f', Filter.count], rfl, rfl, rfl⟩
    obtain ⟨hsched, hvalue⟩ := f'.schedule_follows ms b wall
    refine ⟨some ms, by simp [Config.CopyDecided, hr, hs], ?_, ?_⟩
    · rw [Filter.forward_delayed hr hs]
      simpa [Config.copyDraws] using (hroll.trans hdelay).trans hsched
    · rw [Filter.forward_delayed hr hs]
      exact hvalue

theorem Filter.forward_twice_follows (f : Filter) (b : Buffer) (wall : Nat) :
    let second := (f.forward b wall).filter.forward b wall
    ∃ d₁ d₂, f.config.CopiesDecided [d₁, d₂] f.gen f.pair ∧
      Filter.Drew ([d₁, d₂].flatMap f.config.copyDraws) f second.filter ∧
      second.value = second.filter.lastAnswer (d₂.isNone || !f.isActive) := by
  intro second
  obtain ⟨d₁, hdec₁, hfwd₁, -⟩ := f.forward_follows b wall
  obtain ⟨d₂, hdec₂, hfwd₂, hvalue⟩ := (f.forward b wall).filter.forward_follows b wall
  rw [hfwd₁.config] at hdec₂ hfwd₂
  rw [hfwd₁.active] at hvalue
  refine ⟨d₁, d₂, ⟨hdec₁, ?_, trivial⟩, by simpa using hfwd₁.trans hfwd₂, hvalue⟩
  rw [hfwd₁.draws]
  exact hdec₂

theorem Fate.decided_forwarded {copies : List (Option Nat)} {g g' : Generator} {dup : Bool}
    (h0 : f.config.dropPackets = 0) (hr : f.gen.roll f.config.dropProbability = (false, g))
    (hd : g.roll f.config.duplicateProbability = (dup, g'))
    (hlen : copies.length = if dup then 2 else 1) (hc : f.config.CopiesDecided copies g' f.pair) :
    Fate.Decided f true (.forwarded copies) := by
  unfold Fate.Decided
  rw [hr]
  dsimp only
  rw [hd]
  exact ⟨rfl, h0, rfl, hlen, hc⟩

theorem Filter.afterAdmission_follows (f : Filter) (b : Buffer) (wall : Nat)
    (h0 : f.config.dropPackets = 0) :
    let o := f.afterAdmission b wall
    ∃ fate : Fate, fate.Decided f true ∧ Filter.Drew (fate.draws f.config) f o.filter ∧
      o.value = o.filter.lastAnswer (fate.pushedLast f.isActive) := by
  intro o
  have hcount : ¬ 0 < f.config.dropPackets := by simp [h0]
  have hdrop := f.drew_roll f.config.dropProbability
  rcases hr : f.gen.roll f.config.dropProbability with ⟨_ | _, g⟩
  · rw [hr] at hdrop
    have hdup := ({ f with gen := g } : Filter).drew_roll f.config.duplicateProbability
    rcases hd : g.roll f.config.duplicateProbability with ⟨_ | _, g'⟩
    · -- forwarded once
      rw [hd] at hdup
      obtain ⟨d, hdec, hfwd, hvalue⟩ := ({ f with gen := g' } : Filter).forward_follows b wall
      have ho : o = ({ f with gen := g' } : Filter).forward b wall :=
        Filter.afterAdmission_single hcount hr hd
      refine ⟨.forwarded [d], Fate.decided_forwarded h0 hr hd rfl ⟨hdec, trivial⟩, ?_, ?_⟩
      · rw [ho]
        simpa [Fate.draws] using (hdrop.trans hdup).trans hfwd
      · rw [ho, hvalue]
        rfl
    · -- duplicated: the duplicate counted, then two copies in turn
      rw [hd] at hdup
      let f' := ({ f with gen := g' } : Filter).count
        fun s => { s with duplicated := s.duplicated + 1 }
      have hcnt : Filter.Drew [] { f with gen := g' } f' := .none rfl rfl rfl rfl rfl
      obtain ⟨d₁, d₂, hdec, hfwd, hvalue⟩ := f'.forward_twice_follows b wall
      have hfwd' : Filter.Drew ([d₁, d₂].flatMap f.config.copyDraws) f' _ := hfwd
      have ho : o = _ := Filter.afterAdmission_duplicated hcount hr hd
      refine ⟨.forwarded [d₁, d₂], Fate.decided_forwarded h0 hr hd rfl hdec, ?_, ?_⟩
      · rw [ho]
        simpa [Fate.draws, List.append_assoc] using ((hdrop.trans hdup).trans hcnt).trans hfwd'
      · rw [ho]
        exact hvalue
  · -- dropped by chance
    rw [hr] at hdrop
    refine ⟨.dropped, ⟨rfl, h0, by rw [hr]⟩, ?_, ?_⟩
    have hcnt : Filter.Drew [] { f with gen := g }
        (({ f with gen := g } : Filter).count fun s => { s with dropped := s.dropped + 1 }) :=
      .none rfl rfl rfl rfl rfl
    · rw [show o = _ from Filter.afterAdmission_dropped hcount hr]
      simpa [Fate.draws] using hdrop.trans hcnt
    · rw [show o = _ from Filter.afterAdmission_dropped hcount hr]
      rfl

/-- **One arrival follows the pipeline**, given the bucket's answer: its fate is decided as the
pipeline says, the generator and the cache move by exactly the fate's draws, the configuration
changes only by the countdown going down on a countdown drop, and the answer is the downstream's
answer to the last push if the last forward pushed at once. -/
theorem Filter.chain_follows (wall : Nat) {now : Option Nat} {admitted : Bool} {bucket : Bucket}
    (ha : f.bucket.admit b.bits now = (admitted, bucket)) :
    let o := f.chain b now wall
    ∃ fate : Fate, fate.Decided f admitted ∧
      (Draw.run (fate.draws f.config) f.pair f.gen).2 = (o.filter.pair, o.filter.gen) ∧
      o.filter.config = (if fate = .countdown then
        { f.config with dropPackets := f.config.dropPackets - 1 } else f.config) ∧
      o.value = o.filter.lastAnswer (fate.pushedLast f.isActive) := by
  intro o
  cases admitted with
  | false =>
    have ho : o = _ := Filter.chain_rejected ha
    exact ⟨.rejected, rfl, by rw [ho]; rfl, by rw [ho]; rfl, by rw [ho]; rfl⟩
  | true =>
    have ho : o = _ := Filter.chain_admitted ha
    let f₁ := ({ f with bucket := bucket } : Filter).count
      fun s => { s with received := s.received + 1 }
    by_cases h0 : 0 < f.config.dropPackets
    · -- the countdown drops it, with no draw
      have ho' : o = _ := ho.trans (by rw [Filter.afterAdmission_countdown (f := f₁) h0])
      exact ⟨.countdown, ⟨rfl, h0⟩, by rw [ho']; rfl, by rw [ho']; rfl, by rw [ho']; rfl⟩
    · have hzero : f.config.dropPackets = 0 := by
        by_contra hne
        exact h0 (UInt32.pos_iff_ne_zero.2 hne)
      obtain ⟨fate, hdec, hdrew, hvalue⟩ := f₁.afterAdmission_follows b wall hzero
      have hnot : fate ≠ .countdown := by
        rintro rfl
        exact h0 hdec.2
      refine ⟨fate, hdec, ?_, ?_, ?_⟩
      · rw [ho]
        exact hdrew.draws
      · rw [ho, if_neg hnot]
        exact hdrew.config
      · rw [ho]
        exact hvalue

theorem Filter.chain_dropPackets (wall : Nat) {now : Option Nat} {admitted : Bool} {bucket : Bucket}
    (ha : f.bucket.admit b.bits now = (admitted, bucket)) :
    (f.chain b now wall).filter.config.dropPackets =
      if admitted = true ∧ 0 < f.config.dropPackets then f.config.dropPackets - 1
      else f.config.dropPackets := by
  obtain ⟨fate, hdec, -, hconfig, -⟩ := Filter.chain_follows wall ha
  rw [hconfig]
  cases fate with
  | rejected => simp [Fate.Decided] at hdec; simp [hdec]
  | countdown => simp [hdec.1, hdec.2]
  | dropped => simp [hdec.2.1]
  | forwarded copies => simp [hdec.2.1]

/-! ## The countdown over runs -/

/-- **The events that tell what became of a buffer at its arrival**: its receipt, its rejection,
and a drop by the countdown. -/
def Metric.isArrival : Metric → Bool
  | .received => true
  | .rejected => true
  | .dropped .countdown => true
  | _ => false

/-- **The countdown's marks over a run**: for each buffer that the bucket admitted, in order,
whether the countdown dropped it, as the events of its arrival report. -/
def countdownMarks (outs : List (List Metric × Filter.Answer)) : List Bool :=
  outs.filterMap fun o =>
    if Metric.received ∈ o.1 ∧ Metric.rejected ∉ o.1 then
      some (decide (Metric.dropped .countdown ∈ o.1))
    else none

/-- An operation that leaves the drop countdown to the arriving buffers: anything but a whole
configuration or the countdown's own property. -/
def Filter.Op.keepsCountdown : Filter.Op → Bool
  | .setConfig _ => false
  | .setProperty name _ => Property.ofName? name != some .dropPackets
  | _ => true

theorem Filter.pushNow_events (f : Filter) (b : Buffer) :
    ∀ e ∈ (f.pushNow b).events, e.isArrival = false := by
  simp [Filter.pushNow, Metric.isArrival]

theorem Filter.forward_events (f : Filter) (b : Buffer) (wall : Nat) :
    ∀ e ∈ (f.forward b wall).events, e.isArrival = false := by
  rcases hr : f.gen.roll f.config.delayProbability with ⟨_ | _, g⟩
  · rw [Filter.forward_now hr]
    exact Filter.pushNow_events _ b
  · rcases hs : f.config.distribution.sample g f.config.minDelay f.config.maxDelay f.pair with
      ⟨ms, pair, g'⟩
    rw [Filter.forward_delayed hr hs]
    intro e he
    simp only [List.mem_append, List.mem_cons, List.not_mem_nil, or_false] at he
    rcases he with (rfl | rfl) | he
    · rfl
    · rfl
    · unfold Filter.schedule at he
      split at he
      · simp at he
      · exact Filter.pushNow_events _ b e he

theorem Filter.afterAdmission_events (f : Filter) (b : Buffer) (wall : Nat)
    (h0 : ¬ 0 < f.config.dropPackets) :
    ∀ e ∈ (f.afterAdmission b wall).events, e.isArrival = false := by
  rcases hr : f.gen.roll f.config.dropProbability with ⟨_ | _, g⟩
  · rcases hd : g.roll f.config.duplicateProbability with ⟨_ | _, g'⟩
    · rw [Filter.afterAdmission_single h0 hr hd]
      exact Filter.forward_events _ b wall
    · rw [Filter.afterAdmission_duplicated h0 hr hd]
      intro e he
      simp only [List.cons_append, List.mem_cons, List.mem_append] at he
      rcases he with rfl | he | he
      · rfl
      · exact Filter.forward_events _ b wall e he
      · exact Filter.forward_events _ b wall e he
  · rw [Filter.afterAdmission_dropped h0 hr]
    simp [Metric.isArrival]

theorem Filter.chain_arrivals (wall : Nat) {now : Option Nat} {admitted : Bool} {bucket : Bucket}
    (ha : f.bucket.admit b.bits now = (admitted, bucket)) :
    (f.chain b now wall).events.filter Metric.isArrival =
      .received :: if admitted = true then
        (if 0 < f.config.dropPackets then [.dropped .countdown] else []) else [.rejected] := by
  cases admitted with
  | false =>
    rw [Filter.chain_rejected ha]
    rfl
  | true =>
    let f₁ := ({ f with bucket := bucket } : Filter).count
      fun s => { s with received := s.received + 1 }
    rw [Filter.chain_admitted ha]
    by_cases h0 : 0 < f.config.dropPackets
    · rw [Filter.afterAdmission_countdown (f := f₁) h0]
      simp only [h0, if_true]
      rfl
    · have hnone : (f₁.afterAdmission b wall).events.filter Metric.isArrival = [] :=
        List.filter_eq_nil_iff.2 fun e he => by
          simp [Filter.afterAdmission_events f₁ b wall h0 e he]
      dsimp only
      rw [List.filter_append, hnone, List.append_nil]
      simp only [h0, if_true, if_false]
      rfl

theorem Metric.mem_iff_arrival {e : Metric} (he : e.isArrival = true) (evs : List Metric) :
    e ∈ evs ↔ e ∈ evs.filter Metric.isArrival := by
  simp [List.mem_filter, he]

theorem countdownMarks_chain (wall : Nat) {now : Option Nat} {admitted : Bool} {bucket : Bucket}
    (ha : f.bucket.admit b.bits now = (admitted, bucket)) (a : Filter.Answer)
    (outs : List (List Metric × Filter.Answer)) :
    countdownMarks (((f.chain b now wall).events, a) :: outs) =
      (if admitted = true then [decide (0 < f.config.dropPackets)] else []) ++
        countdownMarks outs := by
  have harr := Filter.chain_arrivals wall ha
  have hrec := Metric.mem_iff_arrival (e := .received) rfl (f.chain b now wall).events
  have hrej := Metric.mem_iff_arrival (e := .rejected) rfl (f.chain b now wall).events
  have hcd := Metric.mem_iff_arrival (e := .dropped .countdown) rfl (f.chain b now wall).events
  rw [harr] at hrec hrej hcd
  unfold countdownMarks
  rw [List.filterMap_cons]
  cases admitted <;> by_cases h0 : 0 < f.config.dropPackets <;> simp_all

theorem countdownMarks_quiet {evs : List Metric} (h : ∀ e ∈ evs, e.isArrival = false)
    (a : Filter.Answer) (outs : List (List Metric × Filter.Answer)) :
    countdownMarks ((evs, a) :: outs) = countdownMarks outs := by
  have hrec : Metric.received ∉ evs := fun hm => by simpa [Metric.isArrival] using h _ hm
  simp [countdownMarks, hrec]

theorem Filter.deliverAll_quiet (f : Filter) (ps : List Pending) :
    ∀ e ∈ (f.deliverAll ps).events, e.isArrival = false := by
  induction ps generalizing f with
  | nil => simp [Filter.deliverAll]
  | cons p ps ih =>
    simp only [Filter.deliverAll, List.mem_append]
    rintro e (he | he)
    · simp only [Filter.deliver, List.mem_cons, List.not_mem_nil, or_false] at he
      rcases he with rfl | rfl <;> rfl
    · exact ih _ e he

theorem Filter.exec_quiet (f : Filter) (reading : Option Nat) :
    ∀ op : Filter.Op, (∀ b wall, op ≠ .chain b wall) →
      ∀ e ∈ (f.exec reading op).events, e.isArrival = false
  | .chain b wall, h => absurd rfl (h b wall)
  | .setProperty name value, _ => by
    simp only [Filter.exec]
    split <;> simp
  | .fire now, _ => by
    simp only [Filter.exec, Filter.fire]
    split
    · simp
    · exact Filter.deliverAll_quiet _ _
  | .setConfig _, _ | .reseed _, _ | .activate, _ | .deactivate, _ | .receive, _ => by
    simp [Filter.exec]

theorem Filter.exec_dropPackets (f : Filter) (reading : Option Nat) :
    ∀ op : Filter.Op, op.keepsCountdown = true → (∀ b wall, op ≠ .chain b wall) →
      (f.exec reading op).filter.config.dropPackets = f.config.dropPackets
  | .chain b wall, _, h => absurd rfl (h b wall)
  | .setConfig _, hkeep, _ => absurd hkeep (by simp [Filter.Op.keepsCountdown])
  | .setProperty name value, hkeep, _ => by
    simp only [Filter.exec]
    split
    · next f' hset =>
      rcases hp : Property.ofName? name with _ | p
      · simp [Filter.setProperty, hp] at hset
      rcases hc : f.config.set p value with e | c
      · simp [Filter.setProperty, hp, hc] at hset
      simp only [Filter.setProperty, hp, hc, Except.ok.injEq] at hset
      subst hset
      have hq : Property.dropPackets ≠ p := by
        rintro rfl
        simp [Filter.Op.keepsCountdown, hp] at hkeep
      simpa [Config.field] using Config.field_set_ne hc hq
    · rfl
  | .fire now, _, _ => by
    simp only [Filter.exec, Filter.fire]
    split
    · rfl
    · rw [(Filter.deliverAll_frame _ _).1]
  | .activate, _, _ => by
    simp only [Filter.exec, Filter.activate]
    split <;> rfl
  | .deactivate, _, _ => by
    simp only [Filter.exec, Filter.deactivate]
    split <;> rfl
  | .reseed _, _, _ | .receive, _, _ => rfl

theorem Filter.exec_countdown (f : Filter) (reading : Option Nat) (op : Filter.Op)
    (hkeep : op.keepsCountdown = true) (a : Filter.Answer)
    (outs : List (List Metric × Filter.Answer)) :
    ∃ marked : Bool, countdownMarks (((f.exec reading op).events, a) :: outs) =
        (if marked then [decide (0 < f.config.dropPackets.toNat)] else []) ++
          countdownMarks outs ∧
      (f.exec reading op).filter.config.dropPackets.toNat =
        if marked then f.config.dropPackets.toNat - 1 else f.config.dropPackets.toNat := by
  cases op
  case chain b wall =>
    rcases ha : f.bucket.admit b.bits reading with ⟨admitted, bucket⟩
    have hdp := Filter.chain_dropPackets wall ha
    refine ⟨admitted, ?_, ?_⟩
    · have hmarks := countdownMarks_chain wall ha a outs
      simp only [UInt32.lt_iff_toNat_lt, UInt32.toNat_zero] at hmarks
      exact hmarks
    · show (f.chain b reading wall).filter.config.dropPackets.toNat = _
      rw [hdp]
      by_cases h0 : 0 < f.config.dropPackets
      · have hpos := UInt32.lt_iff_toNat_lt.1 h0
        cases admitted
        · simp
        · simp only [h0, and_self, if_true]
          rw [UInt32.toNat_sub_of_le _ _ (by rw [UInt32.le_iff_toNat_le]; simp at hpos ⊢; omega)]
          rfl
      · -- at zero the countdown stays, and one lower is zero again
        have hzero : f.config.dropPackets = 0 := by
          by_contra hne
          exact h0 (UInt32.pos_iff_ne_zero.2 hne)
        cases admitted <;> simp [hzero]
  all_goals
    refine ⟨false, countdownMarks_quiet (Filter.exec_quiet f reading _ (by simp)) a outs, ?_⟩
    simp [Filter.exec_dropPackets f reading _ hkeep (by simp)]

theorem range_map_lt_succ (n a : Nat) :
    (List.range (a + 1)).map (fun i => decide (i < n)) =
      decide (0 < n) :: (List.range a).map fun i => decide (i < n - 1) := by
  rw [List.range_succ_eq_map, List.map_cons, List.map_map]
  congr 2
  funext i
  simp only [Function.comp_apply, decide_eq_decide]
  omega

/-- **The countdown over a run**: as long as no operation sets the countdown anew, of the
buffers the bucket admits, the first as many as the countdown stood at are dropped by it, and
no later one is. -/
theorem Filter.countdownMarks_run (f : Filter) (clock : Stream' (Option Nat))
    (ops : List Filter.Op) (hops : ∀ op ∈ ops, op.keepsCountdown = true) :
    countdownMarks (f.run clock ops).2 =
      (List.range (countdownMarks (f.run clock ops).2).length).map
        fun i => decide (i < f.config.dropPackets.toNat) := by
  induction ops generalizing f clock with
  | nil => rfl
  | cons op ops ih =>
    let o := f.exec clock.head op
    have hrun : (f.run clock (op :: ops)).2 = (o.events, o.value) :: (o.filter.run clock.tail ops).2 :=
      rfl
    have hrest := ih o.filter clock.tail fun op' h => hops op' (List.mem_cons_of_mem _ h)
    obtain ⟨marked, hmarks, hdp⟩ :=
      Filter.exec_countdown f clock.head op (hops op List.mem_cons_self) o.value
        (o.filter.run clock.tail ops).2
    rw [hrun, hmarks, hrest, hdp]
    cases marked
    · simp
    · simp [range_map_lt_succ]

/-- **Every arrival follows the pipeline, draw for draw.** For every filter, buffer, clock
reading and wall time, the arrival meets a fate that its decisions settle in the pipeline's
order: the bucket's verdict, the countdown, the drop chance, the duplicate chance and the delay
of each copy. The generator and the pair cache move by exactly the fate's draws: none for a
rejected buffer or a countdown drop, one unit draw for each chance above zero that is rolled,
and one delay sample for each delayed copy. The configuration changes only by a countdown drop
counting the countdown down, and the answer is the downstream's answer to the last push when
the last copy was pushed at once, and success otherwise. Over every run that does not set the
countdown anew, the buffers the bucket admits are dropped by the countdown exactly while fewer
than the countdown's first value came before them. -/
theorem chain_follows_pipeline :
    (∀ (f : Filter) (b : Buffer) (now : Option Nat) (wall : Nat),
      let verdict := f.bucket.admit b.bits now
      let o := f.chain b now wall
      ∃ fate : Fate, fate.Decided f verdict.1 ∧
        (Draw.run (fate.draws f.config) f.pair f.gen).2 = (o.filter.pair, o.filter.gen) ∧
        o.filter.config = (if fate = .countdown then
          { f.config with dropPackets := f.config.dropPackets - 1 } else f.config) ∧
        o.value = o.filter.lastAnswer (fate.pushedLast f.isActive)) ∧
    ∀ (f : Filter) (clock : Stream' (Option Nat)) (ops : List Filter.Op),
      (∀ op ∈ ops, op.keepsCountdown = true) →
      let marks := countdownMarks (f.run clock ops).2
      marks = (List.range marks.length).map fun i => decide (i < f.config.dropPackets.toNat) := by
  refine ⟨fun f b now wall => ?_, fun f clock ops hops => Filter.countdownMarks_run f clock ops hops⟩
  intro verdict o
  exact Filter.chain_follows wall (Prod.mk.eta (p := verdict)).symm

/-- A countdown of three over six arrivals, with the largest delay set among them: the first
three buffers admitted are dropped by the countdown and the other three are not. -/
theorem chain_follows_pipeline_three :
    let ops : List Filter.Op := [.chain (Buffer.filled 4 1 none) 0,
      .chain (Buffer.filled 4 2 none) 1, .setProperty "max-delay" "300",
      .chain (Buffer.filled 4 3 none) 2, .chain (Buffer.filled 4 4 none) 3,
      .chain (Buffer.filled 4 5 none) 4, .chain (Buffer.filled 4 6 none) 5]
    let f := Filter.new { Config.default with dropPackets := 3 } (Generator.ofSeed 1)
      Downstream.accepting
    (∀ op ∈ ops, op.keepsCountdown = true) ∧
      countdownMarks (f.run (fun _ => none) ops).2 = [true, true, true, false, false, false] := by
  intro ops f
  have hkeep : ∀ op ∈ ops, op.keepsCountdown = true := by decide
  have hlen : (countdownMarks (f.run (fun _ => none) ops).2).length = 6 := by decide
  have hmarks := chain_follows_pipeline.2 f (fun _ => none) ops hkeep
  dsimp only at hmarks
  rw [hlen] at hmarks
  exact ⟨hkeep, hmarks.trans (by decide)⟩

end TrafficShaper
