import TrafficShaper.Config.Property
import TrafficShaper.Bucket
import TrafficShaper.Delay
import TrafficShaper.Stats
import TrafficShaper.Delivery

/-! # The filter

A filter holds a configuration, a random generator with its normal pair cache, a token bucket,
counters, a downstream and, while it is active, a delivery loop. Every buffer that arrives goes
through the same decisions, in this order:

1. it is counted as received;
2. the token bucket admits it, at the clock reading of the call, or it is rejected;
3. while the drop countdown is above zero it is dropped, and the countdown goes down by one;
4. it is dropped with the drop chance;
5. with the duplicate chance it is duplicated and forwarded twice, else forwarded once.

**Forwarding** delays the buffer with the delay chance: a delay in milliseconds is drawn from
the distribution between the delay bounds, and the buffer is posted to the delivery loop with
the deadline that far ahead, or pushed at once if the filter is inactive. A buffer that is not
delayed is pushed at once. The answer of a call is the downstream's answer to the last push
made at once, and accepted if the last forward was posted.

**Chances.** A chance at most zero (either zero) decides "no" and draws nothing; any other draws
one unit value `u` and decides `u < p`, compared exactly.

**Control.** Setting a property changes the configuration as `Config.set` does, and the rate or
the capacity of the bucket with it (a new capacity refills the bucket); a whole configuration
replaces the rate and then the capacity. Activation resets the bucket (full again, clock mark
forgotten) and starts an empty delivery loop; deactivation discards what the loop holds.

* `Filter.chain`: one arriving buffer;
* `Filter.deliverDue`: the delayed buffers whose deadline has come;
* `Filter.setProperty`, `Filter.setConfig`, `Filter.activate`, `Filter.deactivate`.
-/

namespace TrafficShaper

open TrafficShaper.Binary TrafficShaper.Random

/-- Whether a chance is above zero: finite and positive, or positive infinity. -/
def Binary.Binary32.isPositive (p : Binary32) : Bool :=
  match p.decode with
  | .finite s m _ => !s && m != 0
  | .infinite s => !s
  | .nan => false

/-- Whether the unit value `k · 2⁻⁵³` lies below a positive chance `p`, compared exactly. -/
def Binary.Binary32.exceeds (p : Binary32) (k : Nat) : Bool :=
  match p.decode with
  | .finite _ m e =>
    if 0 ≤ e + 53 then decide (k < m * Nat.pow 2 (e + 53).toNat)
    else decide (k * Nat.pow 2 (-(e + 53)).toNat < m)
  | .infinite _ => true
  | .nan => false

/-- **A chance decided**: no draw at most zero, else one unit draw compared with it. -/
def Random.Generator.roll (g : Generator) (p : Binary32) : Bool × Generator :=
  if p.isPositive then
    let (k, g) := g.unitDraw
    (p.exceeds k, g)
  else (false, g)

/-- **A filter.** The loop is present while the filter is active. -/
structure Filter where
  config : Config
  gen : Generator
  bucket : Bucket
  pair : NormalPair
  stats : Stats
  loop : Option Loop
  sink : Downstream

/-- A new, inactive filter with a full bucket. -/
def Filter.new (c : Config) (gen : Generator) (sink : Downstream) : Filter :=
  ⟨c, gen, Bucket.new c.maxKbps c.maxBucketSize, NormalPair.fresh, Stats.zero, none, sink⟩

/-- The result of a call on a filter: the filter after it, the events in order, and an answer. -/
structure Outcome (α : Type) where
  filter : Filter
  events : List Metric
  value : α

/-- The counters changed by `g`. -/
def Filter.count (f : Filter) (g : Stats → Stats) : Filter := { f with stats := g f.stats }

/-- **A push at once**, counted as forwarded immediately. -/
def Filter.pushNow (f : Filter) (b : Buffer) : Outcome FlowResult :=
  let (r, sink) := f.sink.push b
  let f := { f with sink := sink }
  let f := f.count fun s =>
    { s with forwardedImmediate := s.forwardedImmediate + 1
             bytesForwarded := s.bytesForwarded + b.size }
  ⟨f, [.forwarded .immediate, .bytesForwarded b.size], r⟩

/-- A delayed buffer posted to the loop with its deadline `wall + ms`, or pushed at once when
the filter is inactive. -/
def Filter.schedule (f : Filter) (ms : Nat) (b : Buffer) (wall : Nat) : Outcome FlowResult :=
  match f.loop with
  | some l => ⟨{ f with loop := some (l.post ⟨wall + ms * 1000000, b⟩) }, [], .ok ()⟩
  | none => f.pushNow b

/-- **Forwarding** one copy: delayed with the delay chance, else pushed at once. -/
def Filter.forward (f : Filter) (b : Buffer) (wall : Nat) : Outcome FlowResult :=
  let (hit, g) := f.gen.roll f.config.delayProbability
  let f := { f with gen := g }
  if hit then
    let (ms, pair, g) :=
      f.config.distribution.sample f.gen f.config.minDelay f.config.maxDelay f.pair
    let f := { f with gen := g, pair := pair }
    let f := f.count fun s => { s with delayed := s.delayed + 1 }
    let o := f.schedule ms b wall
    ⟨o.filter, [.delayed, .delayMs ms] ++ o.events, o.value⟩
  else f.pushNow b

/-- The decisions after admission: countdown, drop chance, duplicate chance, forwarding. -/
def Filter.afterAdmission (f : Filter) (b : Buffer) (wall : Nat) : Outcome FlowResult :=
  if 0 < f.config.dropPackets then
    let f := { f with config := { f.config with dropPackets := f.config.dropPackets - 1 } }
    ⟨f.count fun s => { s with dropped := s.dropped + 1 }, [.dropped .countdown], .ok ()⟩
  else
    let (drop, g) := f.gen.roll f.config.dropProbability
    let f := { f with gen := g }
    if drop then
      ⟨f.count fun s => { s with dropped := s.dropped + 1 }, [.dropped .probability], .ok ()⟩
    else
      let (dup, g) := f.gen.roll f.config.duplicateProbability
      let f := { f with gen := g }
      if dup then
        let f := f.count fun s => { s with duplicated := s.duplicated + 1 }
        let first := f.forward b wall
        let second := first.filter.forward b wall
        ⟨second.filter, .duplicated :: first.events ++ second.events, second.value⟩
      else f.forward b wall

/-- **One arriving buffer**, at clock reading `now` (none without a clock); `wall` is the time
of the call for deadlines. -/
def Filter.chain (f : Filter) (b : Buffer) (now : Option Nat) (wall : Nat) :
    Outcome FlowResult :=
  let f := f.count fun s => { s with received := s.received + 1 }
  let arrived : List Metric := [.received, .bytesReceived b.size]
  let (admitted, bucket) := f.bucket.admit b.bits now
  let f := { f with bucket := bucket }
  if admitted then
    let o := f.afterAdmission b wall
    ⟨o.filter, arrived ++ o.events, o.value⟩
  else ⟨f.count fun s => { s with rejected := s.rejected + 1 }, arrived ++ [.rejected], .ok ()⟩

/-- A delayed buffer pushed by the loop: its answer is ignored, and it counts as forwarded
late. -/
def Filter.deliver (f : Filter) (b : Buffer) : Outcome Unit :=
  let (_, sink) := f.sink.push b
  let f := { f with sink := sink }
  let f := f.count fun s =>
    { s with forwardedDelayed := s.forwardedDelayed + 1
             bytesForwarded := s.bytesForwarded + b.size }
  ⟨f, [.forwarded .delayed, .bytesForwarded b.size], ()⟩

/-- Deliveries pushed one after the other. -/
def Filter.deliverAll (f : Filter) : List Pending → Outcome Unit
  | [] => ⟨f, [], ()⟩
  | p :: ps =>
    let o := f.deliver p.buffer
    let rest := o.filter.deliverAll ps
    ⟨rest.filter, o.events ++ rest.events, ()⟩

/-- **The deliveries due** at `now`: the loop receives its commands, then pushes every delivery
whose deadline has come, in leaving order. -/
def Filter.deliverDue (f : Filter) (now : Nat) : Outcome Unit :=
  match f.loop with
  | none => ⟨f, [], ()⟩
  | some l =>
    let (due, l) := l.receiveAll.due now
    { f with loop := some l }.deliverAll due

/-- **Setting a property** by name; the bucket follows the rate and the capacity. -/
def Filter.setProperty (f : Filter) (name : String) (value : String) : Except Error Filter :=
  match Property.ofName? name with
  | none => .error (.unknownProperty name)
  | some p =>
    match f.config.set p value with
    | .error e => .error e
    | .ok c =>
      let bucket := match p with
        | .maxKbps => f.bucket.setMaxKbps c.maxKbps
        | .maxBucketSize => f.bucket.setMaxBucketSize c.maxBucketSize
        | _ => f.bucket
      .ok { f with config := c, bucket := bucket }

/-- The text of a property by name. -/
def Filter.property (f : Filter) (name : String) : Except Error String :=
  match Property.ofName? name with
  | none => .error (.unknownProperty name)
  | some p => .ok (f.config.get p)

/-- **A whole configuration**: the rate, then the capacity (refilling), then the rest. -/
def Filter.setConfig (f : Filter) (c : Config) : Filter :=
  { f with config := c, bucket := (f.bucket.setMaxKbps c.maxKbps).setMaxBucketSize c.maxBucketSize }

/-- A fresh generator from a seed; the pair cache stays. -/
def Filter.reseed (f : Filter) (seed : UInt64) : Filter := { f with gen := Generator.ofSeed seed }

/-- Whether the filter is active. -/
def Filter.isActive (f : Filter) : Bool := f.loop.isSome

/-- **Activation**: nothing if active; else a reset bucket and an empty loop. -/
def Filter.activate (f : Filter) : Filter :=
  if f.isActive then f else { f with bucket := f.bucket.reset, loop := some Loop.empty }

/-- **Deactivation**: nothing if inactive; else the loop stops and what it holds is discarded. -/
def Filter.deactivate (f : Filter) : Filter :=
  match f.loop with
  | none => f
  | some l =>
    { f with loop := none }.count fun s => { s with discardedOnStop := s.discardedOnStop + l.size }

/-- All counters back to zero. -/
def Filter.resetStats (f : Filter) : Filter := { f with stats := Stats.zero }

end TrafficShaper
