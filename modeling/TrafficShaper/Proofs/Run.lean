import TrafficShaper.Filter
import TrafficShaper.Proofs.DeliveryLoop
import Mathlib

/-! # Runs of a filter

A filter lives among the calls of the program around it: buffers arrive, properties and whole
configurations are set, the generator is reseeded, the filter is activated and deactivated, and
meanwhile the delivery loop takes steps of its own. Each call holds the control lock, or the
loop's lock, for the whole of its work, so a run is a sequence of such operations in any order.
The token bucket reads a clock when a buffer arrives; the readings form a stream with one entry
for each operation, and only an arriving buffer looks at its own.

The loop's steps are those of `Loop.step`: it receives one command, or it fires at a reading of
the wall clock and pushes every due delivery downstream. `Filter.deliverDue`, which receives
every command and then fires, is such a sequence (`Filter.deliverDue_eq_fire`).

* `Filter.Op`, `Filter.exec`: one operation, with its events and its answer;
* `Filter.run`: a sequence of operations, and `Filter.run_invariant`, the induction over it;
* `Filter.states`: the filters a run passes through;
* `Filter.setProperty_frame`: setting a property changes only the configuration and the bucket;
* `Filter.held`: the deliveries the loop holds.
-/

namespace TrafficShaper

/-- The delivery loop receives one command; nothing happens while the filter is inactive. -/
def Filter.receive (f : Filter) : Filter := { f with loop := f.loop.map Loop.receive }

/-- **The delivery loop fires** at `now`: every pending delivery whose deadline has come is
pushed downstream, in leaving order. -/
def Filter.fire (f : Filter) (now : Nat) : Outcome Unit :=
  match f.loop with
  | none => ⟨f, [], ()⟩
  | some l => { f with loop := some (l.due now).2 }.deliverAll (l.due now).1

/-- Delivering what is due is receiving every command, then firing. -/
theorem Filter.deliverDue_eq_fire (f : Filter) (now : Nat) :
    f.deliverDue now = { f with loop := f.loop.map Loop.receiveAll }.fire now := by
  obtain ⟨c, g, b, pair, s, _ | l, sink⟩ := f <;> rfl

/-- **An operation on a filter**: an arriving buffer, with the wall time of the call; a
property set by name; a whole configuration; a reseed; activation and deactivation; and the two
steps of the delivery loop. -/
inductive Filter.Op where
  | chain (b : Buffer) (wall : Nat)
  | setProperty (name value : String)
  | setConfig (c : Config)
  | reseed (seed : UInt64)
  | activate
  | deactivate
  | receive
  | fire (now : Nat)

/-- What an operation answers: the downstream status for an arriving buffer, whether a property
was set, or nothing. -/
inductive Filter.Answer where
  | flow (r : FlowResult)
  | set (r : Except Error Unit)
  | done

/-- **One operation**, the clock reading `reading`: the filter after it, its events and its
answer. A refused property leaves the filter as it was. -/
def Filter.exec (f : Filter) (reading : Option Nat) : Filter.Op → Outcome Filter.Answer
  | .chain b wall =>
    let o := f.chain b reading wall
    ⟨o.filter, o.events, .flow o.value⟩
  | .setProperty name value =>
    match f.setProperty name value with
    | .ok f' => ⟨f', [], .set (.ok ())⟩
    | .error e => ⟨f, [], .set (.error e)⟩
  | .setConfig c => ⟨f.setConfig c, [], .done⟩
  | .reseed seed => ⟨f.reseed seed, [], .done⟩
  | .activate => ⟨f.activate, [], .done⟩
  | .deactivate => ⟨f.deactivate, [], .done⟩
  | .receive => ⟨f.receive, [], .done⟩
  | .fire now =>
    let o := f.fire now
    ⟨o.filter, o.events, .done⟩

/-- **A run**: the operations in order, the `n`-th reading the clock as `clock n`; the filter
after them, and the events and the answer of each. -/
def Filter.run (f : Filter) (clock : Stream' (Option Nat)) :
    List Filter.Op → Filter × List (List Metric × Filter.Answer)
  | [] => (f, [])
  | op :: ops =>
    let o := f.exec clock.head op
    let r := o.filter.run clock.tail ops
    (r.1, (o.events, o.value) :: r.2)

/-- **Induction over runs**: what every operation keeps holds after every run. -/
theorem Filter.run_invariant (P : Filter → Prop)
    (step : ∀ f reading op, P f → P (f.exec reading op).filter) :
    ∀ (f : Filter) (clock : Stream' (Option Nat)) (ops : List Filter.Op), P f →
      P (f.run clock ops).1 := by
  intro f clock ops hf
  induction ops generalizing f clock with
  | nil => exact hf
  | cons op ops ih => exact ih _ _ (step f clock.head op hf)

/-- The filters a run passes through: the first, then the one after each operation. -/
def Filter.states (f : Filter) (clock : Stream' (Option Nat)) : List Filter.Op → List Filter
  | [] => [f]
  | op :: ops => f :: (f.exec clock.head op).filter.states clock.tail ops

/-- **Setting a property changes only the configuration and the bucket**: the loop, the
generator, the statistics and the rest stay as they were. -/
theorem Filter.setProperty_frame {f f' : Filter} {name value : String}
    (hset : f.setProperty name value = .ok f') :
    f' = { f with config := f'.config, bucket := f'.bucket } := by
  unfold Filter.setProperty at hset
  split at hset
  · cases hset
  · split at hset
    · cases hset
    · cases hset
      rfl

/-- The deliveries the delivery loop holds, in its channel or pending; none while the filter is
inactive. -/
def Filter.held (f : Filter) : Nat :=
  match f.loop with
  | none => 0
  | some l => l.size

end TrafficShaper
