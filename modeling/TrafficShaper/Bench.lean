import TrafficShaper.Filter

/-! # A bench for the filter

A bench drives a filter as a program around it would: it owns the clock the token bucket reads
and the time that delivery deadlines count from.

**Clocks.** The bucket reads a manual clock (set and advanced by hand, 64-bit nanoseconds,
advancing wraps), no clock at all, or the wall time of the bench. The wall time starts at zero
and moves only when the bench waits; delayed buffers leave during a wait once their deadline
has come.

* `Bench.chain`: one buffer, with the events and the buffers pushed meanwhile;
* `Bench.chainMany`: a run of numbered buffers, the manual clock advancing after each;
* `Bench.wait`: time passes, and due deliveries leave.
-/

namespace TrafficShaper

/-- What the token bucket reads. -/
inductive ClockKind where
  | manual
  | absent
  | wall
  deriving DecidableEq, Repr

/-- **A bench**: the filter, the clock it reads, the manual clock, and the wall time in
nanoseconds. -/
structure Bench where
  filter : Filter
  clock : ClockKind
  manual : Nat
  wall : Nat

/-- The reading the bucket gets. -/
def Bench.reading (b : Bench) : Option Nat :=
  match b.clock with
  | .manual => some b.manual
  | .absent => none
  | .wall => some b.wall

/-- What a bench call hands back: the bench after it, the events, the buffers pushed meanwhile,
and an answer. -/
structure Report (α : Type) where
  bench : Bench
  events : List Metric
  pushed : List Buffer
  value : α

/-- The buffers pushed since the downstream's log had `before` entries. -/
def Filter.pushedSince (f : Filter) (before : Nat) : List Buffer :=
  (f.sink.log.extract before f.sink.log.size).toList

/-- **One buffer** through the filter at the bench's reading and wall time. -/
def Bench.chain (b : Bench) (buf : Buffer) : Report FlowResult :=
  let before := b.filter.sink.log.size
  let o := b.filter.chain buf b.reading b.wall
  ⟨{ b with filter := o.filter }, o.events, o.filter.pushedSince before, o.value⟩

/-- The manual clock advanced by `ns`, wrapping at 64 bits. -/
def Bench.advance (b : Bench) (ns : Nat) : Bench := { b with manual := wrap64 (b.manual + ns) }

/-- The manual clock set. -/
def Bench.setClock (b : Bench) (ns : Nat) : Bench := { b with manual := wrap64 ns }

/-- The answers of a run of buffers: how many were refused, the presentation times of the
pushes, the delays drawn. -/
structure RunSummary where
  refused : Nat
  pushedPts : List (Option Nat)
  delays : List Nat

/-- The delays of the delay events. -/
def delaysOf (events : List Metric) : List Nat :=
  events.filterMap fun e => match e with
    | .delayMs ms => some ms
    | _ => none

/-- **A run of buffers**: buffer `i` has `size` bytes equal to `i mod 256` and presentation time
`start + i`; the manual clock advances by `step` after each. -/
def Bench.chainMany (b : Bench) (count size start step : Nat) : Bench × RunSummary :=
  (List.range count).foldl (fun (b, acc) i =>
    let r := b.chain (Buffer.filled size (i % 256).toUInt8 (some (start + i)))
    let refused := if r.value matches .ok () then 0 else 1
    (r.bench.advance step,
      ⟨acc.refused + refused, acc.pushedPts ++ r.pushed.map (·.pts), acc.delays ++ delaysOf r.events⟩))
    (b, ⟨0, [], []⟩)

/-- **Waiting** `ms` milliseconds of wall time: the deliveries due by then leave. -/
def Bench.wait (b : Bench) (ms : Nat) : Report Unit :=
  let wall := b.wall + ms * 1000000
  let before := b.filter.sink.log.size
  let o := b.filter.deliverDue wall
  ⟨{ b with filter := o.filter, wall := wall }, o.events, o.filter.pushedSince before, ()⟩

end TrafficShaper
