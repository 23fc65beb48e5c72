import TrafficShaper.Buffer
import TrafficShaper.DecimalText.Layout
import TrafficShaper.Binary.Round

/-! # Counters and metric events

A filter counts what becomes of the buffers it receives: rejected by the token bucket, dropped,
duplicated, delayed, forwarded at once or after a delay, discarded when the delivery loop
stops, and the bytes forwarded. Beside the counters, every decision is reported as a metric
event, in the order the decisions are taken.

**The summary** gives the counters in one line, with the share of lost buffers (dropped or
rejected, over received, as doubles) in percent with one decimal place.

* `Stats`, `Stats.lossRate`, `Stats.summary`;
* `Metric`, `Metric.text`: the events and their written form.
-/

namespace TrafficShaper

open TrafficShaper.Binary TrafficShaper.DecimalText

/-- **The counters** of a filter. -/
structure Stats where
  received : Nat
  rejected : Nat
  dropped : Nat
  duplicated : Nat
  delayed : Nat
  forwardedImmediate : Nat
  forwardedDelayed : Nat
  discardedOnStop : Nat
  bytesForwarded : Nat
  deriving DecidableEq, Repr

/-- All counters at zero. -/
def Stats.zero : Stats := ⟨0, 0, 0, 0, 0, 0, 0, 0, 0⟩

/-- The buffers forwarded, at once or later. -/
def Stats.forwardedTotal (s : Stats) : Nat := s.forwardedImmediate + s.forwardedDelayed

/-- **The loss rate**: dropped and rejected over received, as doubles; 0 before any buffer. -/
def Stats.lossRate (s : Stats) : Binary64 :=
  if s.received = 0 then ⟨0⟩
  else (Binary64.ofNat (s.dropped + s.rejected)).div (Binary64.ofNat s.received)

/-- The double `100`. -/
def hundred : Binary64 := Binary64.ofNat 100

/-- **The summary line** of the counters. -/
def Stats.summary (s : Stats) : String :=
  "Received: " ++ toString s.received ++ ", Rejected: " ++ toString s.rejected ++
    ", Dropped: " ++ toString s.dropped ++ " (" ++ (s.lossRate.mul hundred).fixedText 1 ++
    "% lost), Duplicated: " ++ toString s.duplicated ++ ", Delayed: " ++ toString s.delayed ++
    ", Forwarded: " ++ toString s.forwardedImmediate ++ " immediate / " ++
    toString s.forwardedDelayed ++ " delayed, Discarded on stop: " ++ toString s.discardedOnStop

/-- Why a buffer was dropped. -/
inductive DropReason where
  | countdown
  | probability
  deriving DecidableEq, Repr

/-- How a buffer was forwarded. -/
inductive Path where
  | immediate
  | delayed
  deriving DecidableEq, Repr

/-- **A metric event.** -/
inductive Metric where
  | received
  | bytesReceived (n : Nat)
  | rejected
  | dropped (reason : DropReason)
  | duplicated
  | delayed
  | delayMs (ms : Nat)
  | forwarded (path : Path)
  | bytesForwarded (n : Nat)
  deriving DecidableEq, Repr

/-- The written form of an event: a counter with its labels and increment, or the delay sample
as a double. -/
def Metric.text : Metric → String
  | .received => "netsim_buffers_received_total +1"
  | .bytesReceived n => "netsim_bytes_received_total +" ++ toString n
  | .rejected => "netsim_buffers_rejected_total +1"
  | .dropped .countdown => "netsim_buffers_dropped_total\x7breason=countdown\x7d +1"
  | .dropped .probability => "netsim_buffers_dropped_total\x7breason=probability\x7d +1"
  | .duplicated => "netsim_buffers_duplicated_total +1"
  | .delayed => "netsim_buffers_delayed_total +1"
  | .delayMs ms => "netsim_delay_ms " ++ (Binary64.ofNat ms).plainText
  | .forwarded .immediate => "netsim_buffers_forwarded_total\x7bpath=immediate\x7d +1"
  | .forwarded .delayed => "netsim_buffers_forwarded_total\x7bpath=delayed\x7d +1"
  | .bytesForwarded n => "netsim_bytes_forwarded_total +" ++ toString n

end TrafficShaper
