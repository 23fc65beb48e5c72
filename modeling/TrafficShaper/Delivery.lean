import TrafficShaper.Buffer

/-! # The delivery loop

Delayed buffers are handed to a delivery loop with a deadline. The loop reads its commands from
a first-in first-out channel; a received delivery gets the next arrival number and waits among
the pending ones, which leave in order of deadline and, at equal deadlines, of arrival. At a
reading of the clock every pending delivery whose deadline has come is pushed, in that order.
When the loop is told to quit it stops, and what it still holds is discarded.

* `Loop.post`: a delivery into the channel;
* `Loop.receiveAll`: every command of the channel into the pending order;
* `Loop.due`: the deliveries whose deadline has come, in order, and the loop without them;
* `Loop.size`: the deliveries held, in the channel or pending.
-/

namespace TrafficShaper

/-- **A delivery**: a buffer and the time (nanoseconds) before which it may not leave. -/
structure Delivery where
  deadline : Nat
  buffer : Buffer

/-- A received delivery with its arrival number. -/
structure Pending where
  deadline : Nat
  seq : Nat
  buffer : Buffer

/-- **The delivery loop**: the channel (oldest first), the pending deliveries in leaving order,
and the next arrival number. -/
structure Loop where
  channel : List Delivery
  pending : List Pending
  nextSeq : Nat

/-- A loop with nothing in it. -/
def Loop.empty : Loop := ⟨[], [], 0⟩

/-- A delivery posted to the channel. -/
def Loop.post (l : Loop) (d : Delivery) : Loop := { l with channel := l.channel ++ [d] }

/-- A pending delivery put in its place: after every one with an earlier or equal deadline (those
arrived earlier), before the later ones. -/
def insertPending (p : Pending) (ps : List Pending) : List Pending :=
  ps.takeWhile (·.deadline ≤ p.deadline) ++ p :: ps.dropWhile (·.deadline ≤ p.deadline)

/-- One command of the channel received, if there is one. -/
def Loop.receive (l : Loop) : Loop :=
  match l.channel with
  | [] => l
  | d :: ds => ⟨ds, insertPending ⟨d.deadline, l.nextSeq, d.buffer⟩ l.pending, l.nextSeq + 1⟩

/-- Every command of the channel received, oldest first. -/
def Loop.receiveAll (l : Loop) : Loop := Nat.repeat Loop.receive l.channel.length l

/-- **The deliveries due** at `now`, in leaving order, and the loop without them. -/
def Loop.due (l : Loop) (now : Nat) : List Pending × Loop :=
  (l.pending.takeWhile (·.deadline ≤ now), { l with pending := l.pending.dropWhile (·.deadline ≤ now) })

/-- The deliveries held: in the channel or pending. -/
def Loop.size (l : Loop) : Nat := l.channel.length + l.pending.length

end TrafficShaper
