/-! # Buffers and the downstream

A buffer is a piece of data with an optional presentation time in nanoseconds. The filter passes
buffers to a downstream, which answers each push with a flow status: accepted, or refused
because it is flushing, at the end of its stream, not linked, or failing with a message.

A downstream is modelled by what it answers to its `n`-th push, whatever that is, and by the
log of the buffers pushed to it, in order.

* `Buffer`, `FlowError`, `FlowResult`;
* `Downstream.push`: one push, its answer and the longer log.
-/

namespace TrafficShaper

/-- **A buffer**: its bytes and an optional presentation time in nanoseconds. -/
structure Buffer where
  data : ByteArray
  pts : Option Nat

/-- The size of a buffer in bytes. -/
def Buffer.size (b : Buffer) : Nat := b.data.size

/-- The size of a buffer in bits. -/
def Buffer.bits (b : Buffer) : Nat := 8 * b.size

/-- A buffer of `n` bytes all equal to `fill`. -/
def Buffer.filled (n : Nat) (fill : UInt8) (pts : Option Nat) : Buffer :=
  ⟨⟨Array.replicate n fill⟩, pts⟩

/-- **Why a downstream refuses a buffer.** -/
inductive FlowError where
  | flushing
  | eos
  | notLinked
  | error (text : String)
  deriving DecidableEq, Repr

/-- The wording of a refusal. -/
def FlowError.message : FlowError → String
  | .flushing => "Downstream is flushing"
  | .eos => "End of stream"
  | .notLinked => "Downstream not linked"
  | .error text => "Downstream error: " ++ text

/-- The answer of a downstream to a push. -/
abbrev FlowResult := Except FlowError Unit

/-- **A downstream**: its answer to each push by number, and the buffers pushed so far. -/
structure Downstream where
  answer : Nat → FlowResult
  log : Array Buffer

/-- A downstream that accepts everything. -/
def Downstream.accepting : Downstream := ⟨fun _ => .ok (), #[]⟩

/-- A downstream answering from a fixed cycle of statuses (accepting if the cycle is empty). -/
def Downstream.cycling (statuses : List FlowResult) : Downstream :=
  ⟨fun n => (statuses[n % statuses.length]?).getD (.ok ()), #[]⟩

/-- **One push**: the downstream's answer, and the buffer added to its log. -/
def Downstream.push (d : Downstream) (b : Buffer) : FlowResult × Downstream :=
  (d.answer d.log.size, { d with log := d.log.push b })

end TrafficShaper
