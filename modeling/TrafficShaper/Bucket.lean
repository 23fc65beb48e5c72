/-! # The token bucket

Tokens are bits. A bucket holds up to its capacity, `max-bucket-size · 1000` bits, and is paid
from elapsed clock time at `max-kbps · 1000` bits per second; a negative setting means that
side is unlimited. A buffer is admitted when the bucket, topped up first, holds at least its
size, and it then takes its size out; a rejected buffer takes nothing.

**Paying for time.** Only whole tokens are handed out, and the clock mark `prevTime` moves
forward by exactly what they cost, so the fraction of a token that elapsed time has not yet paid
for carries over to the next call. The first reading only sets the mark. A reading before the
mark, or no reading at all, pays nothing; a zero rate sets the mark and pays nothing.

**Fixed widths.** Clock readings are 64-bit nanosecond counts. The count of tokens is truncated
to 64 bits, the result is a signed 64-bit count, and the mark advances by a 64-bit addition, as
the words they are held in dictate (`wrap64`, `signed64`).

* `Bucket.tokensAvailable`: the tokens that a reading pays for, and the moved mark;
* `Bucket.admit`: the admission test of a buffer of a number of bits at a reading.
-/

namespace TrafficShaper

/-- Nanoseconds in a second. -/
def nanosPerSecond : Nat := 1000000000

/-- A natural number as a 64-bit word. -/
def wrap64 (n : Nat) : Nat := n % Nat.pow 2 64

/-- A 64-bit word read as a signed (two's complement) integer. -/
def signed64 (n : Nat) : Int := if n < Nat.pow 2 63 then n else (n : Int) - Int.pow 2 64

/-- **A token bucket**: the tokens held, the clock mark up to which time is paid for, and the
two settings as configured (negative: unlimited). -/
structure Bucket where
  tokens : Nat
  prevTime : Option Nat
  maxKbps : Int32
  maxBucketSize : Int32
  deriving DecidableEq, Repr

/-- The capacity in bits; none when unlimited. -/
def Bucket.capacity (b : Bucket) : Option Nat :=
  if 0 ≤ b.maxBucketSize.toInt then some (b.maxBucketSize.toInt.toNat * 1000) else none

/-- The rate in bits per second; none when unlimited. -/
def Bucket.rate (b : Bucket) : Option Nat :=
  if 0 ≤ b.maxKbps.toInt then some (b.maxKbps.toInt.toNat * 1000) else none

/-- A limited bucket filled to its capacity; an unlimited one unchanged. -/
def Bucket.refill (b : Bucket) : Bucket :=
  match b.capacity with
  | some c => { b with tokens := c }
  | none => b

/-- **A new bucket**, full if limited, with no clock mark. -/
def Bucket.new (maxKbps maxBucketSize : Int32) : Bucket :=
  Bucket.refill ⟨0, none, maxKbps, maxBucketSize⟩

/-- A new rate; the tokens and the mark stay. -/
def Bucket.setMaxKbps (b : Bucket) (v : Int32) : Bucket := { b with maxKbps := v }

/-- A new capacity, refilling a limited bucket. -/
def Bucket.setMaxBucketSize (b : Bucket) (v : Int32) : Bucket :=
  Bucket.refill { b with maxBucketSize := v }

/-- Full again, with the clock mark forgotten. -/
def Bucket.reset (b : Bucket) : Bucket := Bucket.refill { b with prevTime := none }

/-- The whole tokens that `elapsed` nanoseconds pay for at `rate` bits per second, truncated
to 64 bits. -/
def tokensFor (elapsed rate : Nat) : Nat := wrap64 (elapsed * rate / nanosPerSecond)

/-- What `tokens` tokens cost in nanoseconds at `rate`, rounded down, truncated to 64 bits. -/
def costOf (tokens rate : Nat) : Nat := wrap64 (tokens * nanosPerSecond / rate)

/-- **The tokens a reading pays for**, as a signed count, and the bucket with its mark moved.
With an unlimited rate it is what tops the bucket up to its capacity (0 if unlimited too). -/
def Bucket.tokensAvailable (b : Bucket) (now : Option Nat) : Int × Bucket :=
  match b.rate with
  | none => ((b.capacity.getD 0 : Int) - b.tokens, b)
  | some rate =>
    match now with
    | none => (0, b)
    | some now =>
      let (elapsed, b) := match b.prevTime with
        | none => (0, { b with prevTime := some now })
        | some prev => if now < prev then (0, b) else (now - prev, b)
      if rate = 0 then (0, b)
      else
        let tokens := tokensFor elapsed rate
        let b := { b with prevTime := b.prevTime.map fun p => wrap64 (p + costOf tokens rate) }
        (signed64 tokens, b)

/-- The tokens after adding a grant, kept within `[0, capacity]`. -/
def topUp (tokens : Nat) (grant : Int) (capacity : Nat) : Nat :=
  (min (capacity : Int) (max 0 ((tokens : Int) + grant))).toNat

/-- **Admission** of a buffer of `bits` at a reading: an unlimited bucket admits everything and
does not change; a limited one is topped up first and admits when it holds at least `bits`,
which it then gives up. -/
def Bucket.admit (b : Bucket) (bits : Nat) (now : Option Nat) : Bool × Bucket :=
  match b.capacity with
  | none => (true, b)
  | some capacity =>
    let (grant, b) := b.tokensAvailable now
    let held := topUp b.tokens grant capacity
    if held < bits then (false, { b with tokens := held })
    else (true, { b with tokens := held - bits })

end TrafficShaper
