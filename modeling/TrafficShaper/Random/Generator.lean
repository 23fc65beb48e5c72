import TrafficShaper.Random.Block

/-! # The seeded word generator

The generator is a ChaCha keystream read one 32-bit word at a time. Its key comes from a 64-bit
seed: eight steps of a permuted congruential sequence (PCG32), each output word becoming one key
word. The keystream is produced four blocks (64 words) at a time into a buffer, and the buffer is
refilled when it runs out; a fresh generator starts with the buffer used up, so its first draw
computes blocks 0 to 3.

A wide (64-bit) draw takes two consecutive words, low word first. When only the last word of the
buffer is left it is the low word, and the high word is the first word of the next buffer.

* `Generator.ofSeed`: the generator of a seed;
* `Generator.nextWord`, `Generator.nextWide`: one 32-bit and one 64-bit draw.
-/

namespace TrafficShaper.Random

/-- One step of the seeding sequence: a 64-bit linear congruential step. -/
def seedStep (state : UInt64) : UInt64 := state * 6364136223846793005 + 11634580027462260723

/-- Rotation of a word to the right by `n mod 32` places. -/
def rotr (x : UInt32) (n : UInt32) : UInt32 := (x >>> n) ||| (x <<< (32 - n))

/-- The output word of a seeding state: xor-shift, then a rotation chosen by the top five bits. -/
def seedOutput (state : UInt64) : UInt32 :=
  rotr (((state >>> 18) ^^^ state) >>> 27).toUInt32 (state >>> 59).toUInt32

/-- Key word `i` of a seed: the output after `i + 1` seeding steps. -/
def seedKey (seed : UInt64) : Vector UInt32 8 :=
  Vector.ofFn fun i => seedOutput (Nat.repeat seedStep (i.val + 1) seed)

/-- Four consecutive twelve-round blocks, counters `c` to `c + 3`. -/
def fourBlocks (key : Vector UInt32 8) (c : UInt64) : Vector UInt32 64 :=
  Block.twelve key c ++ Block.twelve key (c + 1) ++ Block.twelve key (c + 2) ++
    Block.twelve key (c + 3)

/-- **A generator**: the key, the counter of the next refill, the buffer and how much of it is
used (64 when nothing is left). -/
structure Generator where
  key : Vector UInt32 8
  counter : UInt64
  buffer : Vector UInt32 64
  used : Nat

/-- The generator of a seed, with nothing buffered. -/
def Generator.ofSeed (seed : UInt64) : Generator :=
  ⟨seedKey seed, 0, Vector.replicate 64 0, 64⟩

/-- The next four blocks in the buffer, none of them used. -/
def Generator.refill (g : Generator) : Generator :=
  { g with buffer := fourBlocks g.key g.counter, counter := g.counter + 4, used := 0 }

/-- **A 32-bit draw**: the next buffered word, refilling first if none is left. -/
def Generator.nextWord (g : Generator) : UInt32 × Generator :=
  if h : g.used < 64 then (g.buffer[g.used], { g with used := g.used + 1 })
  else
    let r := g.refill
    (r.buffer[0], { r with used := 1 })

/-- Two words as one wide word, the first the low half. -/
def joinWords (lo hi : UInt32) : UInt64 := lo.toUInt64 ||| (hi.toUInt64 <<< 32)

/-- **A 64-bit draw**: two consecutive words, the low one first, across a refill if need be. -/
def Generator.nextWide (g : Generator) : UInt64 × Generator :=
  if h : g.used + 1 < 64 then
    (joinWords g.buffer[g.used] g.buffer[g.used + 1], { g with used := g.used + 2 })
  else if g.used < 64 then
    let r := g.refill
    (joinWords g.buffer[63] r.buffer[0], { r with used := 1 })
  else
    let r := g.refill
    (joinWords r.buffer[0] r.buffer[1], { r with used := 2 })

end TrafficShaper.Random
