/-! # The ChaCha block function

A ChaCha block turns a 256-bit key and a 64-bit block counter into sixteen 32-bit words of
keystream. The state is four constant words, the eight key words, the counter in two words
(low first) and two zero words of stream number; a number of rounds, alternately on the
columns and on the diagonals of the 4×4 state, mixes it, and the words of the start are added
back in (the feed-forward).

* `block`: the sixteen output words of one block, for any number of double rounds;
* `Block.twelve`: the twelve-round variant (six double rounds) that the generator uses.
-/

namespace TrafficShaper.Random

/-- The sixteen words of a ChaCha state. -/
abbrev BlockState := Vector UInt32 16

/-- Rotation of a word to the left by `n` places, `0 < n < 32`. -/
def rotl (x : UInt32) (n : UInt32) : UInt32 := (x <<< n) ||| (x >>> (32 - n))

/-- **The quarter round** on four words: add, xor, rotate by 16, 12, 8 and 7. -/
def quarterRound (a b c d : UInt32) : UInt32 × UInt32 × UInt32 × UInt32 :=
  let a := a + b
  let d := rotl (d ^^^ a) 16
  let c := c + d
  let b := rotl (b ^^^ c) 12
  let a := a + b
  let d := rotl (d ^^^ a) 8
  let c := c + d
  let b := rotl (b ^^^ c) 7
  (a, b, c, d)

/-- The quarter round on the words at four places of the state. -/
def quarterAt (s : BlockState) (i j k l : Fin 16) : BlockState :=
  let (a, b, c, d) := quarterRound (s.get i) (s.get j) (s.get k) (s.get l)
  (((s.set i.val a i.isLt).set j.val b j.isLt).set k.val c k.isLt).set l.val d l.isLt

/-- One double round: the four columns, then the four diagonals. -/
def doubleRound (s : BlockState) : BlockState :=
  let s := quarterAt s 0 4 8 12
  let s := quarterAt s 1 5 9 13
  let s := quarterAt s 2 6 10 14
  let s := quarterAt s 3 7 11 15
  let s := quarterAt s 0 5 10 15
  let s := quarterAt s 1 6 11 12
  let s := quarterAt s 2 7 8 13
  quarterAt s 3 4 9 14

/-- The words of "expand 32-byte k", read little-endian. -/
def sigma : Vector UInt32 4 := #v[0x61707865, 0x3320646e, 0x79622d32, 0x6b206574]

/-- The state a block starts from: constants, key, counter (low word first), zero stream. -/
def initialState (key : Vector UInt32 8) (counter : UInt64) : BlockState :=
  sigma ++ key ++ #v[counter.toUInt32, (counter >>> 32).toUInt32, 0, 0]

/-- **A block**: `doubles` double rounds from the start, then the start added word by word. -/
def block (doubles : Nat) (key : Vector UInt32 8) (counter : UInt64) : BlockState :=
  let start := initialState key counter
  Vector.zipWith (· + ·) (Nat.repeat doubleRound doubles start) start

/-- The twelve-round block: six double rounds. -/
def Block.twelve (key : Vector UInt32 8) (counter : UInt64) : BlockState := block 6 key counter

end TrafficShaper.Random
