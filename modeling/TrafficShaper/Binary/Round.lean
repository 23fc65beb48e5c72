import TrafficShaper.Binary.Basic

/-! # Rounding to a binary format

Every conversion into a format (reading decimal text, narrowing a double to 32 bits, an integer
to a double, a product or quotient of doubles) is one operation: the exact non-negative rational
`num / den` rounded to the nearest value of the format, an exact tie going to the even
significand, and a value beyond the largest finite one by half a unit or more going to infinity.

The exponent is the least one at which the scaled significand fits in `p` bits, but never below
the subnormal exponent; the significand is then `num / (den · 2^e)` rounded half to even. A
significand that rounds up to `2^p` moves to the next exponent.

* `roundHalfEven`: the integer nearest to `num / den`, ties to even;
* `Format.round`: the bits of `num / den` in the format, with a sign;
* `Binary64.mul`, `Binary64.div`: the rounded product and quotient of non-negative doubles.
-/

namespace TrafficShaper.Binary

/-- **Round half to even**: the integer nearest to `num / den`, the even one at a tie. -/
def roundHalfEven (num den : Nat) : Nat :=
  let q := num / den
  let r := num % den
  if den < 2 * r ∨ (2 * r = den ∧ q % 2 = 1) then q + 1 else q

/-- The pair `(n, d)` with `n / d = num / (den · 2^e)`. -/
def scaleDown (num den : Nat) (e : Int) : Nat × Nat :=
  if 0 ≤ e then (num, den * Nat.pow 2 e.toNat) else (num * Nat.pow 2 (-e).toNat, den)

/-- The exponent of a positive `num / den`: the least `e ≥ minExp` with
`num / (den · 2^e) < 2^p`. From the bit lengths, `num / den` lies strictly between `2^(l-1)`
and `2^(l+1)`, so one comparison settles it. -/
def Format.exponentFor (f : Format) (num den : Nat) : Int :=
  let l : Int := (Nat.log2 num : Int) - Nat.log2 den
  let e := l - f.fractionBits
  let (n, d) := scaleDown num den e
  max (if n / d < f.hidden then e - 1 else e) f.minExp

/-- The bits of a significand `m < 2^p` at exponent `e ≥ minExp`, infinity past the largest
exponent; a significand below `2^(p-1)` is subnormal. -/
def Format.encode (f : Format) (negative : Bool) (m : Nat) (e : Int) : Nat :=
  if f.maxExp < e then f.infinityBits negative
  else
    let sign := if negative then f.signWeight else 0
    if m < f.hidden then sign + m
    else sign + (e - f.minExp + 1).toNat * f.hidden + (m - f.hidden)

/-- **Rounding to the format**: the bits of `± num / den`, to nearest, ties to even. A zero keeps
its sign. -/
def Format.round (f : Format) (negative : Bool) (num den : Nat) : Nat :=
  if num = 0 then (if negative then f.signWeight else 0)
  else
    let e := f.exponentFor num den
    let (n, d) := scaleDown num den e
    let m := roundHalfEven n d
    if m = 2 * f.hidden then f.encode negative f.hidden (e + 1) else f.encode negative m e

/-- The 32-bit value nearest to `± num / den`. -/
def Binary32.ofRatio (negative : Bool) (num den : Nat) : Binary32 :=
  ⟨(single.round negative num den).toUInt32⟩

/-- The 64-bit value nearest to `± num / den`. -/
def Binary64.ofRatio (negative : Bool) (num den : Nat) : Binary64 :=
  ⟨(double.round negative num den).toUInt64⟩

/-- The exact value `m · 2^e` as a ratio of naturals. -/
def ratioOf (m : Nat) (e : Int) : Nat × Nat :=
  if 0 ≤ e then (m * Nat.pow 2 e.toNat, 1) else (m, Nat.pow 2 (-e).toNat)

/-- **Narrowing** a double to 32 bits: to nearest, ties to even; NaN stays a quiet NaN of its
sign. -/
def Binary64.toBinary32 (x : Binary64) : Binary32 :=
  match x.decode with
  | .finite s m e => let (n, d) := ratioOf m e; Binary32.ofRatio s n d
  | .infinite s => ⟨(single.infinityBits s).toUInt32⟩
  | .nan => ⟨if x.bits >>> 63 == 1 then 0xFFC00000 else 0x7FC00000⟩

/-- **Widening** a 32-bit value to a double, which is exact. -/
def Binary32.toBinary64 (x : Binary32) : Binary64 :=
  match x.decode with
  | .finite s m e => let (n, d) := ratioOf m e; Binary64.ofRatio s n d
  | .infinite s => ⟨(double.infinityBits s).toUInt64⟩
  | .nan => ⟨if x.bits >>> 31 == 1 then 0xFFF8000000000000 else 0x7FF8000000000000⟩

/-- The double nearest to a natural number. -/
def Binary64.ofNat (n : Nat) : Binary64 := Binary64.ofRatio false n 1

/-- The 32-bit value nearest to an integer. -/
def Binary32.ofInt (n : Int) : Binary32 := Binary32.ofRatio (n < 0) n.natAbs 1

/-- The rounded product of two finite non-negative doubles. -/
def Binary64.mul (a b : Binary64) : Binary64 :=
  match a.decode, b.decode with
  | .finite _ m1 e1, .finite _ m2 e2 => let (n, d) := ratioOf (m1 * m2) (e1 + e2); Binary64.ofRatio false n d
  | _, _ => ⟨(double.infinityBits false).toUInt64⟩

/-- The rounded quotient of a finite non-negative double by a positive one. -/
def Binary64.div (a b : Binary64) : Binary64 :=
  match a.decode, b.decode with
  | .finite _ m1 e1, .finite _ m2 e2 =>
    if 0 ≤ e1 - e2 then Binary64.ofRatio false (m1 * Nat.pow 2 (e1 - e2).toNat) m2
    else Binary64.ofRatio false m1 (m2 * Nat.pow 2 (e2 - e1).toNat)
  | _, _ => ⟨(double.infinityBits false).toUInt64⟩

/-- The double with the sign flipped. -/
def Binary64.neg (a : Binary64) : Binary64 := ⟨a.bits ^^^ 0x8000000000000000⟩

/-- Whether a double is an infinity. -/
def Binary64.isInfinite (a : Binary64) : Bool :=
  match a.decode with
  | .infinite _ => true
  | _ => false

/-- Whether a double is a zero of either sign. -/
def Binary64.isZero (a : Binary64) : Bool := a.bits &&& 0x7FFFFFFFFFFFFFFF == 0

end TrafficShaper.Binary
