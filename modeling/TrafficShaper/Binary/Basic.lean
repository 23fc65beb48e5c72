/-! # Binary floating-point formats

An IEEE 754 binary interchange format is fixed by two widths: the significand's precision `p`
(the hidden leading bit included) and the exponent field's width. A bit pattern has a sign bit,
the exponent field and `p - 1` fraction bits. Exponent field 0 holds the zeros and the subnormal
values `f · 2^minExp`; the all-ones field holds the infinities (fraction 0) and the NaNs; every
other field `E` holds `(2^(p-1) + f) · 2^(E - bias - (p - 1))`.

The library keeps a value as its bits (`Binary32`, `Binary64`), so that two values are equal
exactly when their bits are, and reads the bits through `Format.decode` into a `Value`: a sign
with an integer significand and a power of two, an infinity, or NaN. Every arithmetic fact the
library needs is stated on that exact view.

* `Format.decode`: what a bit pattern stands for;
* `single`, `double`: the 32-bit and the 64-bit format.
-/

namespace TrafficShaper.Binary

/-- **An interchange format**: the significand bits (hidden bit included) and the exponent field
width. -/
structure Format where
  precision : Nat
  exponentBits : Nat

/-- The 32-bit format: 24 significand bits, 8 exponent bits. -/
def single : Format := ⟨24, 8⟩

/-- The 64-bit format: 53 significand bits, 11 exponent bits. -/
def double : Format := ⟨53, 11⟩

/-- Bits of the fraction field. -/
def Format.fractionBits (f : Format) : Nat := f.precision - 1

/-- The exponent bias. -/
def Format.bias (f : Format) : Nat := Nat.pow 2 (f.exponentBits - 1) - 1

/-- The all-ones exponent field, which marks infinities and NaNs. -/
def Format.topField (f : Format) : Nat := Nat.pow 2 f.exponentBits - 1

/-- The weight of the sign bit. -/
def Format.signWeight (f : Format) : Nat := Nat.pow 2 (f.fractionBits + f.exponentBits)

/-- The exponent of one unit of the significand of subnormals (and of the least normals). -/
def Format.minExp (f : Format) : Int := 1 - (f.bias : Int) - f.fractionBits

/-- The exponent of one unit of the significand of the largest finite values. -/
def Format.maxExp (f : Format) : Int := ((f.topField - 1 : Nat) : Int) - f.bias - f.fractionBits

/-- The least normal significand, `2^(p-1)`. -/
def Format.hidden (f : Format) : Nat := Nat.pow 2 f.fractionBits

/-- **What a bit pattern stands for**: `finite s m e` is `(-1)^s · m · 2^e`. -/
inductive Value where
  | finite (negative : Bool) (m : Nat) (e : Int)
  | infinite (negative : Bool)
  | nan
  deriving DecidableEq, Repr

/-- The value of a bit pattern of the format. -/
def Format.decode (f : Format) (bits : Nat) : Value :=
  let frac := bits % f.hidden
  let field := bits / f.hidden % Nat.pow 2 f.exponentBits
  let negative := bits / f.signWeight % 2 == 1
  if field = 0 then .finite negative frac f.minExp
  else if field = f.topField then (if frac = 0 then .infinite negative else .nan)
  else .finite negative (f.hidden + frac) (f.minExp + ((field - 1 : Nat) : Int))

/-- The bits of an infinity of the given sign. -/
def Format.infinityBits (f : Format) (negative : Bool) : Nat :=
  (if negative then f.signWeight else 0) + f.topField * f.hidden

/-- **A 32-bit value**, kept as its bits. -/
structure Binary32 where
  bits : UInt32
  deriving DecidableEq, Repr

/-- **A 64-bit value**, kept as its bits. -/
structure Binary64 where
  bits : UInt64
  deriving DecidableEq, Repr

/-- The value of a 32-bit pattern. -/
def Binary32.decode (x : Binary32) : Value := single.decode x.bits.toNat

/-- The value of a 64-bit pattern. -/
def Binary64.decode (x : Binary64) : Value := double.decode x.bits.toNat

/-- Whether a 32-bit value is finite: its exponent field is not all ones. -/
def Binary32.isFinite (x : Binary32) : Bool := x.bits &&& 0x7F800000 != 0x7F800000

/-- Whether a double is finite: its exponent field is not all ones. -/
def Binary64.isFinite (x : Binary64) : Bool :=
  x.bits &&& 0x7FF0000000000000 != 0x7FF0000000000000

/-- Positive zero. -/
def Binary32.zero : Binary32 := ⟨0⟩

/-- One. -/
def Binary32.one : Binary32 := ⟨0x3F800000⟩

end TrafficShaper.Binary
