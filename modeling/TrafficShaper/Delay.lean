import TrafficShaper.Random.Draw
import TrafficShaper.Binary.Round

/-! # Delay distributions

A delayed buffer waits a number of milliseconds drawn between the configured `min` and `max`.

**Uniform.** A bounded integer of `[min, max)`, or `min` itself with no draw when `max ≤ min`.

**Normal.** A normal variable whose 95% interval is `[min, max]`: mean `μ = (max + min) / 2`,
deviation `σ = (max - min) / (2 · 1.96)`, computed in doubles. The Box-Muller transform turns two
unit draws `u₁, u₂` into two independent standard normals `z₀ = t cos θ`, `z₁ = t sin θ`, with
`t = √(-2 ln u₁)` and `θ = 2π u₂`; a pair whose `u₁` is at most the double epsilon `2⁻⁵²` is drawn
again. One transform serves two samples: the pair cache flips its `generate` flag at every
sample, transforms and returns `z₀ σ + μ` when the flag turns on, and returns the cached
`z₁ σ + μ`, with the bounds of the current call and no draw, when it turns off. A sample is
rounded half away from zero and saturated to a signed 64-bit integer.

A delay is never negative: a negative sample becomes 0.

* `Distribution.ofName?`: the two names, exactly;
* `NormalPair.sample`: one normal sample through the pair cache;
* `Distribution.sample`: a delay in milliseconds.
-/

namespace TrafficShaper

open TrafficShaper.Random TrafficShaper.Binary

/-- **The shape of the delay** of delayed buffers. -/
inductive Distribution where
  | uniform
  | normal
  deriving DecidableEq, Repr

/-- The name of a distribution. -/
def Distribution.name : Distribution → String
  | .uniform => "uniform"
  | .normal => "normal"

/-- The distribution of a name: exactly `uniform` or `normal`. -/
def Distribution.ofName? (s : String) : Option Distribution :=
  if s = "uniform" then some .uniform else if s = "normal" then some .normal else none

/-- **The Box-Muller pair cache**: whether the next sample transforms, and the last pair, as
doubles. -/
structure NormalPair where
  generate : Bool
  z0 : Binary64
  z1 : Binary64
  deriving DecidableEq, Repr

/-- The empty cache: the first sample transforms. -/
def NormalPair.fresh : NormalPair := ⟨false, ⟨0⟩, ⟨0⟩⟩

/-- The double `k · 2⁻⁵³` of a unit draw. -/
def unitFloat (k : Nat) : Float := k.toUInt64.toFloat * Float.ofBits 0x3CA0000000000000

/-- π as a double. -/
def piFloat : Float := Float.ofBits 0x400921FB54442D18

/-- The transform of one accepted pair of unit draws. -/
def boxMuller (u1 u2 : Nat) : Binary64 × Binary64 :=
  let t1 := Float.sqrt ((-2.0) * Float.log (unitFloat u1))
  let t2 := 2.0 * piFloat * unitFloat u2
  (⟨(t1 * Float.cos t2).toBits⟩, ⟨(t1 * Float.sin t2).toBits⟩)

/-- The number of redrawn pairs after which the transform takes the pair it has. A pair is
redrawn with probability `2⁻⁵²`, so the bound only keeps the loop total. -/
def redrawLimit : Nat := Nat.pow 2 32

/-- Two unit draws, drawn again while the first is at most `2⁻⁵²` (that is, `k ≤ 2`). -/
def Random.Generator.acceptedPair : Nat → Generator → (Nat × Nat) × Generator
  | fuel, g =>
    let (u1, g) := g.unitDraw
    let (u2, g) := g.unitDraw
    match fuel with
    | 0 => ((u1, u2), g)
    | fuel + 1 => if 2 < u1 then ((u1, u2), g) else acceptedPair fuel g

/-- A double truncated towards zero to a signed 64-bit integer, saturating; NaN gives 0. -/
def Binary64.toInt64Sat (x : Binary64) : Int :=
  let clamp := fun (v : Int) => max (-(Int.pow 2 63)) (min (Int.pow 2 63 - 1) v)
  match x.decode with
  | .finite s m e =>
    let mag : Nat := if 0 ≤ e then m * Nat.pow 2 e.toNat else m / Nat.pow 2 (-e).toNat
    clamp (if s then -(mag : Int) else mag)
  | .infinite s => if s then -(Int.pow 2 63) else Int.pow 2 63 - 1
  | .nan => 0

/-- `z σ + μ` rounded half away from zero, saturated to 64 bits. -/
def scaleNormal (z : Binary64) (lo hi : Int32) : Int :=
  let low := Float.ofInt lo.toInt
  let high := Float.ofInt hi.toInt
  let mu := (high + low) / 2.0
  let sigma := (high - low) / (2.0 * 1.96)
  Binary64.toInt64Sat ⟨(Float.round (Float.ofBits z.bits * sigma + mu)).toBits⟩

/-- **One normal sample** through the pair cache. -/
def NormalPair.sample (c : NormalPair) (g : Generator) (lo hi : Int32) :
    Int × NormalPair × Generator :=
  if c.generate then (scaleNormal c.z1 lo hi, { c with generate := false }, g)
  else
    let ((u1, u2), g) := g.acceptedPair redrawLimit
    let (z0, z1) := boxMuller u1 u2
    (scaleNormal z0 lo hi, ⟨true, z0, z1⟩, g)

/-- **A delay** in milliseconds: a sample of the distribution, negatives made 0. -/
def Distribution.sample (d : Distribution) (g : Generator) (lo hi : Int32) (c : NormalPair) :
    Nat × NormalPair × Generator :=
  match d with
  | .uniform =>
    let (v, g) := g.uniformInt lo hi
    (v.toInt.toNat, c, g)
  | .normal =>
    let (v, c, g) := c.sample g lo hi
    (v.toNat, c, g)

end TrafficShaper
