import TrafficShaper.Random.Generator
import TrafficShaper.Binary.Round

/-! # Draws from the generator

Two kinds of draw are built on the raw words.

**The unit interval.** A wide draw keeps its top 53 bits, `k`, and stands for `k · 2⁻⁵³`: an
exactly representable double in `[0, 1)`, every multiple of `2⁻⁵³` there equally likely.
The draw is kept as the integer `k`, so that comparisons with it are exact.

**A bounded integer.** An integer of `[lo, hi)` is `lo` plus the high half of the 64-bit product
of a 32-bit draw and the width `hi - lo`. A draw whose low half of that product lies above the
acceptance zone is rejected and drawn again; the zone is the width shifted up to the top bit,
less one, which keeps the accepted draws unbiased. An empty range gives `lo` and draws nothing.

* `Generator.unitDraw`: the 53-bit draw, and `Generator.uniformDouble`, the same as a double;
* `Generator.uniformInt`: a 32-bit integer of a half-open range.
-/

namespace TrafficShaper.Random

/-- **A unit draw**: the top 53 bits of a wide draw, standing for `k · 2⁻⁵³`. -/
def Generator.unitDraw (g : Generator) : Nat × Generator :=
  let (w, g) := g.nextWide
  ((w >>> 11).toNat, g)

/-- **A unit draw as a double**: `k · 2⁻⁵³`, exactly. -/
def Generator.uniformDouble (g : Generator) : Binary.Binary64 × Generator :=
  let (k, g) := g.unitDraw
  (Binary.Binary64.ofRatio false k (Nat.pow 2 53), g)

/-- The number of 32-bit draws after which a bounded draw stops rejecting. Each rejection has
probability below one half, so the bound is never reached in practice; it keeps the loop total. -/
def rejectionLimit : Nat := Nat.pow 2 32

/-- The acceptance zone of a width: the width shifted up to the top bit, less one. -/
def acceptZone (width : UInt32) : UInt32 := (width <<< width.toBitVec.clz.toNat.toUInt32) - 1

/-- The high half of a draw times the width, drawing again while the low half leaves the zone;
after `fuel` rejections the next draw is taken as it is. -/
def Generator.scaledBelow (width zone : UInt32) : Nat → Generator → UInt32 × Generator
  | 0, g =>
    let (v, g) := g.nextWord
    ((v.toUInt64 * width.toUInt64 >>> 32).toUInt32, g)
  | fuel + 1, g =>
    let (v, g) := g.nextWord
    let m := v.toUInt64 * width.toUInt64
    if m.toUInt32 ≤ zone then ((m >>> 32).toUInt32, g) else scaledBelow width zone fuel g

/-- **A bounded integer** of `[lo, hi)`; `lo` with no draw when the range is empty. -/
def Generator.uniformInt (g : Generator) (lo hi : Int32) : Int32 × Generator :=
  if hi ≤ lo then (lo, g)
  else
    let width := (hi - lo).toUInt32
    let (off, g) := g.scaledBelow width (acceptZone width) rejectionLimit
    (lo + off.toInt32, g)

end TrafficShaper.Random
