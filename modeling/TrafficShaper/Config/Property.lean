import TrafficShaper.Error
import TrafficShaper.DecimalText.Read
import TrafficShaper.Text.Blank

/-! # Properties: reading and writing one field

Every field can be read as text and set from text by its property.

**Writing** (`Config.get`) gives the plain decimal text of the field: integers in decimal,
chances with their shortest digits and never an exponent, the distribution by its name.

**Setting** (`Config.set`) trims the text of blank characters and reads it as the field's kind:
a 32-bit integer for the delay bounds and the two limits, a 32-bit count for the drop countdown,
a distribution name, or a numeral for a chance. A chance must lie in `[0, 1]` (NaN does not; both
zeros do) and a limit must be at least `-1`. A refused value names the property, the value as
given (untrimmed) and the reason, and changes nothing.

**Validation** (`Config.validate`) checks the chances in the order delay, drop, duplicate, then
the limits in the order rate, bucket; the first failure is reported.

* `Binary32.inUnit`: a chance in `[0, 1]`;
* `Config.get`, `Config.set`, `Config.validate`.
-/

namespace TrafficShaper

open TrafficShaper.Binary TrafficShaper.DecimalText TrafficShaper.Text

/-- **A chance in `[0, 1]`**: a zero of either sign, or a positive finite value at most 1. -/
def Binary.Binary32.inUnit (x : Binary32) : Bool :=
  match x.decode with
  | .finite s m e =>
    m = 0 || (!s && (if 0 ≤ e then decide (m * Nat.pow 2 e.toNat ≤ 1) else decide (m ≤ Nat.pow 2 (-e).toNat)))
  | .infinite _ => false
  | .nan => false

/-- **The text of a field.** -/
def Config.get (c : Config) : Property → String
  | .minDelay => toString c.minDelay.toInt
  | .maxDelay => toString c.maxDelay.toInt
  | .delayDistribution => c.distribution.name
  | .delayProbability => c.delayProbability.plainText
  | .dropProbability => c.dropProbability.plainText
  | .duplicateProbability => c.duplicateProbability.plainText
  | .dropPackets => toString c.dropPackets.toNat
  | .maxKbps => toString c.maxKbps.toInt
  | .maxBucketSize => toString c.maxBucketSize.toInt

/-- A 32-bit signed integer read from text. -/
def readInt32? (s : String) : Option Int32 :=
  match readInteger true (-(Int.pow 2 31)) (Int.pow 2 31 - 1) s with
  | .ok n => some (Int32.ofInt n)
  | .error _ => none

/-- A 32-bit count read from text. -/
def readUInt32? (s : String) : Option UInt32 :=
  match readInteger false 0 (Int.pow 2 32 - 1) s with
  | .ok n => some n.toNat.toUInt32
  | .error _ => none

/-- Store a chance in the field of its property. -/
def Config.putChance (c : Config) (p : Property) (x : Binary32) : Config :=
  match p with
  | .delayProbability => { c with delayProbability := x }
  | .dropProbability => { c with dropProbability := x }
  | _ => { c with duplicateProbability := x }

/-- **Setting a field** from text, trimmed of blanks. -/
def Config.set (c : Config) (p : Property) (value : String) : Except Error Config :=
  let v := trimBlank value
  let refuse := fun (r : Reason) => Except.error (Error.invalidProperty p value r)
  match p with
  | .minDelay =>
    match readInt32? v with
    | some n => .ok { c with minDelay := n }
    | none => refuse .notInteger
  | .maxDelay =>
    match readInt32? v with
    | some n => .ok { c with maxDelay := n }
    | none => refuse .notInteger
  | .delayDistribution =>
    match Distribution.ofName? v with
    | some d => .ok { c with distribution := d }
    | none => refuse .notDistribution
  | .dropPackets =>
    match readUInt32? v with
    | some n => .ok { c with dropPackets := n }
    | none => refuse .notCount
  | .maxKbps =>
    match readInt32? v with
    | some n => if n.toInt < -1 then refuse .belowMinusOne else .ok { c with maxKbps := n }
    | none => refuse .notInteger
  | .maxBucketSize =>
    match readInt32? v with
    | some n => if n.toInt < -1 then refuse .belowMinusOne else .ok { c with maxBucketSize := n }
    | none => refuse .notInteger
  | _ =>
    match Binary32.ofString? v with
    | some x => if x.inUnit then .ok (c.putChance p x) else refuse .outsideUnit
    | none => refuse .notNumber

/-- The chances with their properties, in the order they are checked. -/
def Config.chances (c : Config) : List (Property × Binary32) :=
  [(.delayProbability, c.delayProbability), (.dropProbability, c.dropProbability),
    (.duplicateProbability, c.duplicateProbability)]

/-- The limits with their properties, in the order they are checked. -/
def Config.limits (c : Config) : List (Property × Int32) :=
  [(.maxKbps, c.maxKbps), (.maxBucketSize, c.maxBucketSize)]

/-- **Validation**: the first chance outside `[0, 1]`, else the first limit below `-1`. -/
def Config.validate (c : Config) : Except Error Unit :=
  match c.chances.find? (fun pv => !pv.2.inUnit) with
  | some (p, v) => .error (.invalidConfig (.outsideUnit p v))
  | none =>
    match c.limits.find? (fun pv => pv.2.toInt < -1) with
    | some (p, v) => .error (.invalidConfig (.belowMinusOne p v))
    | none => .ok ()

end TrafficShaper
