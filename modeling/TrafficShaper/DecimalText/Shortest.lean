import TrafficShaper.Binary.Basic

/-! # Shortest decimal digits

A finite positive value `m · 2^e` of a format is read back from any decimal strictly between its
two rounding boundaries, the midpoints towards its neighbours, and from the boundaries too when
`m` is even (a tie reads back to the even significand). Below a power of two, where the exponent
steps down, the lower neighbour is half as far away as the upper one.

The shortest decimal is found grid by grid: for `n = 1, 2, …` digits the decimal grid has step
`10^(E - n + 1)`, where `10^E ≤ x < 10^(E+1)`. If any decimal of `n` significant digits reads
back, one of the value's two neighbours on that grid does (the interval is convex, and a decimal
just below `10^E` puts `10^E` itself in the interval). The first grid with a hit wins; of two hits
the nearer, and an exact tie is settled by a `Tie` policy.

* `Format.boundaries`: the rounding interval, in units of `2^(e-2)`;
* `Format.shortest`: the shortest digits that read back, nearest among them;
* `Decimal`: digits and a power of ten, trailing zeros stripped.
-/

namespace TrafficShaper.DecimalText

open TrafficShaper.Binary

/-- **A decimal** `digits · 10^exponent`. -/
structure Decimal where
  digits : Nat
  exponent : Int
  deriving DecidableEq, Repr

/-- How a tie between two equally near shortest candidates is settled. -/
inductive Tie where
  | up
  | toEven
  deriving DecidableEq, Repr

/-- Comparison of `a · 10^i` with `b · 2^j`, exactly. -/
def cmpScaled (a : Nat) (i : Int) (b : Nat) (j : Int) : Ordering :=
  compare (a * Nat.pow 10 i.toNat * Nat.pow 2 (-j).toNat) (b * Nat.pow 2 j.toNat * Nat.pow 10 (-i).toNat)

/-- The number of decimal digits of a positive natural. -/
def digitCount (n : Nat) : Nat := (Nat.toDigits 10 n).length

/-- The exponent of the leading digit: the `E` with `10^E ≤ m · 2^e < 10^(E+1)`, found from an
estimate through the bit length and corrected by exact comparisons. -/
def leadingExponent (m : Nat) (e : Int) : Int :=
  let bits : Int := (Nat.log2 m : Int) + e
  let guess := (bits * 30103).fdiv 100000
  let up := fun (k : Int) => cmpScaled 1 (k + 1) m e != .gt
  let down := fun (k : Int) => cmpScaled 1 k m e == .gt
  let k := if down guess then guess - 1 else guess
  let k := if down k then k - 1 else k
  let k := if up k then k + 1 else k
  if up k then k + 1 else k

/-- The value's lower neighbour on the grid of step `10^t`, as a multiple of the step:
`⌊m · 2^e / 10^t⌋`. -/
def gridFloor (m : Nat) (e t : Int) : Nat :=
  (m * Nat.pow 2 e.toNat * Nat.pow 10 (-t).toNat) / (Nat.pow 2 (-e).toNat * Nat.pow 10 t.toNat)

/-- The nearer of the grid neighbours `d` and `d + 1` (step `10^t`) to `m · 2^e`. -/
def nearer (tie : Tie) (m : Nat) (e : Int) (d : Nat) (t : Int) : Nat :=
  match cmpScaled (2 * d + 1) t (2 * m) e with
  | .gt => d
  | .lt => d + 1
  | .eq => match tie with
    | .up => d + 1
    | .toEven => if d % 2 = 0 then d else d + 1

/-- Strip trailing zeros of a decimal. -/
def Decimal.normalize (x : Decimal) : Decimal :=
  if x.digits = 0 then ⟨0, 0⟩
  else
    let rec go (fuel : Nat) (d : Nat) (k : Int) : Decimal :=
      match fuel with
      | 0 => ⟨d, k⟩
      | fuel + 1 => if d % 10 = 0 then go fuel (d / 10) (k + 1) else ⟨d, k⟩
    go (digitCount x.digits) x.digits x.exponent

end TrafficShaper.DecimalText

namespace TrafficShaper.Binary

open TrafficShaper.DecimalText

/-- **The rounding interval** of `m · 2^e`, in units of `2^(e-2)`: the lower and the upper
boundary, and whether they read back themselves (when `m` is even). -/
def Format.boundaries (f : Format) (m : Nat) (e : Int) : Nat × Nat × Bool :=
  let narrow := m = f.hidden ∧ f.minExp < e
  (if narrow then 4 * m - 1 else 4 * m - 2, 4 * m + 2, m % 2 == 0)

/-- Whether `d · 10^k` reads back as `m · 2^e`. -/
def Format.readsBack (f : Format) (m : Nat) (e : Int) (d : Nat) (k : Int) : Bool :=
  let (lo, hi, closed) := f.boundaries m e
  let cl := cmpScaled d k lo (e - 2)
  let ch := cmpScaled d k hi (e - 2)
  (cl == .gt || (closed && cl == .eq)) && (ch == .lt || (closed && ch == .eq))

/-- The search over grids of `n, n+1, …` digits, at most `fuel` of them; the last grid tried
gives its nearer neighbour. -/
def Format.searchGrids (f : Format) (tie : Tie) (m : Nat) (e bigE : Int) :
    Nat → Nat → Decimal
  | n, 0 =>
    let t := bigE - n + 1
    ⟨nearer tie m e (gridFloor m e t) t, t⟩
  | n, fuel + 1 =>
    let t := bigE - n + 1
    let d := gridFloor m e t
    let lowHit := f.readsBack m e d t
    let highHit := f.readsBack m e (d + 1) t
    if lowHit && highHit then ⟨nearer tie m e d t, t⟩
    else if lowHit then ⟨d, t⟩
    else if highHit then ⟨d + 1, t⟩
    else f.searchGrids tie m e bigE (n + 1) fuel

/-- The most digits a value of the format can need: enough for its full significand. -/
def Format.maxDigits (f : Format) : Nat := digitCount (Nat.pow 2 f.precision) + 1

/-- **The shortest decimal** of a positive finite value `m · 2^e` that reads back, the nearest
of those, trailing zeros stripped. -/
def Format.shortest (f : Format) (tie : Tie) (m : Nat) (e : Int) : Decimal :=
  (f.searchGrids tie m e (leadingExponent m e) 1 f.maxDigits).normalize

end TrafficShaper.Binary
