import TrafficShaper.DecimalText.Shortest
import TrafficShaper.Binary.Round

/-! # Laying out decimal digits

Once the digits of a value are chosen, a layout decides how they are written. A decimal
`d · 10^k` of `n` digits has `kk = n + k` digits before the point, so `10^(kk-1) ≤ x < 10^kk`.
Inside the layout's window of `kk` it is written positionally: the digits with zeros appended
(and `.0` if the layout keeps a point on integers), the digits with a point inserted, or `0.`,
zeros and the digits. Outside the window it is written as a first digit, the other digits after
a point if there are any, the mark `e` and the exponent `kk - 1`, with a sign when it is negative
and, if the layout says so, a plus sign when it is not. Zeros, infinities and NaN have fixed
texts.

Three layouts are used:

* `Layout.plain`: always positional, no point on integers, ties up;
* `Layout.json32`, `Layout.json64`: positional for `-6 < kk ≤ 13` and `-5 < kk ≤ 16`, `.0` on
  integers, ties to even, and outside the window an exponent that always carries its sign: the
  JSON writer prints `1e-45` and `1.8446744e+19`, and `1.8446744073709552e+19` for a double.
-/

namespace TrafficShaper.DecimalText

open TrafficShaper.Binary

/-- **A layout**: the window of `kk` written positionally (no bound when `none`), whether an
integer keeps `.0`, whether a non-negative exponent gets `+`, and the tie policy of the digits. -/
structure Layout where
  lowest : Option Int
  highest : Option Int
  pointZero : Bool
  exponentPlus : Bool
  tie : Tie

/-- Always positional, integers without a point, ties between candidates up. -/
def Layout.plain : Layout := ⟨none, none, false, false, .up⟩

/-- The layout of 32-bit values in JSON text: `1e-45`, `0.1`, `16777216.0`, `1.8446744e+19`. -/
def Layout.json32 : Layout := ⟨some (-5), some 13, true, true, .toEven⟩

/-- The layout of 64-bit values in JSON text: `1e-6`, `100.0`, `1e+16`, `1.7976931348623157e+308`. -/
def Layout.json64 : Layout := ⟨some (-4), some 16, true, true, .toEven⟩

/-- Whether `kk` digits before the point are written positionally. -/
def Layout.positional (l : Layout) (kk : Int) : Bool :=
  (match l.lowest with | some a => decide (a ≤ kk) | none => true) &&
    (match l.highest with | some b => decide (kk ≤ b) | none => true)

/-- `n` zeros. -/
def zeros (n : Nat) : List Char := List.replicate n '0'

/-- **The text of a positive decimal** under a layout. -/
def Layout.render (l : Layout) (x : Decimal) : String :=
  let ds := Nat.toDigits 10 x.digits
  let kk : Int := ds.length + x.exponent
  if l.positional kk then
    if 0 ≤ x.exponent then
      String.ofList (ds ++ zeros x.exponent.toNat ++ (if l.pointZero then ['.', '0'] else []))
    else if 0 < kk then
      String.ofList (ds.take kk.toNat ++ '.' :: ds.drop kk.toNat)
    else String.ofList (['0', '.'] ++ zeros (-kk).toNat ++ ds)
  else
    let e := kk - 1
    let mantissa := match ds with
      | [] => []
      | [d] => [d]
      | d :: rest => d :: '.' :: rest
    let sign := if e < 0 then ['-'] else if l.exponentPlus then ['+'] else []
    String.ofList (mantissa ++ 'e' :: sign ++ Nat.toDigits 10 e.natAbs)

/-- **The text of a value** of a format under a layout: the shortest digits laid out, `0` (with
`.0` if integers keep it) for zeros, `inf` and `NaN`, and a minus sign on negatives. -/
def Layout.text (l : Layout) (f : Format) : Value → String
  | .finite s m e =>
    let sign := if s then "-" else ""
    if m = 0 then sign ++ (if l.pointZero then "0.0" else "0")
    else sign ++ l.render (f.shortest l.tie m e)
  | .infinite s => if s then "-inf" else "inf"
  | .nan => "NaN"

end TrafficShaper.DecimalText

namespace TrafficShaper.Binary

open TrafficShaper.DecimalText

/-- The plain text of a 32-bit value: shortest digits, always positional. -/
def Binary32.plainText (x : Binary32) : String := Layout.plain.text single x.decode

/-- The plain text of a double: shortest digits, always positional. -/
def Binary64.plainText (x : Binary64) : String := Layout.plain.text double x.decode

/-- The JSON text of a finite 32-bit value. -/
def Binary32.jsonText (x : Binary32) : String := Layout.json32.text single x.decode

/-- The JSON text of a finite double. -/
def Binary64.jsonText (x : Binary64) : String := Layout.json64.text double x.decode

/-- **Fixed places**: a finite double rounded to `places` decimals, half to even, written with
a point and exactly that many decimals; a minus sign on negatives. -/
def Binary64.fixedText (x : Binary64) (places : Nat) : String :=
  match x.decode with
  | .finite s m e =>
    let n := if 0 ≤ e then m * Nat.pow 2 e.toNat * Nat.pow 10 places
      else roundHalfEven (m * Nat.pow 10 places) (Nat.pow 2 (-e).toNat)
    let ds := Nat.toDigits 10 n
    let ds := List.replicate (places + 1 - ds.length) '0' ++ ds
    let whole := ds.take (ds.length - places)
    let frac := ds.drop (ds.length - places)
    (if s then "-" else "") ++ String.ofList whole ++
      (if places = 0 then "" else "." ++ String.ofList frac)
  | .infinite s => if s then "-inf" else "inf"
  | .nan => "NaN"

end TrafficShaper.Binary
