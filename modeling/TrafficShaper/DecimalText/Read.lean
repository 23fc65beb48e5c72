import TrafficShaper.Binary.Round
import TrafficShaper.DecimalText.Shortest

/-! # Reading numbers from text

**Decimal numerals.** A numeral is an optional sign followed by either a word for infinity or NaN
(`inf`, `infinity` or `nan` in any case), or digits with an optional point among them and an
optional exponent: `e` or `E`, an optional sign and at least one digit. There must be a digit
before or after the point; nothing else may follow. The value read is the numeral's exact
value rounded to the nearest 32-bit value, ties to even; a zero keeps its sign, and so does a
NaN, which is the quiet NaN with the sign bit set or clear.

**Integers.** An integer is an optional `+` (or `-` where negatives are allowed) and decimal
digits, nothing else. The digits are read from left to right: a character that is no digit is
an error, and so is a value leaving the target range, whichever comes first. An empty text, and
a sign alone, are errors too.

* `Numeral.ofString?`: the grammar of numerals;
* `Binary32.ofString?`: reading a 32-bit value;
* `readInteger`: reading an integer of a range, with `IntegerError` for the four failures.
-/

namespace TrafficShaper.DecimalText

open TrafficShaper.Binary

/-- **A numeral**: `± digits · 10^exponent`, a signed infinity, or a signed NaN. -/
inductive Numeral where
  | finite (negative : Bool) (digits : Nat) (exponent : Int)
  | infinity (negative : Bool)
  | nan (negative : Bool)
  deriving DecidableEq, Repr

/-- The value of a string of decimal digits. -/
def digitsValue (ds : List Char) : Nat :=
  ds.foldl (fun n c => 10 * n + (c.toNat - '0'.toNat)) 0

/-- The optional sign of an exponent and its digits, which must be all that is left. -/
def exponentOf? (cs : List Char) : Option Int :=
  let (negative, ds) := match cs with
    | '+' :: r => (false, r)
    | '-' :: r => (true, r)
    | r => (false, r)
  if ds.isEmpty || !ds.all Char.isDigit then none
  else some (if negative then -(digitsValue ds : Int) else digitsValue ds)

/-- A finite numeral without its sign: digits, an optional point and digits, an optional
exponent. -/
def unsignedFinite? (negative : Bool) (cs : List Char) : Option Numeral :=
  let whole := cs.takeWhile Char.isDigit
  let rest := cs.dropWhile Char.isDigit
  let (frac, rest) := match rest with
    | '.' :: r => (r.takeWhile Char.isDigit, r.dropWhile Char.isDigit)
    | r => ([], r)
  if whole.isEmpty && frac.isEmpty then none
  else
    let exp? : Option Int := match rest with
      | [] => some 0
      | c :: r => if c = 'e' || c = 'E' then exponentOf? r else none
    exp?.map fun x => .finite negative (digitsValue (whole ++ frac)) (x - frac.length)

/-- **The grammar of numerals.** -/
def Numeral.ofString? (s : String) : Option Numeral :=
  let (negative, cs) := match s.toList with
    | '+' :: r => (false, r)
    | '-' :: r => (true, r)
    | r => (false, r)
  let word := String.ofList (cs.map Char.toLower)
  if word = "inf" || word = "infinity" then some (.infinity negative)
  else if word = "nan" then some (.nan negative)
  else unsignedFinite? negative cs

/-- The 32-bit value of a numeral: its exact value rounded to nearest, ties to even. A numeral
of at least `10^39` is infinite and one below `10^-47` is zero, which spares the exact
arithmetic on huge exponents. -/
def Binary32.ofNumeral : Numeral → Binary32
  | .finite negative digits exponent =>
    let size : Int := (digitCount digits : Int) + exponent
    if digits = 0 || size < -47 then Binary32.ofRatio negative 0 1
    else if 40 < size then ⟨(single.infinityBits negative).toUInt32⟩
    else if 0 ≤ exponent then Binary32.ofRatio negative (digits * Nat.pow 10 exponent.toNat) 1
    else Binary32.ofRatio negative digits (Nat.pow 10 (-exponent).toNat)
  | .infinity negative => ⟨(single.infinityBits negative).toUInt32⟩
  | .nan negative => ⟨if negative then 0xFFC00000 else 0x7FC00000⟩

/-- **Reading a 32-bit value** from a numeral. -/
def Binary32.ofString? (s : String) : Option Binary32 :=
  (Numeral.ofString? s).map Binary32.ofNumeral

/-- Why a text is no integer of the range. -/
inductive IntegerError where
  | empty
  | invalidDigit
  | tooLarge
  | tooSmall
  deriving DecidableEq, Repr

/-- The wording of an integer error. -/
def IntegerError.message : IntegerError → String
  | .empty => "cannot parse integer from empty string"
  | .invalidDigit => "invalid digit found in string"
  | .tooLarge => "number too large to fit in target type"
  | .tooSmall => "number too small to fit in target type"

/-- Digits read from left to right into a magnitude of `[lo, hi]`, negated if `negative`. -/
def accumulate (negative : Bool) (lo hi : Int) : Nat → List Char → Except IntegerError Int
  | n, [] => .ok (if negative then -(n : Int) else n)
  | n, c :: rest =>
    if !c.isDigit then .error .invalidDigit
    else
      let n := 10 * n + (c.toNat - '0'.toNat)
      if negative && -(n : Int) < lo then .error .tooSmall
      else if !negative && hi < (n : Int) then .error .tooLarge
      else accumulate negative lo hi n rest

/-- **Reading an integer** of `[lo, hi]`; a leading `-` only where `signed`. -/
def readInteger (signed : Bool) (lo hi : Int) (s : String) : Except IntegerError Int :=
  match s.toList with
  | [] => .error .empty
  | ['+'] => .error .invalidDigit
  | ['-'] => .error .invalidDigit
  | '+' :: rest => accumulate false lo hi 0 rest
  | '-' :: rest => if signed then accumulate true lo hi 0 rest else .error .invalidDigit
  | cs => accumulate false lo hi 0 cs

end TrafficShaper.DecimalText
