import TrafficShaper.Json.Error
import TrafficShaper.Binary.Round

/-! # Scanning JSON text

The pieces of JSON text that a typed reader needs, each a function from the unread input to a
result and the input left, or a placed error.

**Blanks** are space, tab, line feed and carriage return.

**Strings.** After the opening quote come characters up to the closing one. A control
character (below U+0020) is an error, placed after it. A backslash starts an escape: one of
`" \ / b f n r t`, or `u` and four hexadecimal digits. Four digits of a leading surrogate must be
followed by `\u` and the four digits of a trailing one; a trailing surrogate alone, or a leading
one followed by anything else, is an error.

**Numbers** are read as the reader of a 64-bit significand does: integer digits accumulate while
they fit in 64 bits, later ones only raise the decimal exponent; fraction digits accumulate while
they fit and are ignored after; the exponent accumulates while it fits in 32 bits. The value
`significand · 10^exponent` is then computed in doubles, one correctly rounded multiplication or
division by a double power of ten (the powers up to `10^308`), with a product that overflows an
error. A number without point and exponent stays an integer: unsigned, or signed when negative.
Only one leading zero is allowed, a point needs a digit after it, and so does an exponent.

**Skipping** a value of no interest checks its grammar without building it, nested to any depth.

* `scanString`, `scanNumber`, `skipValue`; `skipBlank`, `expectWord`.
-/

namespace TrafficShaper.Json

open TrafficShaper.Binary

/-- **A number read from JSON text**: an unsigned or a negative integer of 64 bits, or a double. -/
inductive Number where
  | unsigned (n : Nat)
  | signed (n : Int)
  | float (x : Binary64)
  deriving DecidableEq, Repr

/-- A scanning result: a value and the input left, or a placed error. -/
abbrev Scan (α : Type) := Except JsonError (α × List Char)

/-- The number of UTF-8 bytes of a piece of input. -/
def bytesOf (cs : List Char) : Nat := cs.foldl (fun n c => n + c.utf8Size) 0

/-- An error placed at the point before `rest`. -/
def errorAt (code : Code) (rest : List Char) : JsonError := ⟨code, some (bytesOf rest)⟩

/-- An error placed one byte further than `rest` starts: after the byte looked at. -/
def errorPast (code : Code) (rest : List Char) : JsonError := ⟨code, some (bytesOf rest - 1)⟩

/-- A placeless error takes the place before `rest`. -/
def JsonError.placeAt (e : JsonError) (rest : List Char) : JsonError :=
  match e.remaining with
  | some _ => e
  | none => { e with remaining := some (bytesOf rest) }

/-- The blanks of JSON. -/
def isJsonBlank (c : Char) : Bool := c = ' ' || c = '\n' || c = '\t' || c = '\r'

/-- The input without its leading blanks. -/
def skipBlank (cs : List Char) : List Char := cs.dropWhile isJsonBlank

/-- **The rest of a word** (after its first letter): an end of input, or any other letter, is
an error. -/
def expectWord : List Char → List Char → Except JsonError (List Char)
  | [], rest => .ok rest
  | _ :: _, [] => .error (errorAt .eofInValue [])
  | e :: es, c :: rest =>
    if c = e then expectWord es rest else .error (errorPast .expectedIdent (c :: rest))

/-! ## Strings -/

/-- The value of a hexadecimal digit. -/
def hexValue (c : Char) : Option Nat :=
  if '0' ≤ c ∧ c ≤ '9' then some (c.toNat - '0'.toNat)
  else if 'a' ≤ c ∧ c ≤ 'f' then some (c.toNat - 'a'.toNat + 10)
  else if 'A' ≤ c ∧ c ≤ 'F' then some (c.toNat - 'A'.toNat + 10)
  else none

/-- The value of four hexadecimal digits. -/
def hex4 (a b c d : Char) : Option Nat := do
  let a ← hexValue a
  let b ← hexValue b
  let c ← hexValue c
  let d ← hexValue d
  pure (((a * 16 + b) * 16 + c) * 16 + d)

/-- The error of four bytes after `\u` that are no hexadecimal digits: at the end of input if
fewer than four bytes are left, else an invalid escape after four bytes. -/
def badHex (rest : List Char) : JsonError :=
  if bytesOf rest < 4 then ⟨.eofInString, some 0⟩ else ⟨.invalidEscape, some (bytesOf rest - 4)⟩

/-- The character of a code point outside the surrogates. -/
def charOf (n : Nat) : Char := Char.ofNat n

/-- The error after a leading surrogate when `rest` does not start with `\u` and four
hexadecimal digits of a trailing one. -/
def pairError (rest : List Char) : JsonError :=
  match rest with
  | [] => ⟨.eofInString, some 0⟩
  | '\\' :: r =>
    match r with
    | [] => ⟨.eofInString, some 0⟩
    | 'u' :: r' => badHex r'
    | _ :: _ => errorPast .unexpectedEndOfHexEscape r
  | _ :: _ => errorPast .unexpectedEndOfHexEscape rest

/-- The character of a surrogate pair. -/
def pairChar (hi lo : Nat) : Char := charOf ((hi - 0xD800) * 1024 + (lo - 0xDC00) + 0x10000)

/-- The characters of a string up to its closing quote (the opening one already read), and the
input after it. -/
def scanChars : List Char → List Char → Scan (List Char)
  | _, [] => .error (errorAt .eofInString [])
  | acc, '"' :: r => .ok (acc.reverse, r)
  | acc, '\\' :: '"' :: r => scanChars ('"' :: acc) r
  | acc, '\\' :: '\\' :: r => scanChars ('\\' :: acc) r
  | acc, '\\' :: '/' :: r => scanChars ('/' :: acc) r
  | acc, '\\' :: 'b' :: r => scanChars ('\x08' :: acc) r
  | acc, '\\' :: 'f' :: r => scanChars ('\x0c' :: acc) r
  | acc, '\\' :: 'n' :: r => scanChars ('\n' :: acc) r
  | acc, '\\' :: 'r' :: r => scanChars ('\r' :: acc) r
  | acc, '\\' :: 't' :: r => scanChars ('\t' :: acc) r
  | acc, '\\' :: 'u' :: a :: b :: c :: d :: r =>
    match hex4 a b c d with
    | none => .error (badHex (a :: b :: c :: d :: r))
    | some n =>
      if 0xDC00 ≤ n ∧ n ≤ 0xDFFF then .error (errorAt .loneLeadingSurrogate r)
      else if 0xD800 ≤ n ∧ n ≤ 0xDBFF then
        match r with
        | '\\' :: 'u' :: e :: f :: g :: h :: r' =>
          match hex4 e f g h with
          | some lo =>
            if 0xDC00 ≤ lo ∧ lo ≤ 0xDFFF then scanChars (pairChar n lo :: acc) r'
            else .error (errorAt .loneLeadingSurrogate r')
          | none => .error (badHex (e :: f :: g :: h :: r'))
        | _ => .error (pairError r)
      else scanChars (charOf n :: acc) r
  | _, '\\' :: 'u' :: r => .error (badHex r)
  | _, '\\' :: [] => .error (errorAt .eofInString [])
  | _, '\\' :: c :: r => .error (errorPast .invalidEscape (c :: r))
  | acc, c :: r =>
    if c.toNat < 0x20 then .error (errorAt .controlCharacter r) else scanChars (c :: acc) r

/-- **A string** (its opening quote already read) and the input after its closing quote. -/
def scanString (rest : List Char) : Scan String :=
  match scanChars [] rest with
  | .ok (cs, r) => .ok (String.ofList cs, r)
  | .error e => .error e

/-! ## Numbers -/

/-- The largest 64-bit word. -/
def maxWord : Nat := Nat.pow 2 64 - 1

/-- The largest 32-bit signed integer. -/
def maxInt32 : Nat := Nat.pow 2 31 - 1

/-- Whether `a · 10 + d` would pass `bound`, tested as the reader of fixed-width words does. -/
def overflows (a d bound : Nat) : Bool := bound / 10 ≤ a && (bound / 10 < a || bound % 10 < d)

/-- The value of a decimal digit. -/
def digitOf (c : Char) : Nat := c.toNat - '0'.toNat

/-- The double nearest to `10^k`. -/
def pow10 (k : Nat) : Binary64 := Binary64.ofRatio false (Nat.pow 10 k) 1

/-- `f · 10^exponent` in doubles: one rounded product or quotient by a power of ten of the
table (`10^0` to `10^308`); past the table a zero stays zero, a positive exponent is out of
range, and a negative one divides by `10^308` first. `rest` places the error. -/
def scalePow10 (rest : List Char) : Nat → Binary64 → Int → Except JsonError Binary64
  | 0, f, _ => .ok f
  | fuel + 1, f, exponent =>
    if exponent.natAbs ≤ 308 then
      if 0 ≤ exponent then
        let g := f.mul (pow10 exponent.natAbs)
        if g.isInfinite then .error (errorAt .numberOutOfRange rest) else .ok g
      else .ok (f.div (pow10 exponent.natAbs))
    else if f.isZero then .ok f
    else if 0 ≤ exponent then .error (errorAt .numberOutOfRange rest)
    else scalePow10 rest fuel (f.div (pow10 308)) (exponent + 308)

/-- **The double of a significand and a decimal exponent**, with its sign. -/
def fromParts (positive : Bool) (significand : Nat) (exponent : Int) (rest : List Char) :
    Except JsonError Binary64 := do
  let f ← scalePow10 rest 8 (Binary64.ofNat significand) exponent
  pure (if positive then f else f.neg)

/-- A 32-bit exponent sum, saturating. -/
def saturate32 (v : Int) : Int := max (-(Int.pow 2 31)) (min (Int.pow 2 31 - 1) v)

/-- Exponent digits after an overflow: an error if the significand is not zero and the exponent
positive (the value would be infinite), else the digits are skipped and the value is zero. -/
def exponentOverflow (positive zeroSignificand positiveExp : Bool) (rest : List Char) :
    Scan Binary64 :=
  if !zeroSignificand && positiveExp then .error (errorAt .numberOutOfRange rest)
  else .ok (⟨if positive then 0 else 0x8000000000000000⟩, rest.dropWhile Char.isDigit)

/-- The digits of an exponent, accumulated while they fit in 32 bits. -/
def exponentDigits (positive : Bool) (significand : Nat) (startExp : Int) (positiveExp : Bool) :
    Nat → List Char → Scan Binary64
  | exp, c :: r =>
    if c.isDigit then
      if overflows exp (digitOf c) maxInt32 then
        exponentOverflow positive (significand = 0) positiveExp r
      else exponentDigits positive significand startExp positiveExp (10 * exp + digitOf c) r
    else
      let e := saturate32 (if positiveExp then startExp + exp else startExp - exp)
      (fromParts positive significand e (c :: r)).map fun x => (x, c :: r)
  | exp, [] =>
    let e := saturate32 (if positiveExp then startExp + exp else startExp - exp)
    (fromParts positive significand e []).map fun x => (x, [])

/-- **An exponent**, after its `e`: an optional sign, then at least one digit. -/
def scanExponent (positive : Bool) (significand : Nat) (startExp : Int) (rest : List Char) :
    Scan Binary64 :=
  let (positiveExp, rest) := match rest with
    | '+' :: r => (true, r)
    | '-' :: r => (false, r)
    | r => (true, r)
  match rest with
  | [] => .error (errorAt .eofInValue [])
  | c :: r =>
    if c.isDigit then exponentDigits positive significand startExp positiveExp (digitOf c) r
    else .error (errorPast .invalidNumber (c :: r))

/-- What follows the digits of a number whose significand is complete: an exponent or the end. -/
def finishDecimal (positive : Bool) (significand : Nat) (exponent : Int) (rest : List Char) :
    Scan Binary64 :=
  match rest with
  | c :: r =>
    if c = 'e' || c = 'E' then scanExponent positive significand exponent r
    else (fromParts positive significand exponent rest).map fun x => (x, rest)
  | [] => (fromParts positive significand exponent []).map fun x => (x, [])

/-- Fraction digits, after the point: accumulated while they fit in 64 bits (each lowering the
exponent), ignored after. At least one digit must follow the point. -/
def fractionDigits (positive : Bool) (exponent : Int) :
    Nat → Nat → List Char → Scan Binary64
  | sig, count, c :: r =>
    if c.isDigit then
      if overflows sig (digitOf c) maxWord then
        finishDecimal positive sig (exponent - count) ((c :: r).dropWhile Char.isDigit)
      else fractionDigits positive exponent (10 * sig + digitOf c) (count + 1) r
    else if count = 0 then .error (errorPast .invalidNumber (c :: r))
    else finishDecimal positive sig (exponent - count) (c :: r)
  | sig, count, [] =>
    if count = 0 then .error (errorAt .eofInValue [])
    else finishDecimal positive sig (exponent - count) []

/-- What follows integer digits that no longer fit: more digits raise the exponent, then a
fraction, an exponent or the end. -/
def longDigits (positive : Bool) (sig : Nat) : Int → List Char → Scan Binary64
  | exp, c :: r =>
    if c.isDigit then longDigits positive sig (exp + 1) r
    else if c = '.' then fractionDigits positive exp sig 0 r
    else if c = 'e' || c = 'E' then scanExponent positive sig exp r
    else (fromParts positive sig exp (c :: r)).map fun x => (x, c :: r)
  | exp, [] => (fromParts positive sig exp []).map fun x => (x, [])

/-- A 64-bit word read as a signed integer and negated, wrapping. -/
def negateWord (sig : Nat) : Int :=
  let v : Int := if sig < Nat.pow 2 63 then sig else (sig : Int) - Int.pow 2 64
  let n := -v
  if n = Int.pow 2 63 then -(Int.pow 2 63) else n

/-- What follows complete integer digits: a fraction, an exponent, or the end of an integer.
A negative integer that does not fit a signed word, and minus zero, become doubles. -/
def afterInteger (positive : Bool) (sig : Nat) (rest : List Char) : Scan Number :=
  let asFloat := fun (r : Scan Binary64) => r.map fun (x, rest) => (Number.float x, rest)
  match rest with
  | '.' :: r => asFloat (fractionDigits positive 0 sig 0 r)
  | 'e' :: r => asFloat (scanExponent positive sig 0 r)
  | 'E' :: r => asFloat (scanExponent positive sig 0 r)
  | _ =>
    if positive then .ok (.unsigned sig, rest)
    else
      let n := negateWord sig
      if 0 ≤ n then .ok (.float (Binary64.ofNat sig).neg, rest) else .ok (.signed n, rest)

/-- Integer digits, accumulated while they fit in 64 bits. -/
def integerDigits (positive : Bool) : Nat → List Char → Scan Number
  | sig, c :: r =>
    if c.isDigit then
      if overflows sig (digitOf c) maxWord then
        (longDigits positive sig 0 (c :: r)).map fun (x, rest) => (.float x, rest)
      else integerDigits positive (10 * sig + digitOf c) r
    else afterInteger positive sig (c :: r)
  | sig, [] => afterInteger positive sig []

/-- **A number** (after its minus sign if negative): one leading zero, or digits from 1 to 9. -/
def scanNumber (positive : Bool) (rest : List Char) : Scan Number :=
  match rest with
  | [] => .error (errorAt .eofInValue [])
  | '0' :: r =>
    match r with
    | d :: _ => if d.isDigit then .error (errorPast .invalidNumber r) else afterInteger positive 0 r
    | [] => afterInteger positive 0 r
  | c :: r =>
    if c.isDigit then integerDigits positive (digitOf c) r
    else .error (errorPast .invalidNumber (c :: r))

/-! ## Skipping values -/

/-- The exponent of a skipped number, after its `e`. -/
def skipExponent (rest : List Char) : Except JsonError (List Char) :=
  let rest := match rest with
    | '+' :: r => r
    | '-' :: r => r
    | r => r
  match rest with
  | c :: r =>
    if c.isDigit then .ok (r.dropWhile Char.isDigit) else .error (errorPast .invalidNumber (c :: r))
  | [] => .error (errorAt .invalidNumber [])

/-- The part of a skipped number after its integer digits. -/
def skipNumberTail (rest : List Char) : Except JsonError (List Char) :=
  match rest with
  | '.' :: r =>
    match r with
    | d :: _ =>
      if d.isDigit then
        let r := r.dropWhile Char.isDigit
        match r with
        | 'e' :: r' => skipExponent r'
        | 'E' :: r' => skipExponent r'
        | _ => .ok r
      else .error (errorPast .invalidNumber r)
    | [] => .error (errorAt .invalidNumber [])
  | 'e' :: r => skipExponent r
  | 'E' :: r => skipExponent r
  | _ => .ok rest

/-- A skipped number, after its minus sign if negative. -/
def skipNumber (rest : List Char) : Except JsonError (List Char) :=
  match rest with
  | '0' :: r =>
    match r with
    | d :: _ => if d.isDigit then .error (errorPast .invalidNumber r) else skipNumberTail r
    | [] => .ok []
  | c :: r =>
    if c.isDigit then skipNumberTail (r.dropWhile Char.isDigit)
    else .error (errorPast .invalidNumber (c :: r))
  | [] => .error (errorAt .invalidNumber [])

/-- The characters of a skipped string up to its closing quote; a control character is an
error placed before it. -/
def skipChars : List Char → Except JsonError (List Char)
  | [] => .error (errorAt .eofInString [])
  | '"' :: r => .ok r
  | '\\' :: c :: r =>
    if c = '"' || c = '\\' || c = '/' || c = 'b' || c = 'f' || c = 'n' || c = 'r' || c = 't' then
      skipChars r
    else if c = 'u' then
      match r with
      | a :: b :: c :: d :: r' =>
        if (hex4 a b c d).isSome then skipChars r' else .error (badHex (a :: b :: c :: d :: r'))
      | _ => .error (badHex r)
    else .error (errorPast .invalidEscape (c :: r))
  | '\\' :: [] => .error (errorAt .eofInString [])
  | c :: r => if c.toNat < 0x20 then .error (errorAt .controlCharacter (c :: r)) else skipChars r

/-- An open bracket of a skipped value: of an array or of an object. -/
inductive Frame where
  | array
  | object
  deriving DecidableEq, Repr

/-- The error when input ends, or something other than a comma or a close comes, inside a
frame. -/
def Frame.eofCode : Frame → Code
  | .array => .eofInList
  | .object => .eofInObject

/-- The error of something other than a comma or a close inside a frame. -/
def Frame.commaCode : Frame → Code
  | .array => .expectedListCommaOrEnd
  | .object => .expectedObjectCommaOrEnd

/-- The close of a frame. -/
def Frame.close : Frame → Char
  | .array => ']'
  | .object => '\x7d'

/-- One step of skipping at the start of a value: a scalar is skipped, an open bracket is
pushed. The result is the frame opened, if any, and the input after. -/
def skipValueStart (rest : List Char) : Except JsonError (Option Frame × List Char) :=
  match skipBlank rest with
  | [] => .error (errorAt .eofInValue [])
  | 'n' :: r => (expectWord ['u', 'l', 'l'] r).map fun r => (none, r)
  | 't' :: r => (expectWord ['r', 'u', 'e'] r).map fun r => (none, r)
  | 'f' :: r => (expectWord ['a', 'l', 's', 'e'] r).map fun r => (none, r)
  | '-' :: r => (skipNumber r).map fun r => (none, r)
  | '"' :: r => (skipChars r).map fun r => (none, r)
  | '[' :: r => .ok (some .array, r)
  | c :: r =>
    if c = '\x7b' then .ok (some .object, r)
    else if c.isDigit then (skipNumber (c :: r)).map fun r => (none, r)
    else .error (errorPast .expectedValue (c :: r))

/-- The key and colon of an object member being skipped. -/
def skipKey (rest : List Char) : Except JsonError (List Char) := do
  let r ← match skipBlank rest with
    | '"' :: r => .ok r
    | [] => .error (errorAt .eofInObject [])
    | c :: r => .error (errorPast .keyMustBeString (c :: r))
  let r ← skipChars r
  match skipBlank r with
  | ':' :: r => .ok r
  | [] => .error (errorAt .eofInObject [])
  | c :: r => .error (errorPast .expectedColon (c :: r))

/-- After a value inside the frames `open` (innermost first): closes are taken, and a comma
leads to the next member; the result is the remaining frames, innermost first, or none when
the skipped value has ended. `first` is whether the innermost frame was just opened, where no
comma may come. -/
def afterMember : List Frame → Bool → List Char → Except JsonError (Option (List Frame) × List Char)
  | [], _, rest => .ok (none, rest)
  | f :: fs, first, rest =>
    match skipBlank rest with
    | [] => .error (errorAt f.eofCode [])
    | c :: r =>
      if c = f.close then afterMember fs false r
      else if c = ',' && !first then .ok (some (f :: fs), r)
      else if first then .ok (some (f :: fs), c :: r)
      else .error (errorPast f.commaCode (c :: r))

/-- **Skipping a value**, at most `fuel` values and brackets deep in steps; each step reads at
least one character, so the length of the input is fuel enough. -/
def skipValueWith : Nat → List Frame → List Char → Except JsonError (List Char)
  | 0, _, rest => .ok rest
  | fuel + 1, frames, rest => do
    let (opened, r) ← skipValueStart rest
    let (frames, first) := match opened with
      | some f => (f :: frames, true)
      | none => (frames, false)
    let (next, r) ← afterMember frames first r
    match next with
    | none => .ok r
    | some frames =>
      match frames with
      | .object :: _ => skipValueWith fuel frames (← skipKey r)
      | _ => skipValueWith fuel frames r

/-- **Skipping a value** of no interest. -/
def skipValue (rest : List Char) : Except JsonError (List Char) :=
  skipValueWith (rest.length + 1) [] rest

end TrafficShaper.Json
