import TrafficShaper.Config.Property
import TrafficShaper.Json.Scan
import TrafficShaper.Json.Value

/-! # Configurations as JSON

**Writing.** A configuration is written as one compact object with the nine property names as
keys, in field order: integers in decimal, chances with their shortest 32-bit digits in the JSON
layout (`null` if not finite), the distribution by name.

**Reading.** A configuration is read from an object, or from an array holding the fields in
field order. Every field may be missing and then keeps its default; in an array only trailing
fields can be missing, and more than nine elements are an error. Unknown keys are skipped with
their values; a key given twice is an error, raised before its value is read. Integer fields take
only integers in their range: a number with a point or an exponent is a value of the wrong kind,
and so is an integer too large for 64 bits, which is read as a double. A chance takes any number,
read as a double and then rounded to 32 bits. The distribution is `"uniform"` or `"normal"`, or
an object with one of those as its key and `null` as its value. After the value only blanks may
follow.

An error of meaning is placed where the reader stands when it is raised, after the token that
caused it. Reading an object or an array always ends by looking for its close, and an error
raised without a place inside it is placed after that look.

* `Config.toJsonText`: the compact text;
* `Config.readJson`: reading, without validation; `Config.ofJsonText`: reading, then validation.
-/

namespace TrafficShaper

open TrafficShaper.Binary TrafficShaper.Json

/-! ## Writing -/

/-- The JSON object of a configuration, keys in field order. -/
def Config.toJsonValue (c : Config) : JsonValue :=
  .obj [("min-delay", .int c.minDelay.toInt), ("max-delay", .int c.maxDelay.toInt),
    ("delay-distribution", .str c.distribution.name),
    ("delay-probability", .single c.delayProbability),
    ("drop-probability", .single c.dropProbability),
    ("duplicate-probability", .single c.duplicateProbability),
    ("drop-packets", .int c.dropPackets.toNat), ("max-kbps", .int c.maxKbps.toInt),
    ("max-bucket-size", .int c.maxBucketSize.toInt)]

/-- **The compact JSON text** of a configuration. -/
def Config.toJsonText (c : Config) : String := c.toJsonValue.render

/-! ## Reading values of the wrong kind -/

/-- The error of a value of the wrong kind at `rest`, for a reader of `expected`: the value's
token is read, and the error placed after it. Brackets are not entered. -/
def wrongKind (expected : String) (rest : List Char) : JsonError :=
  let kind := fun (u : Unexpected) (r : List Char) => (⟨.invalidType u expected, none⟩ : JsonError).placeAt r
  let ofNumber := fun (n : Number) => match n with
    | .unsigned n => Unexpected.unsigned n
    | .signed n => Unexpected.signed n
    | .float x => Unexpected.float x
  match rest with
  | 'n' :: r => match expectWord ['u', 'l', 'l'] r with
    | .ok r => kind .null r
    | .error e => e
  | 't' :: r => match expectWord ['r', 'u', 'e'] r with
    | .ok r => kind (.bool true) r
    | .error e => e
  | 'f' :: r => match expectWord ['a', 'l', 's', 'e'] r with
    | .ok r => kind (.bool false) r
    | .error e => e
  | '-' :: r => match scanNumber false r with
    | .ok (n, r) => kind (ofNumber n) r
    | .error e => e
  | '"' :: r => match scanString r with
    | .ok (s, r) => kind (.str s) r
    | .error e => e
  | '[' :: _ => kind .seq rest
  | c :: r =>
    if c = '\x7b' then kind .map rest
    else if c.isDigit then
      match scanNumber true rest with
      | .ok (n, r) => kind (ofNumber n) r
      | .error e => e
    else errorPast .expectedValue (c :: r)
  | [] => errorPast .expectedValue []

/-! ## Reading fields -/

/-- A number for a field: read, then judged by `visit`; an error of `visit` is placed after
the number. -/
def readNumber {α : Type} (expected : String) (visit : Number → Except Code α)
    (rest : List Char) : Scan α :=
  let judge := fun (r : Scan Number) => match r with
    | .ok (n, r) => match visit n with
      | .ok v => .ok (v, r)
      | .error code => .error ((⟨code, none⟩ : JsonError).placeAt r)
    | .error e => .error e
  match skipBlank rest with
  | [] => .error (errorAt .eofInValue [])
  | '-' :: r => judge (scanNumber false r)
  | c :: r => if c.isDigit then judge (scanNumber true (c :: r)) else .error (wrongKind expected (c :: r))

/-- A 32-bit signed integer: an integer of the range, else a value of the wrong kind or size. -/
def visitInt32 : Number → Except Code Int32
  | .unsigned n => if n < Nat.pow 2 31 then .ok (Int32.ofNat n) else .error (.invalidValue (.unsigned n) "i32")
  | .signed n => if -(Int.pow 2 31) ≤ n then .ok (Int32.ofInt n) else .error (.invalidValue (.signed n) "i32")
  | .float x => .error (.invalidType (.float x) "i32")

/-- A 32-bit count: a non-negative integer of the range. -/
def visitUInt32 : Number → Except Code UInt32
  | .unsigned n => if n < Nat.pow 2 32 then .ok n.toUInt32 else .error (.invalidValue (.unsigned n) "u32")
  | .signed n => .error (.invalidValue (.signed n) "u32")
  | .float x => .error (.invalidType (.float x) "u32")

/-- A chance: any number, rounded to 32 bits. -/
def visitChance : Number → Except Code Binary32
  | .unsigned n => .ok (Binary32.ofRatio false n 1)
  | .signed n => .ok (Binary32.ofInt n)
  | .float x => .ok x.toBinary32

/-- The distributions by their names. -/
def distributionNames : List String := ["uniform", "normal"]

/-- A distribution name: a string, then matched; an unknown name is placed after the string. -/
def readVariantName (rest : List Char) : Scan Distribution :=
  match skipBlank rest with
  | [] => .error (errorAt .eofInValue [])
  | '"' :: r =>
    match scanString r with
    | .ok (s, r) =>
      match Distribution.ofName? s with
      | some d => .ok (d, r)
      | none => .error ((⟨.unknownVariant s distributionNames, none⟩ : JsonError).placeAt r)
    | .error e => .error e
  | c :: r => .error (wrongKind "variant identifier" (c :: r))

/-- **The variant named as the key of an object**: a string key. The end of the object answers
that a value was expected, the end of the input that the object is unfinished, and anything else
that a key must be a string. -/
def readVariantKey (rest : List Char) : Scan Distribution :=
  match skipBlank rest with
  | [] => .error (errorAt .eofInObject [])
  | '"' :: r => readVariantName ('"' :: r)
  | c :: r =>
    if c = '\x7d' then .error (errorPast .expectedValue (c :: r))
    else .error (errorPast .keyMustBeString (c :: r))

/-- The colon after a key. -/
def readColon (rest : List Char) : Except JsonError (List Char) :=
  match skipBlank rest with
  | ':' :: r => .ok r
  | [] => .error (errorAt .eofInObject [])
  | c :: r => .error (errorPast .expectedColon (c :: r))

/-- The `null` of a variant without data. -/
def readUnit (rest : List Char) : Except JsonError (List Char) :=
  match skipBlank rest with
  | [] => .error (errorAt .eofInValue [])
  | 'n' :: r => expectWord ['u', 'l', 'l'] r
  | c :: r => .error (wrongKind "unit" (c :: r))

/-- **A distribution**: its name as a string, or an object of its name and `null`. -/
def readDistribution (rest : List Char) : Scan Distribution :=
  match skipBlank rest with
  | '"' :: r => readVariantName ('"' :: r)
  | [] => .error (errorAt .eofInValue [])
  | c :: r =>
    if c = '\x7b' then
      let inner : Except JsonError (Distribution × List Char) := do
        let (d, r) ← readVariantKey r
        let r ← readColon r
        let r ← readUnit r
        pure (d, r)
      match inner with
      | .error e => .error e
      | .ok (d, r) =>
        match skipBlank r with
        | c :: r' => if c = '\x7d' then .ok (d, r') else .error (errorAt .expectedValue (c :: r'))
        | [] => .error (errorAt .eofInObject [])
    else .error (errorPast .expectedValue (c :: r))

/-- **The value of a field**, stored into the configuration. -/
def readField (c : Config) (p : Property) (rest : List Char) : Scan Config :=
  match p with
  | .minDelay => (readNumber "i32" visitInt32 rest).map fun (v, r) => ({ c with minDelay := v }, r)
  | .maxDelay => (readNumber "i32" visitInt32 rest).map fun (v, r) => ({ c with maxDelay := v }, r)
  | .delayDistribution =>
    (readDistribution rest).map fun (v, r) => ({ c with distribution := v }, r)
  | .dropPackets =>
    (readNumber "u32" visitUInt32 rest).map fun (v, r) => ({ c with dropPackets := v }, r)
  | .maxKbps => (readNumber "i32" visitInt32 rest).map fun (v, r) => ({ c with maxKbps := v }, r)
  | .maxBucketSize =>
    (readNumber "i32" visitInt32 rest).map fun (v, r) => ({ c with maxBucketSize := v }, r)
  | _ => (readNumber "f32" visitChance rest).map fun (v, r) => (c.putChance p v, r)

/-! ## Reading objects and arrays -/

/-- A reading error with the input where it was raised, for placing it later. -/
abbrev Failure := JsonError × List Char

/-- The members of an object after its open brace, at most `fuel` of them: each read into the
configuration, unknown ones skipped. `seen` holds the properties already given. -/
def readMembers : Nat → Config → List Property → Bool → List Char →
    Except Failure (Config × List Char)
  | 0, c, _, _, rest => .ok (c, rest)
  | fuel + 1, c, seen, first, rest =>
    let fail := fun (e : JsonError) => Except.error (e, rest)
    let keyStart : Except JsonError (Option (List Char)) := match skipBlank rest with
      | [] => .error (errorAt .eofInObject [])
      | c :: r =>
        if c = '\x7d' then .ok none
        else if c = ',' && !first then .ok (some (skipBlank r))
        else if first then .ok (some (c :: r))
        else .error (errorPast .expectedObjectCommaOrEnd (c :: r))
    match keyStart with
    | .error e => fail e
    | .ok none => .ok (c, skipBlank rest)
    | .ok (some k) =>
      match k with
      | [] => fail (errorAt .eofInValue [])
      | '"' :: r =>
        match scanString r with
        | .error e => fail e
        | .ok (key, r) =>
          match Property.ofName? key with
          | some p =>
            if p ∈ seen then .error (⟨.duplicateField p.name, none⟩, r)
            else
              match readColon r >>= readField c p with
              | .ok (c, r) => readMembers fuel c (p :: seen) false r
              | .error e => .error (e, r)
          | none =>
            match readColon r >>= skipValue with
            | .ok r => readMembers fuel c seen false r
            | .error e => .error (e, r)
      | ch :: r =>
        if ch = '\x7d' then fail (errorPast .trailingComma (ch :: r))
        else fail (errorPast .keyMustBeString (ch :: r))

/-- The elements of an array after its open bracket, one per field in field order, until the
array ends. -/
def readElements : List Property → Config → Bool → List Char → Except JsonError (Config × List Char)
  | [], c, _, rest => .ok (c, rest)
  | p :: ps, c, first, rest =>
    let start : Except JsonError (Option (List Char)) := match skipBlank rest with
      | [] => .error (errorAt .eofInList [])
      | ch :: r =>
        if ch = ']' then .ok none
        else if ch = ',' && !first then .ok (some (skipBlank r))
        else if first then .ok (some (ch :: r))
        else .error (errorPast .expectedListCommaOrEnd (ch :: r))
    match start with
    | .error e => .error e
    | .ok none => .ok (c, rest)
    | .ok (some v) =>
      match v with
      | [] => .error (errorAt .eofInValue [])
      | ch :: r =>
        if ch = ']' then .error (errorPast .trailingComma (ch :: r))
        else match readField c p (ch :: r) with
          | .ok (c, r) => readElements ps c false r
          | .error e => .error e

/-- The close of an object: the brace, or the error of what stands there. -/
def closeObject (rest : List Char) : Except JsonError (List Char) :=
  match rest with
  | [] => .error (errorAt .eofInObject [])
  | ch :: r =>
    if ch = '\x7d' then .ok r
    else if ch = ',' then .error (errorPast .trailingComma (ch :: r))
    else .error (errorPast .trailingCharacters (ch :: r))

/-- The close of an array: the bracket, or the error of what stands there. -/
def closeArray (rest : List Char) : Except JsonError (List Char) :=
  match rest with
  | [] => .error (errorAt .eofInList [])
  | ']' :: r => .ok r
  | ',' :: r =>
    match skipBlank r with
    | ']' :: r' => .error (errorPast .trailingComma (']' :: r'))
    | r' => .error (errorPast .trailingCharacters r')
  | ch :: r => .error (errorPast .trailingCharacters (ch :: r))

/-- The end of a bracketed value: the close is always looked for; the first error wins, and one
without a place is placed after the look. -/
def finishBracket (result : Except Failure (Config × List Char))
    (close : List Char → Except JsonError (List Char)) : Scan Config :=
  let stop := match result with
    | .ok (_, r) => r
    | .error (_, r) => r
  let stop := skipBlank stop
  let closed := close stop
  let after := match closed with
    | .ok r => r
    | .error _ => stop
  match result, closed with
  | .ok (c, _), .ok r => .ok (c, r)
  | .error (e, _), _ => .error (e.placeAt after)
  | .ok _, .error e => .error (e.placeAt after)

/-- **A configuration** as a value: an object or an array of fields. -/
def readConfig (rest : List Char) : Scan Config :=
  match skipBlank rest with
  | [] => .error (errorAt .eofInValue [])
  | '[' :: r =>
    finishBracket ((readElements Property.all Config.default true r).mapError fun e => (e, r))
      closeArray
  | ch :: r =>
    if ch = '\x7b' then finishBracket (readMembers (r.length + 1) Config.default [] true r) closeObject
    else .error (wrongKind "struct FilterConfig" (ch :: r))

/-- **Reading a configuration** from JSON text: one value, then only blanks. -/
def Config.readJson (text : String) : Except ReadError Config :=
  let result : Except JsonError Config := do
    let (c, r) ← readConfig text.toList
    match skipBlank r with
    | [] => pure c
    | ch :: r => throw (errorPast .trailingCharacters (ch :: r))
  result.mapError fun e => e.locate text

/-- **Reading and validating** a configuration from JSON text. -/
def Config.ofJsonText (text : String) : Except Error Config := do
  let c ← (Config.readJson text).mapError Error.parse
  c.validate
  pure c

end TrafficShaper
