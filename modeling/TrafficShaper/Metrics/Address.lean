/-! # Socket addresses

A socket address is an IPv4 address and a port, `a.b.c.d:port`, or an IPv6 address in brackets
with an optional numeric scope and a port, `[addr%scope]:port`. The whole text must be one
address.

**Reading.** An IPv4 octet is one to three decimal digits, at most 255, without a leading zero
unless it is `0`. A port is decimal digits (leading zeros allowed) up to 65535, a scope up to
2³² - 1. An IPv6 address is up to eight groups of one to four hexadecimal digits separated by
colons, where the last two groups may be written as an IPv4 address; one `::` may stand for one
or more zero groups, and no IPv4 part may come before it.

**Writing.** IPv4 as four decimals. IPv6 in lowercase hexadecimal without leading zeros, the
first longest run of two or more zero groups written `::`, and an IPv4-mapped address
(`::ffff:` and an IPv4 address) with its IPv4 part in decimal.

* `SocketAddress.ofString?`, `SocketAddress.text`.
-/

namespace TrafficShaper

/-- **A host address.** -/
inductive Host where
  | v4 (a b c d : Nat)
  | v6 (groups : List Nat) (scope : Nat)
  deriving DecidableEq, Repr

/-- **A socket address**: a host and a port. -/
structure SocketAddress where
  host : Host
  port : Nat
  deriving DecidableEq, Repr

namespace SocketAddress

/-- The value of a digit in a radix. -/
def digitIn (radix : Nat) (c : Char) : Option Nat :=
  let v := if '0' ≤ c ∧ c ≤ '9' then some (c.toNat - '0'.toNat)
    else if 'a' ≤ c ∧ c ≤ 'z' then some (c.toNat - 'a'.toNat + 10)
    else if 'A' ≤ c ∧ c ≤ 'Z' then some (c.toNat - 'A'.toNat + 10)
    else none
  v.bind fun d => if d < radix then some d else none

/-- The longest run of digits of a radix: its value, its length, and the rest. -/
def takeDigits (radix : Nat) : List Char → Nat × Nat × List Char
  | [] => (0, 0, [])
  | c :: r =>
    match digitIn radix c with
    | none => (0, 0, c :: r)
    | some d =>
      let (v, n, rest) := takeDigits radix r
      (d * radix ^ n + v, n + 1, rest)

/-- A number: at least one digit, at most `maxDigits` if given, at most `bound`, and without a
leading zero unless allowed. -/
def readNumber (radix : Nat) (maxDigits : Option Nat) (zeroPrefix : Bool) (bound : Nat)
    (cs : List Char) : Option (Nat × List Char) :=
  let (v, n, rest) := takeDigits radix cs
  let leadingZero := cs.head? = some '0'
  if n = 0 then none
  else if (maxDigits.map fun m => decide (m < n)).getD false then none
  else if !zeroPrefix && leadingZero && 1 < n then none
  else if bound < v then none
  else some (v, rest)

/-- A given character first. -/
def expectChar (c : Char) : List Char → Option (List Char)
  | d :: r => if d = c then some r else none
  | [] => none

/-- An IPv4 address: four octets separated by points. -/
def readIpv4 (cs : List Char) : Option ((Nat × Nat × Nat × Nat) × List Char) := do
  let (a, r) ← readNumber 10 (some 3) false 255 cs
  let (b, r) ← readNumber 10 (some 3) false 255 (← expectChar '.' r)
  let (c, r) ← readNumber 10 (some 3) false 255 (← expectChar '.' r)
  let (d, r) ← readNumber 10 (some 3) false 255 (← expectChar '.' r)
  pure ((a, b, c, d), r)

/-- Colon-separated IPv6 groups, at most `slots` of them, the first at `first`: the groups read,
whether they ended with an IPv4 part, and the rest. -/
def readGroups : Nat → Bool → List Char → List Nat × Bool × List Char
  | 0, _, cs => ([], false, cs)
  | slots + 1, first, cs =>
    let afterSep := if first then some cs else expectChar ':' cs
    let asIpv4 := if 0 < slots then afterSep.bind readIpv4 else none
    match asIpv4 with
    | some ((a, b, c, d), r) => ([a * 256 + b, c * 256 + d], true, r)
    | none =>
      match afterSep.bind (readNumber 16 (some 4) true 65535) with
      | some (g, r) =>
        let (gs, v4, rest) := readGroups slots false r
        (g :: gs, v4, rest)
      | none => ([], false, cs)

/-- An IPv6 address: eight groups, or groups before and after one `::`. -/
def readIpv6 (cs : List Char) : Option (List Nat × List Char) :=
  let (head, v4, rest) := readGroups 8 true cs
  if head.length = 8 then some (head, rest)
  else if v4 then none
  else do
    let r ← expectChar ':' rest
    let r ← expectChar ':' r
    let (tail, _, r) := readGroups (7 - head.length) true r
    pure (head ++ List.replicate (8 - head.length - tail.length) 0 ++ tail, r)

/-- A port after its colon. -/
def readPort (cs : List Char) : Option (Nat × List Char) :=
  (expectChar ':' cs).bind (readNumber 10 none true 65535)

/-- An IPv4 socket address. -/
def readSocketV4 (cs : List Char) : Option (SocketAddress × List Char) := do
  let ((a, b, c, d), r) ← readIpv4 cs
  let (port, r) ← readPort r
  pure (⟨.v4 a b c d, port⟩, r)

/-- An IPv6 socket address in brackets, with an optional scope. -/
def readSocketV6 (cs : List Char) : Option (SocketAddress × List Char) := do
  let r ← expectChar '[' cs
  let (groups, r) ← readIpv6 r
  let (scope, r) := match (expectChar '%' r).bind (readNumber 10 none true (Nat.pow 2 32 - 1)) with
    | some (s, r') => (s, r')
    | none => (0, r)
  let r ← expectChar ']' r
  let (port, r) ← readPort r
  pure (⟨.v6 groups scope, port⟩, r)

/-- **Reading a socket address**: IPv4 first, else IPv6; nothing may follow. -/
def ofString? (s : String) : Option SocketAddress :=
  let cs := s.toList
  match readSocketV4 cs with
  | some (a, []) => some a
  | some _ => none
  | none =>
    match readSocketV6 cs with
    | some (a, []) => some a
    | _ => none

/-- Groups in lowercase hexadecimal, colon separated. -/
def hexGroups (gs : List Nat) : String := ":".intercalate (gs.map fun g => String.ofList (Nat.toDigits 16 g))

/-- The first longest run of zero groups: its start and length. -/
def longestZeros (gs : List Nat) : Nat × Nat :=
  let step := fun (acc : (Nat × Nat) × (Nat × Nat)) (ig : Nat × Nat) =>
    let ((bs, bl), (cs, cl)) := acc
    let (i, g) := ig
    if g = 0 then
      let cur := if cl = 0 then (i, 1) else (cs, cl + 1)
      (if bl < cur.2 then cur else (bs, bl), cur)
    else ((bs, bl), (0, 0))
  ((gs.zipIdx.map fun (g, i) => (i, g)).foldl step ((0, 0), (0, 0))).1

/-- The text of an IPv6 address. -/
def ipv6Text (gs : List Nat) : String :=
  match gs with
  | [0, 0, 0, 0, 0, 0xFFFF, x, y] =>
    "::ffff:" ++ toString (x / 256) ++ "." ++ toString (x % 256) ++ "." ++ toString (y / 256) ++
      "." ++ toString (y % 256)
  | _ =>
    let (start, len) := longestZeros gs
    if 1 < len then hexGroups (gs.take start) ++ "::" ++ hexGroups (gs.drop (start + len))
    else hexGroups gs

/-- **The text of a socket address.** -/
def text (a : SocketAddress) : String :=
  match a.host with
  | .v4 w x y z =>
    toString w ++ "." ++ toString x ++ "." ++ toString y ++ "." ++ toString z ++ ":" ++ toString a.port
  | .v6 gs scope =>
    "[" ++ ipv6Text gs ++ (if scope = 0 then "" else "%" ++ toString scope) ++ "]:" ++ toString a.port

end SocketAddress

end TrafficShaper
