import TrafficShaper.DecimalText.Layout

/-! # JSON values and their compact text

A JSON value is null, a boolean, an integer, a number held as a 32-bit or a 64-bit value, a
string, an array, or an object whose members keep the order they are given in.

The compact text has no blanks. A finite number is written with its shortest digits in the JSON
layout of its width, a non-finite one as `null`. In a string, the quote and the backslash are
escaped, the controls backspace, form feed, line feed, carriage return and tab by their letters,
every other control below U+0020 as `\u00` and two lowercase hexadecimal digits; everything else
is written as it is.

* `JsonValue.render`: the compact text;
* `escapeString`: the text of a string.
-/

namespace TrafficShaper.Json

open TrafficShaper.Binary

/-- **A JSON value.** -/
inductive JsonValue where
  | null
  | bool (b : Bool)
  | int (n : Int)
  | single (x : Binary32)
  | double (x : Binary64)
  | str (s : String)
  | arr (xs : List JsonValue)
  | obj (members : List (String × JsonValue))

/-- The escape of a control character as `\u00` and two lowercase hexadecimal digits. -/
def controlEscape (c : Char) : List Char :=
  let h := Nat.toDigits 16 c.toNat
  ['\\', 'u', '0', '0'] ++ List.replicate (2 - h.length) '0' ++ h

/-- The written form of one character of a string. -/
def escapeJsonChar (c : Char) : List Char :=
  if c = '"' then ['\\', '"']
  else if c = '\\' then ['\\', '\\']
  else if c = '\x08' then ['\\', 'b']
  else if c = '\x0c' then ['\\', 'f']
  else if c = '\n' then ['\\', 'n']
  else if c = '\r' then ['\\', 'r']
  else if c = '\t' then ['\\', 't']
  else if c.toNat < 0x20 then controlEscape c
  else [c]

/-- **The text of a string**, quoted and escaped. -/
def escapeString (s : String) : String :=
  String.ofList ('"' :: (s.toList.flatMap escapeJsonChar ++ ['"']))

mutual

/-- **The compact text** of a value. -/
def JsonValue.render : JsonValue → String
  | .null => "null"
  | .bool b => if b then "true" else "false"
  | .int n => toString n
  | .single x => if x.isFinite then x.jsonText else "null"
  | .double x => if x.isFinite then x.jsonText else "null"
  | .str s => escapeString s
  | .arr xs => "[" ++ renderItems xs ++ "]"
  | .obj ms => "\x7b" ++ renderMembers ms ++ "\x7d"

/-- The items of an array, comma separated. -/
def renderItems : List JsonValue → String
  | [] => ""
  | [x] => x.render
  | x :: xs => x.render ++ "," ++ renderItems xs

/-- The members of an object, comma separated. -/
def renderMembers : List (String × JsonValue) → String
  | [] => ""
  | [(k, v)] => escapeString k ++ ":" ++ v.render
  | (k, v) :: ms => escapeString k ++ ":" ++ v.render ++ "," ++ renderMembers ms

end

end TrafficShaper.Json
