import TrafficShaper.Text.Extending
import TrafficShaper.Text.Printable

/-! # Quoted text

The quoted form of a text, as error messages show a value: the text between double quotes,
with five characters escaped by a backslash (NUL as `\0`, tab as `\t`, carriage return as `\r`,
line feed as `\n`, and the backslash and the double quote themselves), and every extending or
unprintable character written as `\u` followed by its code point in lowercase hexadecimal, with
no leading zeros, between braces. The single quote is written as it is.

* `escapeChar`: the written form of one character;
* `quote`: the quoted form of a text.
-/

namespace TrafficShaper.Text

/-- The code point in braces after `\u`, lowercase hexadecimal without leading zeros. -/
def unicodeEscape (c : Char) : List Char :=
  ['\\', 'u', '\x7b'] ++ Nat.toDigits 16 c.toNat ++ ['\x7d']

/-- **The written form of one character** in a quoted text. -/
def escapeChar (c : Char) : List Char :=
  if c = '\x00' then ['\\', '0']
  else if c = '\t' then ['\\', 't']
  else if c = '\r' then ['\\', 'r']
  else if c = '\n' then ['\\', 'n']
  else if c = '\\' then ['\\', '\\']
  else if c = '"' then ['\\', '"']
  else if isExtending c || !isPrintable c then unicodeEscape c
  else [c]

/-- **The quoted form** of a text. -/
def quote (s : String) : String :=
  String.ofList ('"' :: (s.toList.flatMap escapeChar ++ ['"']))

end TrafficShaper.Text
