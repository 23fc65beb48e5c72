import TrafficShaper.DecimalText.Layout
import TrafficShaper.Text.Quoted

/-! # Errors of JSON reading

A JSON reading error has a cause and a place. The place is a line (from 1) and a column: the
number of bytes of the line before the point, so the column of the first byte's point is 0.
Errors of the grammar are placed where they are found; errors of meaning (a value of the wrong
kind for a field, an unknown variant, a repeated field) are raised without a place and placed by
the reader at the point where it stands when the error reaches it.

Places are kept as the number of bytes of input still unread (`remaining`), which does not need
the input; `Position.ofOffset` turns the offset into line and column at the end.

* `Unexpected`, `Code`: what was found, and the causes;
* `JsonError.locate`: the error with its line and column, `ReadError`;
* `ReadError.message`: the wording, with ` at line L column C` when placed.
-/

namespace TrafficShaper.Json

open TrafficShaper.Binary TrafficShaper.DecimalText

/-- **What was found** where a value of another kind was expected. -/
inductive Unexpected where
  | null
  | bool (b : Bool)
  | unsigned (n : Nat)
  | signed (n : Int)
  | float (x : Binary64)
  | str (s : String)
  | seq
  | map
  deriving DecidableEq, Repr

/-- The wording of what was found. -/
def Unexpected.text : Unexpected → String
  | .null => "null"
  | .bool b => "boolean " ++ String.ofList ['\x60'] ++ toString b ++ String.ofList ['\x60']
  | .unsigned n => "integer " ++ String.ofList ['\x60'] ++ toString n ++ String.ofList ['\x60']
  | .signed n => "integer " ++ String.ofList ['\x60'] ++ toString n ++ String.ofList ['\x60']
  | .float x => "floating point " ++ String.ofList ['\x60'] ++ x.jsonText ++ String.ofList ['\x60']
  | .str s => "string " ++ Text.quote s
  | .seq => "sequence"
  | .map => "map"

/-- **The causes** of a reading error. -/
inductive Code where
  | eofInList
  | eofInObject
  | eofInString
  | eofInValue
  | expectedColon
  | expectedListCommaOrEnd
  | expectedObjectCommaOrEnd
  | expectedIdent
  | expectedValue
  | invalidEscape
  | invalidNumber
  | numberOutOfRange
  | controlCharacter
  | keyMustBeString
  | loneLeadingSurrogate
  | trailingComma
  | trailingCharacters
  | unexpectedEndOfHexEscape
  | invalidType (found : Unexpected) (expected : String)
  | invalidValue (found : Unexpected) (expected : String)
  | unknownVariant (name : String) (expected : List String)
  | duplicateField (name : String)
  deriving DecidableEq, Repr

/-- A name between grave accents. -/
def ticked (s : String) : String := String.ofList ['\x60'] ++ s ++ String.ofList ['\x60']

/-- The wording of a list of names: one, two joined by `or`, or `one of` a comma list. -/
def oneOf : List String → String
  | [] => "nothing"
  | [a] => ticked a
  | [a, b] => ticked a ++ " or " ++ ticked b
  | names => "one of " ++ ", ".intercalate (names.map ticked)

/-- The wording of a cause. -/
def Code.text : Code → String
  | .eofInList => "EOF while parsing a list"
  | .eofInObject => "EOF while parsing an object"
  | .eofInString => "EOF while parsing a string"
  | .eofInValue => "EOF while parsing a value"
  | .expectedColon => "expected " ++ ticked ":"
  | .expectedListCommaOrEnd => "expected " ++ ticked "," ++ " or " ++ ticked "]"
  | .expectedObjectCommaOrEnd => "expected " ++ ticked "," ++ " or " ++ ticked "\x7d"
  | .expectedIdent => "expected ident"
  | .expectedValue => "expected value"
  | .invalidEscape => "invalid escape"
  | .invalidNumber => "invalid number"
  | .numberOutOfRange => "number out of range"
  | .controlCharacter => "control character (\\u0000-\\u001F) found while parsing a string"
  | .keyMustBeString => "key must be a string"
  | .loneLeadingSurrogate => "lone leading surrogate in hex escape"
  | .trailingComma => "trailing comma"
  | .trailingCharacters => "trailing characters"
  | .unexpectedEndOfHexEscape => "unexpected end of hex escape"
  | .invalidType found expected => "invalid type: " ++ found.text ++ ", expected " ++ expected
  | .invalidValue found expected => "invalid value: " ++ found.text ++ ", expected " ++ expected
  | .unknownVariant name expected => "unknown variant " ++ ticked name ++ ", expected " ++ oneOf expected
  | .duplicateField name => "duplicate field " ++ ticked name

/-- **A reading error**: its cause and, once placed, the number of input bytes left unread. -/
structure JsonError where
  code : Code
  remaining : Option Nat
  deriving DecidableEq, Repr

/-- A line (from 1) and a column (bytes before the point on its line). -/
structure Position where
  line : Nat
  column : Nat
  deriving DecidableEq, Repr

/-- The position of the point after `offset` bytes of the input. -/
def Position.ofOffset (input : List UInt8) (offset : Nat) : Position :=
  (input.take offset).foldl
    (fun p b => if b = 10 then ⟨p.line + 1, 0⟩ else ⟨p.line, p.column + 1⟩) ⟨1, 0⟩

/-- **A located reading error**: the cause and, if placed, its line and column. -/
structure ReadError where
  code : Code
  position : Option Position
  deriving DecidableEq, Repr

/-- The error of reading `input`, located. -/
def JsonError.locate (e : JsonError) (input : String) : ReadError :=
  let bytes := input.toUTF8.toList
  ⟨e.code, e.remaining.map fun r => Position.ofOffset bytes (bytes.length - r)⟩

/-- **The wording of an error**: the cause, then its line and column when placed. -/
def ReadError.message (e : ReadError) : String :=
  match e.position with
  | none => e.code.text
  | some p => e.code.text ++ " at line " ++ toString p.line ++ " column " ++ toString p.column

end TrafficShaper.Json
