import Fieldbus.Json.Printer
import Fieldbus.Text.Quoted

/-! # What can be wrong with a JSON text, and where -/
namespace Fieldbus.Json

/-- What was found where something else was wanted. -/
inductive Found where
  | null
  | boolean (value : Bool)
  | number (value : Number)
  | text (value : String)
  | sequence
  | map
  /-- A variant that came without its payload. -/
  | bareVariant

def Found.describe : Found → String
  | null => "null"
  | boolean true => "boolean `true`"
  | boolean false => "boolean `false`"
  | number (.integer value h) =>
    "integer `" ++ String.ofList (Number.integer value h).render ++ "`"
  | number (.float value) => "floating point `" ++ String.ofList (floatLayout.format value) ++ "`"
  | text value => "string " ++ String.ofList (Text.quoted value.toList)
  | sequence => "sequence"
  | map => "map"
  | bareVariant => "unit variant"

/-- What is wrong. The first group concerns the form of the text, the second its content. -/
inductive Cause where
  | endInValue
  | endInList
  | endInObject
  | endInString
  | expectedValue
  | expectedIdent
  | expectedColon
  | expectedCommaOrBracket
  | expectedCommaOrBrace
  | keyNotString
  | trailingComma
  | trailingCharacters
  | invalidNumber
  | numberOutOfRange
  | invalidEscape
  | controlCharacter
  | loneSurrogate
  | endOfHexEscape
  | nestedTooDeep
  | wrongType (found : Found) (expected : String)
  | wrongInteger (value : Int) (expected : String)
  | wrongLength (length : Nat) (expected : String)
  | unknownVariant (name : String) (known : List String)
  | missingField (name : String)
  | duplicateField (name : String)
  /-- A value of the right type that the reader refuses for a reason of its own. -/
  | refused (reason : String)

namespace Cause

/-- Names between backquotes, the way a choice among them is put. -/
def oneOf : List String → String
  | [] => "there are no variants"
  | [a] => "expected `" ++ a ++ "`"
  | [a, b] => "expected `" ++ a ++ "` or `" ++ b ++ "`"
  | names => "expected one of " ++ ", ".intercalate (names.map fun name => "`" ++ name ++ "`")

def message : Cause → String
  | endInValue => "EOF while parsing a value"
  | endInList => "EOF while parsing a list"
  | endInObject => "EOF while parsing an object"
  | endInString => "EOF while parsing a string"
  | expectedValue => "expected value"
  | expectedIdent => "expected ident"
  | expectedColon => "expected `:`"
  | expectedCommaOrBracket => "expected `,` or `]`"
  | expectedCommaOrBrace => "expected `,` or `\x7d`"
  | keyNotString => "key must be a string"
  | trailingComma => "trailing comma"
  | trailingCharacters => "trailing characters"
  | invalidNumber => "invalid number"
  | numberOutOfRange => "number out of range"
  | invalidEscape => "invalid escape"
  | controlCharacter => "control character (\\u0000-\\u001F) found while parsing a string"
  | loneSurrogate => "lone leading surrogate in hex escape"
  | endOfHexEscape => "unexpected end of hex escape"
  | nestedTooDeep => "recursion limit exceeded"
  | wrongType found expected => "invalid type: " ++ found.describe ++ ", expected " ++ expected
  | wrongInteger value expected =>
    "invalid value: integer `" ++ String.ofList (renderInteger value) ++ "`, expected " ++ expected
  | wrongLength length expected => "invalid length " ++ toString length ++ ", expected " ++ expected
  | unknownVariant name known => "unknown variant `" ++ name ++ "`, " ++ oneOf known
  | missingField name => "missing field `" ++ name ++ "`"
  | duplicateField name => "duplicate field `" ++ name ++ "`"
  | refused reason => reason

end Cause

/-- The line, counted from one, and the number of bytes in it before a place given in bytes. -/
def lineAndColumn (text : List Char) (offset : Nat) : Nat × Nat :=
  go text offset 1 0
where
  go : List Char → Nat → Nat → Nat → Nat × Nat
    | [], _, line, column => (line, column)
    | c :: rest, left, line, column =>
      if left = 0 then (line, column)
      else if c = '\n' then go rest (left - 1) (line + 1) 0
      else go rest (left - c.utf8Size) line (column + Nat.min left c.utf8Size)

/-- The answer to a text that cannot be read. A fault that no number, text, array or object
encloses has no place. -/
structure ReadError where
  cause : Cause
  place : Option (Nat × Nat)

/-- The cause, with the place behind it if there is one. -/
def ReadError.message (e : ReadError) : String :=
  e.cause.message ++
    match e.place with
    | none => ""
    | some (line, column) => " at line " ++ toString line ++ " column " ++ toString column

end Fieldbus.Json
