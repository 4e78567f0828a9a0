import Fieldbus.Decimal.Layout
import Fieldbus.Json.Value

/-! # Writing JSON without any white space -/
namespace Fieldbus.Json

/-! ## Numbers -/

/-- Numbers from `0.00001` to below `10 ^ 16` have no exponent; a positive exponent has its
sign. -/
def floatLayout : Decimal.Layout :=
  { plainFrom := -5, plainUpTo := 15, point := '.', exponentMark := 'e', exponentPlus := true }

/-- Decimal digits behind the sign of a negative number. -/
def renderInteger (value : Int) : List Char :=
  if value < 0 then '-' :: Nat.toDigits 10 value.natAbs else Nat.toDigits 10 value.natAbs

/-- Infinities and NaN have no written form; `null` stands for them. -/
def Number.render : Number → List Char
  | integer value _ => renderInteger value
  | float value => if value.isFinite then floatLayout.format value else "null".toList

/-! ## Texts -/

/-- Quotes, backslashes and control characters are escaped, and nothing else. -/
def escape (c : Char) : List Char :=
  match c with
  | '"' => ['\\', '"']
  | '\\' => ['\\', '\\']
  | '\x08' => ['\\', 'b']
  | '\t' => ['\\', 't']
  | '\n' => ['\\', 'n']
  | '\x0c' => ['\\', 'f']
  | '\r' => ['\\', 'r']
  | c =>
    if c.toNat < 0x20 then
      ['\\', 'u', '0', '0', Nat.digitChar (c.toNat / 16), Nat.digitChar (c.toNat % 16)]
    else
      [c]

/-- A text between quotes. -/
def renderText (s : String) : List Char :=
  '"' :: (s.toList.flatMap escape ++ ['"'])

/-! ## Values -/

mutual

/-- A value. Members keep the order in which they stand. -/
def Value.render : Value → List Char
  | .null => "null".toList
  | .boolean true => "true".toList
  | .boolean false => "false".toList
  | .number n => n.render
  | .text s => renderText s
  | .array items => '[' :: (renderItems items ++ [']'])
  | .object members => '\x7b' :: (renderMembers members ++ ['\x7d'])

/-- Items with a comma between any two. -/
def renderItems : List Value → List Char
  | [] => []
  | [item] => item.render
  | item :: next :: rest => item.render ++ ',' :: renderItems (next :: rest)

/-- Members with a comma between any two. -/
def renderMembers : List (String × Value) → List Char
  | [] => []
  | [(name, value)] => renderText name ++ ':' :: value.render
  | (name, value) :: next :: rest =>
    renderText name ++ ':' :: (value.render ++ ',' :: renderMembers (next :: rest))

end

/-- The text of a value. -/
def Value.toText (value : Value) : String :=
  String.ofList value.render

end Fieldbus.Json
