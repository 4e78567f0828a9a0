import Fieldbus.Json.Numeral
import Fieldbus.Json.TextReader

/-! # What a value is, told from its beginning -/
namespace Fieldbus.Json

/-- A scalar is read to its end; of an array or an object only the kind is told. -/
inductive Head where
  | null
  | boolean (value : Bool)
  | number (value : Number)
  | text (value : String)
  | sequence
  | map

/-- The head as it is named in a fault. -/
def Head.found : Head → Found
  | null => .null
  | boolean value => .boolean value
  | number value => .number value
  | text value => .text value
  | sequence => .sequence
  | map => .map

/-- Reads a scalar, or stops in front of an opening bracket. -/
def headReader (c : Cursor) : Reading (Head × Cursor) := do
  let c := c.skipLayout
  match c.ahead with
  | [] => c.failAhead .endInValue
  | x :: _ =>
    if x = 'n' then return (.null, ← (c.skip 1).word "ull".toList)
    else if x = 't' then return (.boolean true, ← (c.skip 1).word "rue".toList)
    else if x = 'f' then return (.boolean false, ← (c.skip 1).word "alse".toList)
    else if x = '"' then
      let (s, c) ← textReader (c.skip 1)
      return (.text s, c)
    else if x = '-' || x.isDigit then
      let (n, c) ← numeralReader c
      return (.number n, c)
    else if x = '[' then return (.sequence, c)
    else if x = '\x7b' then return (.map, c)
    else c.failAhead .expectedValue

/-- Refuses a value of the wrong kind, at the place where its head ends. -/
def Head.mismatch {α : Type} (head : Head) (expected : String) (c : Cursor) : Reading α :=
  c.fail (.wrongType head.found expected)

end Fieldbus.Json
