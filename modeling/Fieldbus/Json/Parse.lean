import Fieldbus.Json.Reader

/-! # Reading a whole text -/
namespace Fieldbus.Json

/-- How many arrays and objects a text may nest. -/
def nestingLimit : Nat := 127

/-- The answer to a fault in a text. -/
def Fault.report (text : List Char) (fault : Fault) : ReadError :=
  { cause := fault.cause
    place :=
      match fault.place with
      | .at offset => some (lineAndColumn text offset)
      | .pending _ => none }

/-- Reads a text that holds one value and nothing else, entering at most so many arrays and
objects. -/
def parseWithin {α : Type} (depth : Nat) (reader : Reader α) (text : String) :
    Except ReadError α :=
  let whole : Reading α := do
    let (a, c) ← reader depth (.ofText text.toList)
    let c := c.skipLayout
    if c.ahead.isEmpty then return a else c.failAhead .trailingCharacters
  whole.mapError (·.report text.toList)

/-- Reads a text that holds one value and nothing else. -/
def parse {α : Type} (reader : Reader α) (text : String) : Except ReadError α :=
  parseWithin nestingLimit reader text

end Fieldbus.Json
