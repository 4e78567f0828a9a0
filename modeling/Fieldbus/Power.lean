import Fieldbus.Text.Case
import Fieldbus.ValueError

/-! # On and off -/
namespace Fieldbus

/-- The state of a relay. -/
inductive Power where
  | off
  | on
  deriving DecidableEq, Repr

namespace Power

def ofBool : Bool → Power
  | false => off
  | true => on

/-- Every level but zero is on. -/
def ofLevel (level : UInt8) : Power :=
  if level = 0 then off else on

def isOn : Power → Bool
  | off => false
  | on => true

def label : Power → String
  | off => "OFF"
  | on => "ON"

/-- Reads a state from its name, its digit or its truth value, in any case. -/
def parse (text : String) : Except ValueError Power :=
  let capitals := String.ofList (Text.upper text.toList)
  if capitals = "OFF" ∨ capitals = "0" ∨ capitals = "FALSE" then .ok off
  else if capitals = "ON" ∨ capitals = "1" ∨ capitals = "TRUE" then .ok on
  else .error (.powerText text)

end Power
end Fieldbus
