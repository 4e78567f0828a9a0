/-! # Why a value is refused -/
namespace Fieldbus

/-- A value outside its range, with what is needed to say so. -/
inductive ValueError where
  | outOfRange (low high actual : Nat)
  | powerText (text : String)
  | heatingMode (byte : UInt8)
  deriving DecidableEq, Repr

def ValueError.message : ValueError → String
  | outOfRange low high actual =>
    "value " ++ toString actual ++ " is out of range [" ++ toString low ++ ", "
      ++ toString high ++ "]"
  | powerText text => "invalid power state: " ++ text
  | heatingMode byte => "invalid floor heating mode: " ++ toString byte.toNat

end Fieldbus
