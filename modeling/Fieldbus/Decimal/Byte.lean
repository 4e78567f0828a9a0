/-! # Bytes written in decimal digits -/
namespace Fieldbus.Decimal

/-- Reads a byte: at most one plus sign, then digits only, as many as there are, as long as the
number stays below 256. -/
def readByte? (s : List Char) : Option UInt8 :=
  let digits :=
    match s with
    | '+' :: rest => rest
    | _ => s
  if digits.isEmpty || !digits.all Char.isDigit then none
  else
    let n := Nat.ofDigitChars 10 digits 0
    if n < 256 then some (UInt8.ofNat n) else none

end Fieldbus.Decimal
